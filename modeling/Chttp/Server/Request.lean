import Chttp.Lib.Pairs
import Chttp.Server.Session.Store

/-!
# What handlers read of a request
-/

namespace Chttp.Server

open Lib

/-- `chttp_method`. -/
inductive Method where
  | get
  | head
  | post
  | put
  | delete
  | patch
  | options
  | connect
  deriving DecidableEq, Repr

/-- `chttp_server_ascii_equal`. -/
def asciiEqual (left right : Bytes) : Bool := equalFold left right

/-- The loop of `chttp_server_request_header`. -/
def findHeader (headers : List (CString × CString)) (name : Bytes) :
    Option CString :=
  (headers.find? fun field => asciiEqual field.1.bytes name).map (·.2)

/-- `chttp_server_request_view`, as far as sessions and uploads read it. -/
structure RequestView where
  method : Method
  headers : List (CString × CString)
  session : Option SessionContext
  bodyStreamed : Bool
  /-- The body went to the sink of this upload. -/
  bodySinkUser : Bool
  deriving DecidableEq, Repr

/-- `chttp_server_request_header`. -/
def RequestView.header (request : RequestView) (name : Bytes) :
    Option CString :=
  findHeader request.headers name

/-! ## Cookies -/

/-- The fields with the name `Cookie`. -/
def cookieFields (headers : List (CString × CString)) :
    List (CString × CString) :=
  headers.filter fun field => asciiEqual field.1.bytes (ascii "Cookie")

/-- The pairs of all fields with the name `Cookie`. -/
def cookieInformation (headers : List (CString × CString)) :
    List (Bytes × Bytes) :=
  (cookieFields headers).flatMap fun field => cookiePairs field.2.bytes

/-- A lookup finds the first of the fields. -/
theorem findHeader_cookie (headers : List (CString × CString)) :
    findHeader headers (ascii "Cookie") =
      (cookieFields headers).head?.map (·.2) := by
  unfold findHeader cookieFields
  rw [List.head?_filter]

end Chttp.Server
