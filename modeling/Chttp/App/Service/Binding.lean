import Chttp.App.Form
import Chttp.Lib.Strto
import Chttp.Server.Request

/-!
# Binding the values of a request

A service method has a plan whose entries name values of the request.  An entry
is opened: its value is found, decoded into the scratch buffer of the invocation
if it is part of the target, and turned into a token.  Texts are not copied; a
token of a text is a view of the buffer or of the request.

The conversion of floating-point numbers is that of the C library and stays a
parameter.
-/

namespace Chttp.App

open Lib Server

/-! ## Plans -/

/-- `address.space` of a plan entry. -/
inductive BindingSpace where
  | path
  | query
  | header
  | cookie
  | body
  | other
  deriving DecidableEq, Repr

/-- `cmeta_data_desc.kind`, as far as bindings tell them apart. -/
inductive DataKind where
  | bool
  | sint
  | uint
  | float
  | string
  | enum
  | bytes
  | other
  deriving DecidableEq, Repr

/-- `DataBindBindingPlanEntry`. -/
structure PlanEntry where
  space : BindingSpace
  name : CString
  kind : DataKind
  deriving DecidableEq, Repr

/-- What bindings read of `chttp_server_request_view`. -/
structure BindingRequest where
  target : CString
  params : List (CString × CString)
  headers : List (CString × CString)
  deriving DecidableEq, Repr

/-- `DataBindStatus` of a failure. -/
inductive BindStatus where
  | limit
  | parse
  | typeMismatch
  | runtime
  | schema
  deriving DecidableEq, Repr

/-- A failure, with the message of `chttp_service_error_set` if there is one. -/
structure BindFault where
  code : BindStatus
  message : Option String
  deriving DecidableEq, Repr

/-- Where a text lies: in the request, or in front of the scratch buffer. -/
inductive TextView where
  | request (text : Bytes)
  | scratch (size : Nat)
  deriving DecidableEq, Repr

/-- What a view shows while the buffer has these contents. -/
def TextView.read (scratch : Bytes) : TextView → Bytes
  | .request text => text
  | .scratch size => scratch.take size

/-- `cserde_token`; slices have the lifetime `CSERDE_VIEW_STABLE`. -/
inductive BindToken (Real : Type) where
  | boolean (value : Bool)
  | sint (value : Int)
  | uint (value : Nat)
  | floating (value : Real)
  | string (view : TextView)
  | bytes (view : TextView)
  deriving DecidableEq, Repr

/-- `chttp_service_impl`, with `strtod`. -/
structure BindingService (Real : Type) where
  scalarCapacity : Nat
  strtod : Bytes → Option (Real × Bytes)

/-! ## Finding a value -/

/-- `chttp_server_request_param`. -/
def BindingRequest.param (request : BindingRequest) (name : CString) :
    Option Bytes :=
  (request.params.find? fun param => param.1 == name).map (·.2.bytes)

/-- `chttp_server_request_header`. -/
def BindingRequest.header (request : BindingRequest) (name : Bytes) :
    Option Bytes :=
  (findHeader request.headers name).map (·.bytes)

/-- The loop of `chttp_service_query_value`: the first value of a name. -/
def queryLoop (name cursor : Bytes) : Option Bytes :=
  let pair := cursor.takeWhile (· ≠ ampersand)
  let key := pair.takeWhile (· ≠ equalsSign)
  if cursor.head?.all (· == 35) then none
  else if key = name then some (pair.drop (key.length + 1))
  else
    match _rest : cursor.drop pair.length with
    | [] => none
    | _ :: others => queryLoop name others
termination_by cursor.length
decreasing_by
  have shorter := congrArg List.length _rest
  rw [List.length_drop, List.length_cons] at shorter
  omega

/-- `chttp_service_query_value`, up to the decoding. -/
def BindingRequest.queryValue (request : BindingRequest) (name : Bytes) :
    Option Bytes :=
  match request.target.bytes.dropWhile (· ≠ 63) with
  | [] => none
  | _ :: query => queryLoop name query

/-- The loop of `chttp_service_cookie_value`. -/
def cookieLoop (name cursor : Bytes) : Option Bytes :=
  let start := cursor.dropWhile cookieSkipped
  let segment := start.takeWhile (· ≠ 59)
  let key := segment.takeWhile (· ≠ equalsSign)
  if key.length < segment.length ∧ key.rdropWhile blank = name then
    some (trim (segment.drop (key.length + 1)))
  else
    match _rest : start.drop segment.length with
    | [] => none
    | _ :: others => cookieLoop name others
termination_by cursor.length
decreasing_by
  have shorter := congrArg List.length _rest
  have suffix : start.length ≤ cursor.length :=
    (List.dropWhile_suffix _).length_le
  rw [List.length_drop, List.length_cons] at shorter
  omega

/-- `chttp_service_cookie_value`. -/
def BindingRequest.cookieValue (request : BindingRequest) (name : Bytes) :
    Option Bytes :=
  (request.header (ascii "Cookie")).bind (cookieLoop name)

/-! ## Decoding -/

/-- The loop of `chttp_service_decode_component`: what it has written when it
stops, and why it fails. -/
def decodeLoop (plusIsSpace : Bool) : Nat → Bytes → Bytes × Option BindFault
  | _, [] => ([], none)
  | room, value :: source =>
    if value = percentSign then
      match source with
      | first :: second :: source =>
        match Percent.digitValue first, Percent.digitValue second with
        | some high, some low =>
          if room = 0 then ([], some tooLong)
          else
            let (decoded, fault) := decodeLoop plusIsSpace (room - 1) source
            ((high * 16 + low) :: decoded, fault)
        | _, _ => ([], some ⟨.parse, some "Malformed HTTP percent escape"⟩)
      | _ => ([], some ⟨.parse, some "Truncated HTTP percent escape"⟩)
    else if room = 0 then ([], some tooLong)
    else
      let (decoded, fault) := decodeLoop plusIsSpace (room - 1) source
      ((if plusIsSpace && value == 43 then 32 else value) :: decoded, fault)
where
  /-- The buffer is full. -/
  tooLong : BindFault :=
    ⟨.limit, some "HTTP binding value exceeds configured bound"⟩

/-- `chttp_service_decode_component`: its outcome, and the buffer behind it. -/
def decodeComponent (capacity : Nat) (scratch source : Bytes)
    (plusIsSpace : Bool) :
    Except BindFault (Option TextView) × Bytes :=
  if capacity < source.length then (.error decodeLoop.tooLong, scratch)
  else
    match decodeLoop plusIsSpace capacity source with
    | (decoded, none) =>
      (.ok (some (.scratch decoded.length)), overlay scratch 0 (decoded ++ [0]))
    | (decoded, some fault) => (.error fault, overlay scratch 0 decoded)

/-! ## Opening an entry -/

namespace BindingService

variable {Real : Type} (service : BindingService Real)

/-- The text of an entry, if the request has one. -/
def locate (request : BindingRequest) (entry : PlanEntry) (scratch : Bytes) :
    Except BindFault (Option TextView) × Bytes :=
  match entry.space with
  | .path =>
    match request.param entry.name with
    | none => (.ok none, scratch)
    | some raw => decodeComponent service.scalarCapacity scratch raw false
  | .query =>
    match request.queryValue entry.name.bytes with
    | none => (.ok none, scratch)
    | some raw => decodeComponent service.scalarCapacity scratch raw true
  | .header => (.ok ((request.header entry.name.bytes).map .request), scratch)
  | .cookie => (.ok ((request.cookieValue entry.name.bytes).map .request),
      scratch)
  | .body =>
    (.error ⟨.runtime,
      some
        "Structured HTTP body binding requires shared DataBind FormatPlan support"⟩,
      scratch)
  | .other =>
    (.error ⟨.schema,
      some "Unsupported generated HTTP BindingPlan address space"⟩, scratch)

/-- `chttp_service_scalar_reader_init`; numbers are read from a copy in the
scratch buffer, up to its first zero. -/
def scalarReaderInit (kind : DataKind) (view : TextView) (scratch : Bytes) :
    Except BindFault (BindToken Real) × Bytes :=
  let text := view.read scratch
  let copy := overlay scratch 0 (text ++ [0])
  let string := text.takeWhile (· != 0)
  match kind with
  | .bool =>
    if text = ascii "true" ∨ text =
      ascii "1" then (.ok (.boolean true), scratch)
    else if text = ascii "false" ∨
      text = ascii "0" then (.ok (.boolean false), scratch)
    else (.error ⟨.parse, some "Invalid boolean HTTP binding value"⟩, scratch)
  | .sint =>
    if service.scalarCapacity <
      text.length then (.error ⟨.limit, none⟩, scratch)
    else
      (converted ⟨.parse, some "Invalid signed HTTP binding value"⟩ .sint
        (strtoll string), copy)
  | .uint =>
    if text = [] ∨ text.head? = some 45 ∨
      service.scalarCapacity < text.length then
      (.error ⟨.parse, some "Invalid unsigned HTTP binding value"⟩, scratch)
    else
      (converted ⟨.parse, some "Invalid unsigned HTTP binding value"⟩ .uint
        (strtoull string), copy)
  | .float =>
    if service.scalarCapacity <
      text.length then (.error ⟨.limit, none⟩, scratch)
    else
      (converted ⟨.parse, some "Invalid floating HTTP binding value"⟩ .floating
        (service.strtod string), copy)
  | .string => (.ok (.string view), scratch)
  | .enum => (.ok (.string view), scratch)
  | .bytes => (.ok (.bytes view), scratch)
  | .other =>
    (.error ⟨.typeMismatch,
      some "Phase-1 HTTP scalar binding requires scalar/string/bytes/enum data"⟩,
      scratch)

/-- `chttp_service_http_open_input`: `none` is the state
`DATA_BIND_VALUE_STATE_ABSENT`. -/
def openInput (request : BindingRequest) (entry : PlanEntry) (scratch : Bytes) :
    Except BindFault (Option (BindToken Real)) × Bytes :=
  match service.locate request entry scratch with
  | (.error fault, scratch) => (.error fault, scratch)
  | (.ok none, scratch) => (.ok none, scratch)
  | (.ok (some view), scratch) =>
    match service.scalarReaderInit entry.kind view scratch with
    | (.error fault, scratch) => (.error fault, scratch)
    | (.ok token, scratch) => (.ok (some token), scratch)

/-- Entries which are opened one after the other in one invocation. -/
def openAll (request : BindingRequest) : List PlanEntry → Bytes →
    List (Except BindFault (Option (BindToken Real))) × Bytes
  | [], scratch => ([], scratch)
  | entry :: entries, scratch =>
    let (outcome, scratch) := service.openInput request entry scratch
    let (outcomes, scratch) := openAll request entries scratch
    (outcome :: outcomes, scratch)

end BindingService

end Chttp.App
