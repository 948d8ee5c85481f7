import Chttp.App.Multipart.Parser
import Chttp.Server.Request

/-!
# Upload transactions

An upload passes the parts of a request to the application while the request
arrives, and lets the application commit them only when everything about the
request was right.  The application is the environment: its callbacks belong to
the transaction which was opened with them and work on a state which all
transactions share.

A callback is written down when it is made, with the number of its transaction.
Two fields of an upload are for this record only, its number and the octets
which its sink was given; no function reads them.
-/

namespace Chttp.App

open Lib Server

/-- `chttp_web_request_is_htmx`. -/
def requestIsHtmx (request : RequestView) : Bool :=
  (request.header (ascii "HX-Request")).any (·.bytes == ascii "true")

/-! ## CSRF tokens -/

/-- `CHTTP_WEB_CSRF_TOKEN_BYTES`. -/
def csrfTokenBytes : Nat := 64

/-- `CHTTP_WEB_CSRF_SESSION_KEY`. -/
def csrfSessionKey : CString where
  bytes := ascii "__chttp_web_csrf_v1"
  unterminated := by decide

/-- `chttp_web_csrf_token_valid`. -/
def csrfTokenValid (token : Bytes) : Bool := token.length == csrfTokenBytes &&
    token.all fun octet =>
      (48 ≤ octet && octet ≤ 57) || (97 ≤ octet && octet ≤ 102)

/-- `chttp_web_csrf_token`, for the session of a request. -/
def csrfToken (session : Option SessionContext) : Option Bytes :=
  (session.bind (·.get csrfSessionKey)).bind fun entry =>
    if csrfTokenValid entry.value.bytes then some entry.value.bytes else none

/-- `chttp_web_csrf_method_unsafe`. -/
def csrfMethodUnsafe : Method → Bool
  | .post => true
  | .put => true
  | .patch => true
  | .delete => true
  | _ => false

/-- `chttp_web_csrf_validate_token`; a token is not there when the request has
no candidate. -/
def csrfValidateToken (request : RequestView) (token : Option Bytes) :
    WebError :=
  let refuse (message : String) : WebError := ⟨.csrf, .ok, 0, message⟩
  if !csrfMethodUnsafe request.method then ⟨.ok, .ok, 0, ""⟩
  else
    match csrfToken request.session, token with
    | none, _ => refuse "CSRF session token is missing"
    | some _, none => refuse "CSRF token is missing or malformed"
    | some expected, some token =>
      if token.length ≠ csrfTokenBytes then
        refuse "CSRF token is missing or malformed"
      else if expected ≠ token then
        refuse "CSRF token does not match the current session"
      else ⟨.ok, .ok, 0, ""⟩

/-! ## Uploads -/

/-- `chttp_web_upload_callbacks`, on the state of the application. -/
structure UploadCallbacks (Application : Type*) where
  begin_ : RequestView → Application → Status × Application
  partBegin : MultipartPart → Application → Status × Application
  partData : Bytes → Application → Status × Application
  partEnd : Application → Status × Application
  commit : Application → Status × Application
  abort : WebStatus → Status → Application → Application

/-- The states of an upload. -/
inductive UploadState where
  | idle
  | streaming
  | bodyComplete
  | committed
  | aborted
  deriving DecidableEq, Repr

/-- `chttp_web_upload_request` between `chttp_web_upload_open` and
`chttp_web_upload_reset`. -/
structure Upload (Application : Type*) where
  multipart : MultipartParser
  callbacks : UploadCallbacks Application
  /-- The first `csrf_size` octets of `csrf_token`. -/
  csrfToken : Bytes
  csrfCount : Nat
  terminalStatus : WebStatus
  terminalNativeStatus : Status
  state : UploadState
  csrfPart : Bool
  begun : Bool
  /-- The number of the transaction. -/
  transaction : Nat
  /-- What the sink was given. -/
  written : Bytes

/-- A callback which was made.  A commit is recorded with what it rests on: the
boundary of the form, the octets of the body, the request which was finalized
and the token which it brought. -/
inductive UploadEvent where
  | begins (status : Status)
  | partBegins (part : MultipartPart)
  | partData (data : Bytes)
  | partEnds
  | commits (boundary written : Bytes) (request : RequestView)
      (token : Option Bytes) (status : Status)
  | aborts (status : WebStatus) (nativeStatus : Status)
  deriving DecidableEq, Repr

/-- The application, and the callbacks which were made. -/
structure Outside (Application : Type*) where
  application : Application
  log : List (Nat × UploadEvent)

variable {Application : Type*}

/-- Make a callback. -/
def Outside.call (outside : Outside Application) (transaction : Nat)
    (event : UploadEvent) (application : Application) :
    Outside Application where
  application := application
  log := outside.log ++ [(transaction, event)]

namespace Upload

variable (upload : Upload Application) (outside : Outside Application)

/-- `chttp_web_upload_abort_once`. -/
def abortOnce (status : WebStatus) (nativeStatus : Status) :
    Upload Application × Outside Application :=
  if upload.state = .aborted ∨ upload.state = .committed then (upload, outside)
  else
    let terminalStatus := if status = .ok then .upload else status
    let upload :=
      { upload with
        terminalStatus := terminalStatus
        terminalNativeStatus := nativeStatus
        state := .aborted }
    (upload,
      if upload.begun then
        outside.call upload.transaction (.aborts terminalStatus nativeStatus)
          (upload.callbacks.abort terminalStatus nativeStatus
            outside.application)
      else outside)

/-- What the parser works on: the upload, and the application. -/
abbrev Reading (Application : Type*) := Upload Application × Outside Application

/-- `chttp_web_upload_name_is_csrf`. -/
def nameIsCsrf (part : MultipartPart) : Bool := part.name == ascii "_csrf"

/-- `chttp_web_upload_part_begin`. -/
def partBegin (part : MultipartPart) (reading : Reading Application) :
    Status × Reading Application :=
  if reading.1.state ≠ .streaming then (.einval, reading)
  else
    let upload := { reading.1 with csrfPart := false }
    if nameIsCsrf part then
      if part.filename.isSome ∨ upload.csrfCount ≠ 0 then
        (.eproto, upload, reading.2)
      else (.ok, { upload with csrfToken := [], csrfPart := true }, reading.2)
    else
      let result := upload.callbacks.partBegin part reading.2.application
      (result.1, upload, reading.2.call upload.transaction
        (.partBegins part) result.2)

/-- `chttp_web_upload_part_data`. -/
def partData (data : Bytes) (reading : Reading Application) :
    Status × Reading Application :=
  let upload := reading.1
  if upload.state ≠ .streaming then (.einval, reading)
  else if !upload.csrfPart then
    let result := upload.callbacks.partData data reading.2.application
    (result.1, upload, reading.2.call upload.transaction
      (.partData data) result.2)
  else if csrfTokenBytes - upload.csrfToken.length < data.length then
    (.emsgsize, reading)
  else (.ok, { upload with csrfToken := upload.csrfToken ++ data }, reading.2)

/-- `chttp_web_upload_part_end`. -/
def partEnd (reading : Reading Application) : Status × Reading Application :=
  let upload := reading.1
  if upload.state ≠ .streaming then (.einval, reading)
  else if upload.csrfPart then
    (.ok, { upload with csrfCount := upload.csrfCount + 1, csrfPart := false },
      reading.2)
  else
    let result := upload.callbacks.partEnd reading.2.application
    (result.1, upload, reading.2.call upload.transaction .partEnds result.2)

/-- The callbacks of the parser. -/
def multipartCallbacks : PartCallbacks (Reading Application) where
  partBegin := partBegin
  partData := partData
  partEnd := partEnd

/-- `chttp_web_upload_native_status`. -/
def nativeStatus (error : WebError) : Status :=
  if error.nativeStatus ≠ .ok then error.nativeStatus
  else
    match error.status with
    | .capacity => .enobufs
    | .invalidArgument => .einval
    | _ => .eproto

/-- `chttp_web_upload_sink_write`. -/
def sinkWrite (data : Bytes) :
    Status × Upload Application × Outside Application :=
  if upload.state ≠ .streaming then (.einval, upload, outside)
  else
    let fed := upload.multipart.feed multipartCallbacks (upload, outside) data
    let upload :=
      { fed.2.2.1 with
        multipart := fed.2.1, written := fed.2.2.1.written ++ data }
    if fed.1.status = .ok then (.ok, upload, fed.2.2.2)
    else
      (nativeStatus fed.1,
        { upload with
          terminalStatus := fed.1.status,
          terminalNativeStatus := fed.1.nativeStatus },
        fed.2.2.2)

/-- `chttp_web_upload_close`. -/
def close (status : Status) : Upload Application × Outside Application :=
  if upload.state ≠ .streaming then (upload, outside)
  else if status ≠ .ok then
    upload.abortOnce outside
      (if upload.terminalStatus ≠ .ok then upload.terminalStatus else .server)
      (if upload.terminalNativeStatus ≠ .ok then upload.terminalNativeStatus
        else status)
  else if upload.terminalStatus ≠ .ok then
    upload.abortOnce outside upload.terminalStatus upload.terminalNativeStatus
  else
    let finished := upload.multipart.finish
    let upload := { upload with multipart := finished.2 }
    if finished.1.status ≠ .ok then
      upload.abortOnce outside finished.1.status finished.1.nativeStatus
    else
      ({ upload with
          terminalStatus := .ok
          terminalNativeStatus := .ok
          state := .bodyComplete }, outside)

/-- `chttp_web_upload_error`. -/
def report (status : WebStatus) (nativeStatus : Status) (message : String) :
    WebError where
  status := status
  nativeStatus := nativeStatus
  offset := 0
  message := message

/-- `chttp_web_upload_aborted_status`. -/
def abortedStatus : WebError := report
    (if upload.terminalStatus ≠ .ok then upload.terminalStatus else .upload)
    upload.terminalNativeStatus "upload transaction was aborted before commit"

/-- What `chttp_web_upload_finalize` reads of a validation result. -/
structure Validation where
  /-- The `size` of the structure is large enough. -/
  sized : Bool
  valid : Bool
  deriving DecidableEq, Repr

/-- The token which a request brings. -/
def candidate (request : RequestView) : Option Bytes :=
  let header :=
    if requestIsHtmx request then request.header
      (ascii "X-CSRF-Token") else none
  match header with
  | some header => some header.bytes
  | none => if upload.csrfCount = 1 then some upload.csrfToken else none

/-- The part of `chttp_web_upload_finalize` behind the checks. -/
def commit (upload : Upload Application) (outside : Outside Application)
    (request : RequestView) :
    WebError × Upload Application × Outside Application :=
  let result := upload.callbacks.commit outside.application
  let outside := outside.call upload.transaction
    (.commits upload.multipart.boundary upload.written request
      (upload.candidate request) result.1) result.2
  if result.1 ≠ .ok then
    (report .upload result.1 "application upload commit failed",
      upload.abortOnce outside .upload result.1)
  else
    (report .ok .ok "",
      { upload with
        terminalStatus := .ok
        terminalNativeStatus := .ok
        state := .committed }, outside)

/-- `chttp_web_upload_finalize`. -/
def finalize (request : Option RequestView) (validation : Option Validation) :
    WebError × Upload Application × Outside Application :=
  let mismatch :=
    report .invalidArgument
      .ok "upload finalizer does not match the streamed request"
  match request with
  | none => (mismatch, upload, outside)
  | some request =>
    if !request.bodyStreamed ∨ !request.bodySinkUser then
      (mismatch, upload, outside)
    else if upload.state = .aborted then
      (upload.abortedStatus, upload, outside)
    else if upload.state ≠ .bodyComplete then
      (report .invalidArgument .ok
        "upload body is not ready for terminal validation", upload, outside)
    else
      let checked := csrfValidateToken request (upload.candidate request)
      if checked.status ≠ .ok then
        (checked, upload.abortOnce outside checked.status checked.nativeStatus)
      else
        match validation with
        | none => upload.commit outside request
        | some validation =>
          if !validation.sized then
            (report .invalidArgument .ok "upload validation state is invalid",
              upload.abortOnce outside .invalidArgument .ok)
          else if !validation.valid then
            (report .validation
              .ok "upload application validation rejected the request",
              upload.abortOnce outside .validation .ok)
          else upload.commit outside request

/-- `chttp_web_upload_abort`. -/
def abort (upload : Upload Application) (outside : Outside Application)
    (status : WebStatus)
    (nativeStatus : Status) :
    WebError × Upload Application × Outside Application :=
  if status = .ok ∨ upload.state = .idle ∨ upload.state = .committed then
    (report .invalidArgument .ok "upload abort state or status is invalid",
      upload, outside)
  else if upload.state ≠ .aborted then
    (report .ok .ok "", upload.abortOnce outside status nativeStatus)
  else (report .ok .ok "", upload, outside)

end Upload

/-! ## Calls -/

/-- The memory of one upload, with its surroundings; without an upload it holds
`CHTTP_WEB_UPLOAD_REQUEST_INIT`. -/
structure UploadWorld (Application : Type*) where
  upload : Option (Upload Application)
  outside : Outside Application
  /-- The transactions which were begun or should have been. -/
  transactions : Nat

/-- The calls of the HTTP layer and of the application. -/
inductive UploadCall (Application : Type*) where
  | open_ (request : Option RequestView) (limits : Option MultipartLimits)
      (callbacks : Option (UploadCallbacks Application)) (sink : Bool)
  | write (data : Bytes)
  | close (status : Status)
  | finalize (request : Option RequestView)
      (validation : Option Upload.Validation)
  | abort (status : WebStatus) (nativeStatus : Status)
  | reset

/-- What a call returns. -/
inductive UploadReturn where
  | web (error : WebError)
  | native (status : Status)
  | nothing
  deriving DecidableEq, Repr

namespace UploadWorld

/-- Before the first call. -/
def init (application : Application) : UploadWorld Application where
  upload := none
  outside := ⟨application, []⟩
  transactions := 0

/-- The upload of `chttp_web_upload_open` in front of its first callback. -/
def prepared (parser : MultipartParser)
    (callbacks : UploadCallbacks Application)
    (transaction : Nat) : Upload Application where
  multipart := parser
  callbacks := callbacks
  csrfToken := []
  csrfCount := 0
  terminalStatus := .ok
  terminalNativeStatus := .ok
  state := .idle
  csrfPart := false
  begun := false
  transaction := transaction
  written := []

/-- The rest of `chttp_web_upload_open`, when the parser is there. -/
def begin_ (world : UploadWorld Application) (request : RequestView)
    (parser : MultipartParser)
    (callbacks : UploadCallbacks Application) :
    WebError × UploadWorld Application :=
  let result := callbacks.begin_ request world.outside.application
  let outside := world.outside.call world.transactions
    (.begins result.1) result.2
  if result.1 ≠ .ok then
    (Upload.report .upload result.1 "application upload staging begin failed",
      { upload := none, outside := outside,
        transactions := world.transactions + 1 })
  else
    (Upload.report .ok .ok "",
      { upload := some
          { prepared parser callbacks world.transactions with
            begun := true, state := .streaming }
        outside := outside
        transactions := world.transactions + 1 })

/-- `chttp_web_upload_open`. -/
def open_ (world : UploadWorld Application) (request : Option RequestView)
    (limits : Option MultipartLimits)
    (callbacks : Option (UploadCallbacks Application))
    (sink : Bool) : WebError × UploadWorld Application :=
  match request, limits, callbacks, sink, world.upload with
  | some request, some limits, some callbacks, true, none =>
    match request.header (ascii "Content-Type") with
    | none =>
      (Upload.report .multipart .ok "multipart upload requires Content-Type",
        world)
    | some contentType =>
      match MultipartParser.init contentType limits with
      | .error error => (error, world)
      | .ok parser => world.begin_ request parser callbacks
  | _, _, _, _, _ =>
    (Upload.report .invalidArgument
      .ok "upload open arguments or request state are invalid", world)

/-- The world after a call on the upload. -/
def put (world : UploadWorld Application)
    (result : Upload Application × Outside Application) :
    UploadWorld Application :=
  { world with upload := some result.1, outside := result.2 }

/-- `chttp_web_upload_reset`. -/
def reset (world : UploadWorld Application) (upload : Upload Application) :
    WebError × UploadWorld Application :=
  if upload.state ≠ .committed ∧ upload.state ≠ .aborted then
    (Upload.report .invalidArgument
      .ok "upload reset requires committed or aborted state", world)
  else (Upload.report .ok .ok "", { world with upload := none })

/-- What a call without an upload returns, for its message. -/
def misused : UploadCall Application → UploadReturn
  | .open_ .. => .nothing
  | .write _ => .native .einval
  | .close _ => .nothing
  | .finalize .. => .web (Upload.report .invalidArgument .ok
      "upload finalizer does not match the streamed request")
  | .abort .. => .web (Upload.report .invalidArgument .ok
      "upload abort state or status is invalid")
  | .reset => .web (Upload.report .invalidArgument .ok
      "upload reset requires committed or aborted state")

/-- One call. -/
def perform (world : UploadWorld Application) (call : UploadCall Application) :
    UploadReturn × UploadWorld Application :=
  match call, world.upload with
  | .open_ request limits callbacks sink, _ =>
    let result := world.open_ request limits callbacks sink
    (.web result.1, result.2)
  | .write data, some upload =>
    let result := upload.sinkWrite world.outside data
    (.native result.1, world.put result.2)
  | .close status, some upload =>
    (.nothing, world.put (upload.close world.outside status))
  | .finalize request validation, some upload =>
    let result := upload.finalize world.outside request validation
    (.web result.1, world.put result.2)
  | .abort status nativeStatus, some upload =>
    let result := upload.abort world.outside status nativeStatus
    (.web result.1, world.put result.2)
  | .reset, some upload =>
    let result := world.reset upload
    (.web result.1, result.2)
  | call, none => (misused call, world)

/-- Several calls. -/
def run (world : UploadWorld Application) :
    List (UploadCall Application) → UploadWorld Application
  | [] => world
  | call :: calls => (world.perform call).2.run calls

end UploadWorld

end Chttp.App
