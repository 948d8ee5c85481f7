import Chttp.App.Auth.Target
import Chttp.App.Form
import Chttp.App.Upload.Request

/-!
# Signing in

Signing in is a series of calls of the session functions, each of which can
fail.  Until the session is regenerated nothing is changed; from then on a
failure invalidates the session.

Other requests may use the store at any time.  Between the regeneration and the
invalidation the functions work on the snapshot of the request alone, so it is
enough to let the others act right after the regeneration.
-/

namespace Chttp.App

open Lib Server

/-! ## Forms and tokens -/

/-- `chttp_web_form_count`. -/
def WebForm.count (form : WebForm) (name : Bytes) : Nat :=
  form.pairs.countP fun pair => pair.name = name

/-- `chttp_web_form_get`. -/
def WebForm.get (form : WebForm) (name : Bytes) (occurrence : Nat) :
    Option FormPair :=
  (form.pairs.filter fun pair => pair.name = name)[occurrence]?

/-- `CHTTP_WEB_CSRF_HEADER`. -/
def csrfHeader : Bytes := ascii "X-CSRF-Token"

/-- `CHTTP_WEB_CSRF_FORM_FIELD`. -/
def csrfFormField : Bytes := ascii "_csrf"

/-- `chttp_web_session_status` and `chttp_web_auth_session_status`. -/
def sessionStatus (status : Status) (message : String) : WebError :=
  if status = .ok then authFail .ok .ok 0 ""
  else if status = .enobufs ∨ status = .emsgsize then
    authFail .capacity status 0 message
  else authFail .server status 0 message

/-- The header which `chttp_web_csrf_validate` looks at. -/
def csrfHeaderCandidate (request : RequestView) : Option Bytes :=
  if requestIsHtmx request then (request.header csrfHeader).map
    (·.bytes) else none

/-- `chttp_web_csrf_validate`. -/
def csrfValidate (request : RequestView) (form : Option WebForm) : WebError :=
  match csrfHeaderCandidate request, form with
  | some header, _ => csrfValidateToken request (some header)
  | none, none => csrfValidateToken request none
  | none, some form =>
    if form.count csrfFormField ≠ 1 ∧ csrfMethodUnsafe request.method then
      authFail .csrf .ok 0 "CSRF form token is missing or repeated"
    else if form.count csrfFormField = 1 then
      csrfValidateToken request ((form.get csrfFormField 0).map (·.value))
    else csrfValidateToken request none

/-- The text of a token; its characters are those of an identifier. -/
def csrfTokenText (random : Vector UInt8 32) : Bytes :=
  random.toList.flatMap fun (byte : UInt8) =>
    [Server.hexDigit (byte >>> 4), Server.hexDigit (byte &&& 0x0f)]

theorem hexDigit_range {digit : UInt8} (small : digit < 16) :
    (48 ≤ Server.hexDigit digit ∧ Server.hexDigit digit ≤ 57) ∨
      (97 ≤ Server.hexDigit digit ∧ Server.hexDigit digit ≤ 102) := by
  unfold Server.hexDigit
  simp only [UInt8.lt_iff_toNat_lt, UInt8.le_iff_toNat_le] at *
  split_ifs with decimal
  · refine .inl ?_
    simp only [UInt8.toNat_add, UInt8.reduceToNat] at *
    omega
  · refine .inr ?_
    simp only [UInt8.toNat_add, UInt8.reduceToNat] at *
    omega

theorem mem_csrfTokenText {random : Vector UInt8 32} {octet : UInt8}
    (member : octet ∈ csrfTokenText random) :
    (48 ≤ octet ∧ octet ≤ 57) ∨ (97 ≤ octet ∧ octet ≤ 102) := by
  obtain ⟨byte, -, among⟩ := List.mem_flatMap.mp member
  rcases List.mem_cons.mp among with rfl | among
  · refine hexDigit_range ?_
    have bound := byte.toNat_lt
    rw [UInt8.lt_iff_toNat_lt, UInt8.toNat_shiftRight]
    simp only [UInt8.reduceToNat, Nat.shiftRight_eq_div_pow, Nat.reducePow,
      Nat.reduceMod] at *
    omega
  · rw [List.mem_singleton.mp among]
    refine hexDigit_range ?_
    rw [UInt8.lt_iff_toNat_lt, UInt8.toNat_and]
    exact @Nat.and_lt_two_pow byte.toNat 15 4 (by decide)

/-- The token as a string. -/
def csrfTokenString (random : Vector UInt8 32) : CString where
  bytes := csrfTokenText random
  unterminated member := by
    rcases mem_csrfTokenText member with within | within <;> exact absurd
      within.1 (by decide)

/-- `chttp_web_csrf_write`; `drawn` is what `cmeta_secure_random` gives. -/
def csrfWrite (store : SessionStore) (context : SessionContext)
    (drawn : Status × Vector UInt8 32)
    (nowMs : UInt64) (random : RandomSource) :
    WebError × Option Bytes × SessionStore × SessionContext :=
  if drawn.1 ≠ .ok then
    (sessionStatus drawn.1 "secure random generation failed", none, store,
      context)
  else
    match store.set context csrfSessionKey (csrfTokenString drawn.2) nowMs
        random with
    | (.ok, store, context) =>
      match csrfToken (some context) with
      | none =>
        (authFail .server .eio 0 "stored CSRF token is unavailable", none,
          store, context)
      | some token => (authFail .ok .ok 0 "", some token, store, context)
    | (status, store, context) =>
      (sessionStatus status "CHTTP session rejected the CSRF token", none,
        store, context)

/-! ## The principal -/

/-- `chttp_web_principal_input`. -/
structure PrincipalInput where
  subject : CString
  role : Option CString
  displayName : Option CString
  deriving DecidableEq, Repr

/-- `CHTTP_WEB_PRINCIPAL_SUBJECT_KEY`. -/
def principalSubjectKey : CString where
  bytes := ascii "__chttp_web_principal_subject_v1"
  unterminated := by decide

/-- `CHTTP_WEB_PRINCIPAL_ROLE_KEY`. -/
def principalRoleKey : CString where
  bytes := ascii "__chttp_web_principal_role_v1"
  unterminated := by decide

/-- `CHTTP_WEB_PRINCIPAL_DISPLAY_KEY`. -/
def principalDisplayKey : CString where
  bytes := ascii "__chttp_web_principal_display_v1"
  unterminated := by decide

/-- What a call of a session function does. -/
abbrev SessionOutcome := Status × SessionStore × SessionContext

/-- The next call, unless one has failed. -/
def SessionOutcome.next (outcome : SessionOutcome)
    (call : SessionStore → SessionContext → SessionOutcome) : SessionOutcome :=
  if outcome.1 = .ok then call outcome.2.1 outcome.2.2 else outcome

/-- `chttp_web_auth_remove_optional`. -/
def removeOptional (key : CString) (store : SessionStore)
    (context : SessionContext) : SessionOutcome :=
  match store.remove context key with
  | (.enoent, store, context) => (.ok, store, context)
  | outcome => outcome

/-- `chttp_web_auth_fail_closed`. -/
def failClosed (store : SessionStore) (context : SessionContext)
    (status : Status)
    (message : String) : WebError × SessionStore × SessionContext :=
  match store.invalidate context with
  | (.ok, store, context) => (sessionStatus status message, store, context)
  | (invalidateStatus, store, context) =>
    (authFail .server invalidateStatus 0
      "unable to invalidate partially authenticated Session", store, context)

/-- A call of `chttp_web_principal_sign_in`, with what its calls get from their
environment. -/
structure SignIn where
  request : RequestView
  form : Option WebForm
  principal : PrincipalInput
  /-- The clock and the source of identifiers, call by call. -/
  environment : Nat → UInt64 × RandomSource
  /-- The random bytes of the token. -/
  drawn : Status × Vector UInt8 32

/-- What `chttp_web_principal_sign_in` returns, with `out_csrf_token`. -/
structure SignInOutcome where
  error : WebError
  csrfToken : Option Bytes
  store : SessionStore
  context : SessionContext
  deriving DecidableEq, Repr

namespace SignIn

variable (login : SignIn) (store : SessionStore) (context : SessionContext)

/-- Set a value, with the environment of a call. -/
def set (call : Nat) (key value : CString) (store : SessionStore)
    (context : SessionContext) : SessionOutcome :=
  store.set context key value (login.environment call).1
    (login.environment call).2

/-- Set a value which is there and not empty. -/
def setGiven (call : Nat) (key : CString) (value : Option CString)
    (store : SessionStore) (context : SessionContext) : SessionOutcome :=
  match value with
  | none => (.ok, store, context)
  | some value =>
    if value.bytes = [] then (.ok, store, context)
    else login.set call key value store context

/-- The checks before anything is done to the session. -/
def check : WebError :=
  if login.principal.subject.bytes = [] ∨ login.request.method ≠ .post then
    authFail .invalidArgument .ok 0
      "POST login requires a Session and non-empty verified subject"
  else
    csrfValidate { login.request with session := some context } login.form

/-- `chttp_web_principal_sign_in` until the session is regenerated; an error is
returned at once. -/
def start : Option WebError × SessionStore × SessionContext :=
  if (login.check context).status ≠ .ok then
    (some (login.check context), store, context)
  else
    match store.regenerate context (login.environment 0).1
        (login.environment 0).2 with
    | (.ok, store, context) => (none, store, context)
    | (status, store, context) =>
      (some (sessionStatus status "unable to regenerate login Session"), store,
        context)

/-- The calls which remove an earlier principal. -/
def clearPrincipal : SessionOutcome :=
  ((removeOptional principalSubjectKey store context).next
    (removeOptional principalRoleKey)).next
    (removeOptional principalDisplayKey)

/-- The calls which write the new principal. -/
def writePrincipal : SessionOutcome :=
  ((login.set 1 principalSubjectKey login.principal.subject store context).next
    (login.setGiven 2 principalRoleKey login.principal.role)).next
    (login.setGiven 3 principalDisplayKey login.principal.displayName)

/-- The end of `chttp_web_principal_sign_in`: the token is rotated. -/
def rotate : SignInOutcome :=
  let written := csrfWrite store context login.drawn (login.environment 4).1
    (login.environment 4).2
  if written.1.status ≠ .ok then
    match written.2.2.1.invalidate written.2.2.2 with
    | (.ok, store, context) => ⟨written.1, none, store, context⟩
    | (invalidateStatus, store, context) =>
      ⟨authFail .server invalidateStatus 0
        "unable to invalidate Session after CSRF rotation failure",
        none, store, context⟩
  else
    ⟨authFail .ok .ok 0 "", written.2.1, written.2.2.1, written.2.2.2⟩

/-- An error which has invalidated the session. -/
def closed (outcome : SessionOutcome) (message : String) : SignInOutcome :=
  let failed := failClosed outcome.2.1 outcome.2.2 outcome.1 message
  ⟨failed.1, none, failed.2.1, failed.2.2⟩

/-- `chttp_web_principal_sign_in` from the regenerated session on. -/
def establish : SignInOutcome :=
  let cleared := clearPrincipal store context
  if cleared.1 ≠ .ok then
    closed cleared "unable to clear previous principal state"
  else
    let written := login.writePrincipal cleared.2.1 cleared.2.2
    if written.1 ≠ .ok then
      closed written "unable to write authenticated principal state"
    else
      login.rotate written.2.1 written.2.2

/-- `chttp_web_principal_sign_in` for a request with a session; `others` is what
other requests do to the store after it is regenerated. -/
def signIn (others : SessionStore → SessionStore) (store : SessionStore)
    (context : SessionContext) : SignInOutcome :=
  match login.start store context with
  | (some error, store, context) => ⟨error, none, store, context⟩
  | (none, store, context) => login.establish (others store) context

end SignIn

end Chttp.App
