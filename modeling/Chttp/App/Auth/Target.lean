import Chttp.App.Multipart.Parser
import Chttp.Lib.Percent

/-!
# Return targets

A browser which is not signed in is sent to the login page, and the target of
its request goes with it as a parameter.  Both targets are checked: they have to
stay with the server.
-/

namespace Chttp.App

open Lib Server

/-- `CHTTP_WEB_LOGIN_PATH_HARD_MAX`. -/
def loginPathHardMax : Nat := 1024

/-- `CHTTP_WEB_LOCAL_TARGET_HARD_MAX`. -/
def localTargetHardMax : Nat := 4096

/-- `CHTTP_WEB_LOGIN_DESTINATION_HARD_MAX`. -/
def loginDestinationHardMax : Nat :=
  loginPathHardMax + 3 * localTargetHardMax + 16

/-- `chttp_web_auth_fail` and `chttp_web_auth_target_fail`. -/
def authFail (status : WebStatus) (nativeStatus : Status) (offset : Nat)
    (message : String) : WebError where
  status := status
  nativeStatus := nativeStatus
  offset := offset
  message := message

variable (value : UInt8)

/-- `chttp_web_auth_hex_value`. -/
def authHexValue : Option UInt8 := Percent.digitValue value

/-- The octets which a target has neither as they are nor in an escape. -/
def forbiddenOctet : Bool :=
  value < 0x20 || value == 0x7f || value == 92 || value == 35

/-- One round of the loop of `chttp_web_local_target_validate`: what is left
behind the character at an index. -/
def targetStep (index : Nat) (value : UInt8) (rest : Bytes) :
    Except WebError Bytes :=
  if forbiddenOctet value then
    .error (authFail .auth .eperm index
      "browser return target contains a forbidden byte")
  else if value = percentSign then
    match rest with
    | first :: second :: rest =>
      match authHexValue first, authHexValue second with
      | some high, some low =>
        if forbiddenOctet (high * 16 + low) ∨
          (index = 1 ∧ high * 16 + low = 47) then
          .error (authFail .auth .eperm index
            "browser return target percent-encodes a forbidden byte")
        else .ok rest
      | _, _ => .error (authFail .auth .eperm index
          "browser return target has an invalid percent escape")
    | _ => .error (authFail .auth .eperm index
        "browser return target has a truncated percent escape")
  else .ok rest

theorem targetStep_rest {index : Nat} {value : UInt8} {rest rest' : Bytes}
    (step : targetStep index value rest = .ok rest') : rest' <:+ rest := by
  unfold targetStep at step
  split_ifs at step
  · split at step
    · split at step
      · split_ifs at step
        cases step
        exact (List.suffix_cons _ _).trans (List.suffix_cons _ _)
      · cases step
    · cases step
  · cases step
    exact List.suffix_rfl

/-- The loop of `chttp_web_local_target_validate`. -/
def targetLoop (index : Nat) (input : Bytes) : Except WebError Unit :=
  match input with
  | [] => .ok ()
  | value :: rest =>
    match _step : targetStep index value rest with
    | .error error => .error error
    | .ok rest' => targetLoop (index + 1 + (rest.length - rest'.length)) rest'
termination_by input.length
decreasing_by exact Nat.lt_succ_of_le (targetStep_rest _step).length_le

/-- `chttp_web_local_target_validate`. -/
def localTargetValidate (target : Bytes) (maxTargetBytes : Nat) :
    Except WebError Unit :=
  if maxTargetBytes = 0 ∨ localTargetHardMax < maxTargetBytes then
    .error (authFail .invalidArgument .einval 0
      "local target arguments or configured bound are invalid")
  else if target.head? ≠ some 47 then
    .error (authFail .auth .eperm 0 "browser return target must be origin-form")
  else if maxTargetBytes < target.length ∨
    localTargetHardMax < target.length then
    .error (authFail .capacity .emsgsize target.length
      "browser return target exceeds its byte bound")
  else if target[1]? = some 47 then
    .error (authFail .auth .eperm 1
      "scheme-relative browser return targets are forbidden")
  else targetLoop 0 target

/-- `chttp_web_auth_unreserved`. -/
def authUnreserved : Bool :=
  (65 ≤ value && value ≤ 90) || (97 ≤ value && value ≤ 122) ||
    (48 ≤ value && value ≤ 57) || value == 45 || value == 46 || value == 95 ||
    value == 126

/-- `chttp_web_auth_policy`, as far as targets go. -/
structure AuthPolicy where
  loginPath : CString
  includeReturnTarget : Bool
  maxReturnTargetBytes : Nat
  deriving DecidableEq, Repr

namespace AuthPolicy

/-- `chttp_web_auth_policy_valid`. -/
def valid (policy : AuthPolicy) : Bool :=
  policy.loginPath.length ≤ loginPathHardMax && policy.loginPath.length != 0 &&
    (localTargetValidate policy.loginPath.bytes loginPathHardMax).toBool &&
    policy.maxReturnTargetBytes ≤ localTargetHardMax &&
    !(policy.includeReturnTarget && policy.maxReturnTargetBytes == 0)

/-- A character of a target in the parameter. -/
def encodeOctet : Bytes :=
  if authUnreserved value then [value] else Percent.escape value

/-- A target as the value of a parameter. -/
def encodeTarget (target : Bytes) : Bytes := target.flatMap encodeOctet

/-- The text in front of the target. -/
def parameter : Bytes := ascii "return_to="

/-- `chttp_web_auth_login_destination`, with the size of the storage. -/
def loginDestination (policy : AuthPolicy) (target : Option CString)
    (storageCapacity : Nat) : Except WebError Bytes :=
  match target with
  | none => .error (authFail .invalidArgument .einval 0
      "login destination arguments are invalid")
  | some target =>
    let loginSize := policy.loginPath.length
    -- the size of the parameter counts its terminator
    let parameterSize := parameter.length + 1
    if storageCapacity = 0 ∨ !policy.includeReturnTarget then
      .error (authFail .invalidArgument .einval 0
        "login destination arguments are invalid")
    else if loginPathHardMax < loginSize ∨
      policy.maxReturnTargetBytes < target.length then
      .error (authFail .capacity .emsgsize 0
        "login or return target exceeds its byte bound")
    else
      match localTargetValidate target.bytes policy.maxReturnTargetBytes with
      | .error error => .error error
      | .ok () =>
        if storageCapacity ≤ loginSize + parameterSize + 1 ∨
            (storageCapacity - loginSize - parameterSize - 1) / 3 <
              target.length then
          .error (authFail .capacity .emsgsize 0
            "encoded login destination exceeds its byte bound")
        else
          .ok (policy.loginPath.bytes ++
            [if 63 ∈ policy.loginPath.bytes then 38 else 63] ++
            parameter ++ encodeTarget target.bytes)

end AuthPolicy

end Chttp.App
