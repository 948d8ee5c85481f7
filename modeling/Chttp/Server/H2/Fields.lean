import Chttp.Lib.CString
import Chttp.Server.Buffer

/-!
# The regular fields of an HTTP/2 request

A stream copies the fields of a request into its storage one by one, after it
has checked them.
-/

namespace Chttp.Server.H2

open Lib

/-- `SIZE_MAX`. -/
def sizeMax : Nat := 2 ^ 64 - 1

/-- `chttp_h2_server_ascii_equal_n`. -/
def asciiEqual (left right : Bytes) : Bool := equalFold left right

/-- `chttp_h2_server_header_name_byte`. -/
def headerNameByte (value : UInt8) : Bool :=
  (97 ≤ value ∧ value ≤ 122) ∨ (48 ≤ value ∧ value ≤ 57) ∨
    value ∈ ascii "!#$%&'*+-.^_`|~"

/-- `chttp_h2_server_header_value`. -/
def headerValue (value : Bytes) : Bool :=
  !value.head?.any blank && !value.getLast?.any blank &&
    value.all fun byte => (32 ≤ byte || byte == 9) && byte != 127

/-- `chttp_h2_server_forbidden_header`. -/
def forbiddenHeader (name : Bytes) : Bool :=
  [ascii "connection", ascii "proxy-connection", ascii "keep-alive",
    ascii "transfer-encoding", ascii "upgrade"].any (asciiEqual name)

/-- The loop of `chttp_h2_server_decimal`. -/
def decimalLoop (result : Nat) : Bytes → Option Nat
  | [] => some result
  | digit :: digits =>
    if digit < 48 ∨ 57 < digit ∨
      (sizeMax - (digit.toNat - 48)) / 10 < result then none
    else decimalLoop (result * 10 + (digit.toNat - 48)) digits

/-- `chttp_h2_server_decimal`. -/
def decimal (value : Bytes) : Option Nat :=
  if value = [] then none else decimalLoop 0 value

/-- The limits of a stream. -/
structure FieldLimits where
  maxHeaderCount : Nat
  headerStorageCapacity : Nat
  deriving DecidableEq, Repr

/-- What `chttp_h2_server_regular_header` uses of a stream. -/
structure FieldStorage where
  headers : List (CString × CString)
  headerStorageUsed : Nat
  extendedConnect : Bool
  trailers : Bool
  websocketVersionSeen : Bool
  contentLengthSeen : Bool
  contentLength : Nat
  deriving DecidableEq, Repr

namespace FieldStorage

/-- The storage of a stream which was acquired for a request. -/
def empty (extendedConnect : Bool) : FieldStorage where
  headers := []
  headerStorageUsed := 0
  extendedConnect := extendedConnect
  trailers := false
  websocketVersionSeen := false
  contentLengthSeen := false
  contentLength := 0

/-- The fields of a WebSocket request. -/
def websocketField (stream : FieldStorage) (name value : Bytes) :
    Except Status FieldStorage :=
  if !stream.extendedConnect then .ok stream
  else if asciiEqual name (ascii "sec-websocket-version") then
    if stream.websocketVersionSeen ∨ !asciiEqual value (ascii "13") then
      .error .eproto
    else .ok { stream with websocketVersionSeen := true }
  else if asciiEqual name (ascii "sec-websocket-key") ∨
      asciiEqual name (ascii "sec-websocket-accept") ∨
      asciiEqual name (ascii "sec-websocket-extensions") ∨
      asciiEqual name (ascii "content-length") ∨
      asciiEqual name (ascii "te") then
    .error .eproto
  else .ok stream

/-- The length of the body. -/
def lengthField (stream : FieldStorage) (name value : Bytes) :
    Except Status FieldStorage :=
  if asciiEqual name (ascii "content-length") then
    if stream.trailers ∨ stream.contentLengthSeen then .error .eproto
    else
      match decimal value with
      | none => .error .eproto
      | some contentLength =>
        .ok { stream with
              contentLengthSeen := true, contentLength := contentLength }
  else .ok stream

/-- The bytes which a field takes, with two terminators. -/
def needed (name value : Bytes) : Nat := name.length + value.length + 2

/-- What is checked before a field is looked at. -/
def fieldAllowed (limits : FieldLimits) (stream : FieldStorage)
    (name value : Bytes) : Bool :=
  stream.headers.length < limits.maxHeaderCount &&
    needed name value ≤ sizeMax &&
    stream.headerStorageUsed ≤ limits.headerStorageCapacity &&
    needed name value ≤ limits.headerStorageCapacity -
      stream.headerStorageUsed &&
    headerValue value && !forbiddenHeader name && name.all headerNameByte &&
    (!asciiEqual name (ascii "te") || asciiEqual value (ascii "trailers"))

variable {limits : FieldLimits} {stream stream' : FieldStorage}
  {name value : Bytes}

theorem zero_not_mem_name (allowed : fieldAllowed limits stream name value =
    true) : 0 ∉ name := by
  simp only [fieldAllowed, Bool.and_eq_true, List.all_eq_true] at allowed
  intro member
  have printable := allowed.1.2 0 member
  revert printable
  decide

theorem zero_not_mem_value
    (allowed : fieldAllowed limits stream name value = true) : 0 ∉ value := by
  simp only [fieldAllowed, Bool.and_eq_true] at allowed
  have printable := allowed.1.1.1.2
  simp only [headerValue, Bool.and_eq_true, List.all_eq_true] at printable
  intro member
  have octet := printable.2 0 member
  revert octet
  decide

/-- `chttp_h2_server_regular_header`. -/
def regularHeader (limits : FieldLimits) (stream : FieldStorage)
    (name value : Bytes) : Except Status FieldStorage :=
  if allowed : fieldAllowed limits stream name value = true then
    match stream.websocketField name value with
    | .error status => .error status
    | .ok stream =>
      match stream.lengthField name value with
      | .error status => .error status
      | .ok stream =>
        .ok { stream with
          headers := stream.headers ++
            [(⟨name, zero_not_mem_name allowed⟩,
              ⟨value, zero_not_mem_value allowed⟩)]
          headerStorageUsed := stream.headerStorageUsed + needed name value }
  else .error .eproto

/-- The fields of a request, in the order in which they are decoded. -/
def regularHeaders (limits : FieldLimits) (stream : FieldStorage) :
    List (Bytes × Bytes) → Except Status FieldStorage
  | [] => .ok stream
  | field :: fields =>
    match regularHeader limits stream field.1 field.2 with
    | .error status => .error status
    | .ok stream => regularHeaders limits stream fields

/-- The fields which a stream holds. -/
def fields (stream : FieldStorage) : List (Bytes × Bytes) :=
  stream.headers.map fun field => (field.1.bytes, field.2.bytes)

theorem websocketField_headers
    (accepted : stream.websocketField name value = .ok stream') :
    stream'.headers = stream.headers := by
  unfold websocketField at accepted
  split_ifs at accepted <;> cases accepted <;> rfl

theorem lengthField_headers (accepted : stream.lengthField name value =
    .ok stream') :
    stream'.headers = stream.headers := by
  unfold lengthField at accepted
  split_ifs at accepted
  · split at accepted
    · cases accepted
    · cases accepted
      rfl
  · cases accepted
    rfl

theorem regularHeader_fields
    (accepted : regularHeader limits stream name value = .ok stream') :
    stream'.fields = stream.fields ++ [(name, value)] := by
  unfold regularHeader at accepted
  split_ifs at accepted with allowed
  split at accepted
  · cases accepted
  rename_i first one
  split at accepted
  · cases accepted
  rename_i second two
  cases accepted
  have kept : second.headers = stream.headers :=
    (lengthField_headers two).trans (websocketField_headers one)
  unfold fields
  rw [kept, List.map_append]
  rfl

/-- A stream holds the fields of its request one by one; fields with the same
name are not joined. -/
theorem regularHeaders_fields (fields : List (Bytes × Bytes)) :
    ∀ {stream : FieldStorage}, regularHeaders limits stream fields =
      .ok stream' →
        stream'.fields = stream.fields ++ fields := by
  induction fields with
  | nil =>
    intro stream accepted
    cases accepted
    rw [List.append_nil]
  | cons field fields ih =>
    intro stream accepted
    rw [regularHeaders] at accepted
    split at accepted
    · cases accepted
    · rename_i next first
      rw [ih accepted, regularHeader_fields first, List.append_assoc]
      rfl

end FieldStorage

end Chttp.Server.H2
