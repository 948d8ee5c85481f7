import Chttp.App.Multipart.Parser
import Chttp.Lib.Percent

/-!
# URL-encoded forms

The parser of a form splits its input into pairs and decodes the names and
values into storage of the caller.  The storage is bounded twice, by its
capacity and by a configured limit, and the offsets of its errors are positions
in the input.
-/

namespace Chttp.App

open Lib Server

/-- The separator of pairs. -/
def ampersand : UInt8 := 38

/-- `chttp_web_form_parse_options`; the storages are there. -/
structure FormOptions where
  maxInputBytes : Nat
  maxPairs : Nat
  maxDecodedBytes : Nat
  pairCapacity : Nat
  byteCapacity : Nat
  deriving DecidableEq, Repr

/-- `chttp_web_form_pair`. -/
structure FormPair where
  name : Bytes
  value : Bytes
  deriving DecidableEq, Repr

/-- `chttp_web_form`. -/
structure WebForm where
  pairs : List FormPair
  decodedBytes : Nat
  deriving DecidableEq, Repr

namespace WebForm

/-- `chttp_web_form_fail`. -/
def fail (status : WebStatus) (offset : Nat) (message : String) : WebError where
  status := status
  nativeStatus := .ok
  offset := offset
  message := message

/-- `chttp_web_hex_value`. -/
def hexValue (value : UInt8) : Option UInt8 := Percent.digitValue value

/-- An octet of a component whose first character is `value` at a position, and
what is left behind it. -/
def octet (position : Nat) (value : UInt8) (rest : Bytes) :
    Except WebError (UInt8 × Bytes) :=
  if value = 43 then .ok (32, rest)
  else if value = percentSign then
    match rest with
    | first :: second :: rest =>
      match hexValue first, hexValue second with
      | some high, some low => .ok (high * 16 + low, rest)
      | _, _ => .error
          (fail .form position "form percent escape is invalid")
    | _ => .error (fail .form position "form percent escape is truncated")
  else .ok (value, rest)

theorem octet_rest {position : Nat} {value decoded : UInt8} {rest rest' : Bytes}
    (read : octet position value rest = .ok (decoded, rest')) :
    rest' <:+ rest := by
  unfold octet at read
  split_ifs at read
  · cases read
    exact List.suffix_rfl
  · split at read
    · split at read
      · cases read
        exact (List.suffix_cons _ _).trans (List.suffix_cons _ _)
      · cases read
    · cases read
  · cases read
    exact List.suffix_rfl

/-- The loop of `chttp_web_form_decode_component` from a position of the input;
`used` octets of the storage are taken. -/
def decodeComponent (options : FormOptions) (position used : Nat)
    (input : Bytes) : Except WebError Bytes :=
  match input with
  | [] => .ok []
  | value :: rest =>
    match _read : octet position value rest with
    | .error error => .error error
    | .ok (decoded, rest') =>
      let position := position + 1 + (rest.length - rest'.length)
      if options.maxDecodedBytes ≤ used ∨ options.byteCapacity ≤ used then
        .error (fail .capacity position
          "decoded form bytes exceed configured storage")
      else
        match decodeComponent options position (used + 1) rest' with
        | .error error => .error error
        | .ok others => .ok (decoded :: others)
termination_by input.length
decreasing_by
  exact Nat.lt_succ_of_le (octet_rest _read).length_le

/-- One pair of `chttp_web_form_parse`, at a position. -/
def parsePair (options : FormOptions) (position used : Nat) (segment : Bytes) :
    Except WebError FormPair :=
  let name := segment.takeWhile (· ≠ equalsSign)
  let value := segment.drop (name.length + 1)
  if name = [] then
    .error (fail .form position "form field name must not be empty")
  else
    match decodeComponent options position used name with
    | .error error => .error error
    | .ok decodedName =>
      match decodeComponent options
          (position + (segment.length - value.length))
          (used + decodedName.length) value with
      | .error error => .error error
      | .ok decodedValue => .ok ⟨decodedName, decodedValue⟩

/-- The loop of `chttp_web_form_parse`, with the pairs so far. -/
def parseLoop (options : FormOptions) (position used : Nat)
    (pairs : List FormPair) (input : Bytes) : Except WebError WebForm :=
  let segment := input.takeWhile (· ≠ ampersand)
  if segment = [] then
    .error (fail .form position "empty form segment is invalid")
  else if options.maxPairs ≤ pairs.length ∨
    options.pairCapacity ≤ pairs.length then
    .error
      (fail .capacity position "form pair count exceeds configured storage")
  else
    match parsePair options position used segment with
    | .error error => .error error
    | .ok pair =>
      let pairs := pairs ++ [pair]
      let used := used + pair.name.length + pair.value.length
      match _rest : input.drop segment.length with
      | [] => .ok ⟨pairs, used⟩
      | [_] => .error (fail .form (position + segment.length)
          "trailing form separator is invalid")
      | _ :: rest =>
        parseLoop options (position + segment.length + 1) used pairs rest
termination_by input.length
decreasing_by
  have shorter := congrArg List.length _rest
  rw [List.length_drop, List.length_cons] at shorter
  omega

/-- `chttp_web_form_parse`, behind the check of its arguments. -/
def parse (options : FormOptions) (input : Bytes) : Except WebError WebForm :=
  if options.maxInputBytes < input.length then
    .error
      (fail .capacity input.length "form input exceeds configured byte limit")
  else if input = [] then .ok ⟨[], 0⟩
  else if options.maxPairs = 0 ∨ options.maxDecodedBytes = 0 ∨
      options.pairCapacity = 0 ∨ options.byteCapacity = 0 then
    .error (fail .invalidArgument 0
      "non-empty form requires bounded caller storage")
  else parseLoop options 0 0 [] input

/-- `chttp_web_form_parse` and the form of its caller, which it clears before it
reads the input and sets at the end. -/
def parseInto (options : FormOptions) (input : Bytes) (outForm : WebForm) :
    Option WebError × WebForm :=
  let outForm := { outForm with pairs := [], decodedBytes := 0 }
  match parse options input with
  | .error error => (some error, outForm)
  | .ok form =>
    (none, { outForm with
      pairs := form.pairs
      decodedBytes := form.decodedBytes })

end WebForm

end Chttp.App
