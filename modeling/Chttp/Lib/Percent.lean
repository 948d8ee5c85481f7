import Chttp.Lib.Bytes

/-!
# Percent escapes

An octet is escaped as a percent sign and two hexadecimal digits.  Text in which
every percent sign begins an escape may be cut at any character which is neither
a percent sign nor a digit.
-/

namespace Chttp.Lib

theorem forall_octet {Fact : UInt8 → Prop}
    (all : ∀ number < 256, Fact (UInt8.ofNat number))
    (value : UInt8) : Fact value := by
  have fact := all value.toNat value.toNat_lt
  rwa [UInt8.ofNat_toNat] at fact

/-- The percent sign. -/
def percentSign : UInt8 := 37

namespace Percent

/-- The value of a hexadecimal digit. -/
def digitValue (value : UInt8) : Option UInt8 :=
  if 48 ≤ value ∧ value ≤ 57 then some (value - 48)
  else if 97 ≤ value ∧ value ≤ 102 then some (value - 97 + 10)
  else if 65 ≤ value ∧ value ≤ 70 then some (value - 65 + 10)
  else none

/-- The hexadecimal digit of a value. -/
def digit (value : UInt8) : UInt8 :=
  if value < 10 then 48 + value else 55 + value

/-- The escape of an octet. -/
def escape (value : UInt8) : Bytes :=
  [percentSign, digit (value >>> 4), digit (value &&& 15)]

theorem digitValue_high : ∀ value :
    UInt8, digitValue (digit (value >>> 4)) = some (value >>> 4) :=
  forall_octet (by decide +kernel)

theorem digitValue_low : ∀ value :
    UInt8, digitValue (digit (value &&& 15)) = some (value &&& 15) :=
  forall_octet (by decide +kernel)

theorem high_low : ∀ value :
    UInt8, (value >>> 4) * 16 + (value &&& 15) = value :=
  forall_octet (by decide +kernel)

/-- Every percent sign begins an escape. -/
inductive Escaped : Bytes → Prop where
  | nil : Escaped []
  | plain {value : UInt8} {rest : Bytes} (other : value ≠ percentSign)
      (escaped : Escaped rest) : Escaped (value :: rest)
  | escape {first second high low : UInt8} {rest : Bytes}
      (firstValue : digitValue first = some high)
      (secondValue : digitValue second = some low) (escaped : Escaped rest) :
      Escaped (percentSign :: first :: second :: rest)

/-- An escaped text is escaped on both sides of a separator. -/
theorem Escaped.cut {separator : UInt8} (other : separator ≠ percentSign)
    (noDigit : digitValue separator = none) {text rest : Bytes}
    (escaped : Escaped (text ++ separator :: rest)) :
    Escaped text ∧ Escaped rest := by
  generalize whole : text ++ separator :: rest = input at escaped
  induction escaped generalizing text with
  | nil =>
    exact absurd whole
      (List.append_ne_nil_of_right_ne_nil _ (List.cons_ne_nil _ _))
  | @plain value input plain escaped ih =>
    cases text with
    | nil =>
      obtain ⟨-, rfl⟩ := List.cons.inj whole
      exact ⟨.nil, escaped⟩
    | cons head text =>
      obtain ⟨rfl, same⟩ := List.cons.inj whole
      obtain ⟨before, behind⟩ := ih same
      exact ⟨.plain plain before, behind⟩
  | @escape first second high low input firstValue secondValue escaped ih =>
    match text, whole with
    | [], whole => exact absurd (List.cons.inj whole).1 other
    | [_], whole =>
      obtain ⟨-, whole⟩ := List.cons.inj whole
      rw [(List.cons.inj whole).1, firstValue] at noDigit
      cases noDigit
    | [_, _], whole =>
      obtain ⟨-, whole⟩ := List.cons.inj whole
      obtain ⟨-, whole⟩ := List.cons.inj whole
      rw [(List.cons.inj whole).1, secondValue] at noDigit
      cases noDigit
    | _ :: _ :: _ :: text, whole =>
      obtain ⟨sign, whole₁⟩ := List.cons.inj whole
      obtain ⟨same₁, whole₂⟩ := List.cons.inj whole₁
      obtain ⟨same₂, same⟩ := List.cons.inj whole₂
      subst same₁ same₂
      obtain ⟨before, behind⟩ := ih same
      rw [sign]
      exact ⟨.escape firstValue secondValue before, behind⟩

end Percent

/-! ## Decoded texts -/

/-- What octets stand for; with `plusIsSpace` a plus sign is a space. -/
inductive PercentDecoded (plusIsSpace : Bool) : Bytes → Bytes → Prop where
  | nil : PercentDecoded plusIsSpace [] []
  | plain {value : UInt8} {source text : Bytes} (other : value ≠ percentSign)
      (decoded : PercentDecoded plusIsSpace source text) :
      PercentDecoded plusIsSpace (value :: source)
        ((if plusIsSpace && value == 43 then 32 else value) :: text)
  | escape {first second high low : UInt8} {source text : Bytes}
      (firstValue : Percent.digitValue first = some high)
      (secondValue : Percent.digitValue second = some low)
      (decoded : PercentDecoded plusIsSpace source text) :
      PercentDecoded plusIsSpace (percentSign :: first :: second :: source)
        ((high * 16 + low) :: text)

/-- Octets with a percent sign which begins no escape, and what those in front
of it stand for. -/
inductive PercentBroken (plusIsSpace : Bool) : Bytes → Bytes → Prop where
  | truncated {source : Bytes} (short : source.length < 2) :
      PercentBroken plusIsSpace (percentSign :: source) []
  | malformed {first second : UInt8} {source : Bytes}
      (noDigit : Percent.digitValue first = none ∨
        Percent.digitValue second = none) :
      PercentBroken plusIsSpace (percentSign :: first :: second :: source) []
  | plain {value : UInt8} {source text : Bytes} (other : value ≠ percentSign)
      (broken : PercentBroken plusIsSpace source text) :
      PercentBroken plusIsSpace (value :: source)
        ((if plusIsSpace && value == 43 then 32 else value) :: text)
  | escape {first second high low : UInt8} {source text : Bytes}
      (firstValue : Percent.digitValue first = some high)
      (secondValue : Percent.digitValue second = some low)
      (broken : PercentBroken plusIsSpace source text) :
      PercentBroken plusIsSpace (percentSign :: first :: second :: source)
        ((high * 16 + low) :: text)

variable {plusIsSpace : Bool} {source text : Bytes}

/-- A decoded text is not longer than its source. -/
theorem PercentDecoded.length_le
    (decoded : PercentDecoded plusIsSpace source text) :
    text.length ≤ source.length := by
  induction decoded with
  | nil => exact Nat.le_refl 0
  | plain _ _ further => exact Nat.succ_le_succ further
  | escape _ _ _ further =>
    simp only [List.length_cons]
    omega

/-- Octets stand for one text. -/
theorem PercentDecoded.unique {other : Bytes}
    (one : PercentDecoded plusIsSpace source text)
    (two : PercentDecoded plusIsSpace source other) : text = other := by
  induction one generalizing other with
  | nil =>
    cases two
    rfl
  | plain unlike _ further =>
    cases two with
    | plain _ decoded => rw [further decoded]
    | escape => exact absurd rfl unlike
  | escape firstValue secondValue _ further =>
    cases two with
    | plain unlike _ => exact absurd rfl unlike
    | escape firstValue' secondValue' decoded =>
      obtain rfl := Option.some.inj (firstValue.symm.trans firstValue')
      obtain rfl := Option.some.inj (secondValue.symm.trans secondValue')
      rw [further decoded]

/-- Every text is decoded or broken. -/
theorem percentDecoded_or_percentBroken (plusIsSpace : Bool) (source : Bytes) :
    (∃ text, PercentDecoded plusIsSpace source text) ∨
      ∃ text, PercentBroken plusIsSpace source text := by
  match source with
  | [] => exact .inl ⟨[], .nil⟩
  | value :: source =>
    by_cases sign : value = percentSign
    · subst sign
      match source with
      | [] => exact .inr ⟨[], .truncated (by decide)⟩
      | [_] => exact .inr ⟨[], .truncated Nat.one_lt_two⟩
      | first :: second :: source =>
        rcases firstValue : Percent.digitValue first with - | high
        · exact .inr ⟨[], .malformed (.inl firstValue)⟩
        rcases secondValue : Percent.digitValue second with - | low
        · exact .inr ⟨[], .malformed (.inr secondValue)⟩
        rcases percentDecoded_or_percentBroken plusIsSpace source with
          ⟨text, decoded⟩ | ⟨text, broken⟩
        · exact .inl ⟨_, .escape firstValue secondValue decoded⟩
        · exact .inr ⟨_, .escape firstValue secondValue broken⟩
    rcases percentDecoded_or_percentBroken plusIsSpace source with
      ⟨text, decoded⟩ | ⟨text, broken⟩
    · exact .inl ⟨_, .plain sign decoded⟩
    · exact .inr ⟨_, .plain sign broken⟩
termination_by source.length

end Chttp.Lib
