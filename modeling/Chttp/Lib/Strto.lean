import Chttp.Lib.Decimal
import Chttp.Lib.Percent
import Mathlib.Data.List.TakeWhile

/-!
# Conversions of the C library

`strtoll` and `strtoull` to the base ten, on the octets in front of the
terminator.  Both skip white space, read an optional sign and the digits behind
it, and stop in front of the first octet which is no digit.  A conversion is
`none` where there is no digit or the number is out of range.
-/

namespace Chttp.Lib

/-- `isspace` in the C locale. -/
def isSpace (octet : UInt8) : Bool := octet == 32 || (9 ≤ octet && octet ≤ 13)

/-- An optional sign and digits. -/
structure Numeral where
  negative : Bool
  magnitude : Nat
  deriving DecidableEq, Repr

/-- The number of a sign and digits. -/
def Numeral.value (numeral : Numeral) : Int :=
  if numeral.negative then -numeral.magnitude else numeral.magnitude

variable (text : Bytes)

/-- What stands behind an optional sign. -/
def unsigned : Bytes :=
  if text.head? = some 45 ∨ text.head? = some 43 then text.drop 1 else text

/-- The numeral in front of a text, and what is behind it. -/
def strto : Option (Numeral × Bytes) :=
  let subject := text.dropWhile isSpace
  let digits := (unsigned subject).takeWhile isDigit
  if digits = [] then none
  else some (⟨subject.head? == some 45, decimalValue digits⟩,
    (unsigned subject).dropWhile isDigit)

/-- `strtoull`. -/
def strtoull : Option (Nat × Bytes) := (strto text).bind fun (numeral, rest) =>
    if 2 ^ 64 ≤ numeral.magnitude then none
    else some ((numeral.value % 2 ^ 64).toNat, rest)

/-- `strtoll`. -/
def strtoll : Option (Int × Bytes) := (strto text).bind fun (numeral, rest) =>
    if numeral.value < -2 ^ 63 ∨ 2 ^ 63 ≤ numeral.value then none
    else some (numeral.value, rest)

/-- A conversion which has to read its text to the end. -/
def converted {Fault Number Token : Type} (fault : Fault)
    (token : Number → Token) : Option (Number × Bytes) → Except Fault Token
  | some (number, []) => .ok (token number)
  | _ => .error fault

/-- The whole text is an optional sign and one or more digits. -/
def Spells (numeral : Numeral) : Prop :=
  ∃ digits : Bytes, digits ≠ [] ∧ (∀ octet ∈ digits, isDigit octet = true) ∧
    decimalValue digits = numeral.magnitude ∧
    (numeral.negative = true ∧ text = 45 :: digits ∨
      numeral.negative = false ∧ (text = digits ∨ text = 43 :: digits))

/-- A conversion succeeds exactly if it leaves nothing of its text. -/
theorem converted_eq_ok {Fault Number Token : Type} {fault : Fault}
    {make : Number → Token} {conversion : Option (Number × Bytes)}
    {token : Token} :
    converted fault make conversion = .ok token ↔
      ∃ number, conversion = some (number, []) ∧ make number = token := by
  rcases conversion with - | ⟨number, rest⟩
  · exact ⟨nofun, fun ⟨_, impossible, _⟩ => by cases impossible⟩
  cases rest with
  | nil =>
    constructor
    · intro made
      exact ⟨number, rfl, Except.ok.inj made⟩
    · rintro ⟨_, same, rfl⟩
      cases same
      rfl
  | cons octet rest =>
    exact ⟨nofun, fun ⟨_, impossible, _⟩ => by cases impossible⟩

theorem unsigned_digits {digits : Bytes} (filled : digits ≠ [])
    (decimal : ∀ octet ∈ digits, isDigit octet = true) :
    unsigned digits = digits := by
  cases digits with
  | nil => exact absurd rfl filled
  | cons octet digits =>
    have digit := decimal octet List.mem_cons_self
    rw [unsigned, if_neg]
    rintro (minus | plus)
    · rw [Option.some.inj minus] at digit
      exact absurd digit (by decide)
    · rw [Option.some.inj plus] at digit
      exact absurd digit (by decide)

/-- A conversion which reads its text to the end reads what the text spells
behind its white space. -/
theorem strto_eq_some_iff {text : Bytes} {numeral : Numeral} :
    strto text = some (numeral, []) ↔
      Spells (text.dropWhile isSpace) numeral := by
  rw [strto]
  generalize text.dropWhile isSpace = subject
  constructor
  · intro read
    split_ifs at read with empty
    obtain ⟨rfl, rest⟩ := Prod.mk.inj (Option.some.inj read)
    have whole : (unsigned subject).takeWhile isDigit = unsigned subject := by
      have both := List.takeWhile_append_dropWhile (p := isDigit)
        (l := unsigned subject)
      rw [rest, List.append_nil] at both
      exact both
    refine ⟨(unsigned subject).takeWhile isDigit, empty,
      fun octet member => List.mem_takeWhile_imp member, rfl, ?_⟩
    rw [whole]
    unfold unsigned
    split_ifs with signed
    · cases subject with
      | nil => rcases signed with signed | signed <;> cases signed
      | cons sign digits =>
        rcases signed with minus | plus
        · obtain rfl := Option.some.inj minus
          exact .inl ⟨rfl, rfl⟩
        · obtain rfl := Option.some.inj plus
          exact .inr ⟨rfl, .inr rfl⟩
    · refine .inr ⟨?_, .inl rfl⟩
      rw [beq_eq_false_iff_ne]
      exact fun minus => signed (.inl minus)
  rintro ⟨digits, filled, decimal, value, sign⟩
  have read (minus : Bool) (stripped : unsigned subject = digits)
      (same : (subject.head? == some 45) = minus)
        (negative : numeral.negative = minus) :
      (if (unsigned subject).takeWhile isDigit = [] then none
        else some ((⟨subject.head? == some 45,
          decimalValue ((unsigned subject).takeWhile isDigit)⟩ : Numeral),
          (unsigned subject).dropWhile isDigit)) = some (numeral, []) := by
    have taken : digits.takeWhile isDigit = digits :=
      List.takeWhile_eq_self_iff.mpr decimal
    have dropped : digits.dropWhile isDigit = [] :=
      List.dropWhile_eq_nil_iff.mpr decimal
    rw [stripped, taken, dropped, if_neg filled, value, same, ← negative]
  rcases sign with ⟨negative, rfl⟩ | ⟨positive, rfl | rfl⟩
  · exact read true rfl rfl negative
  · refine read false (unsigned_digits filled decimal) ?_ positive
    cases subject with
    | nil => rfl
    | cons octet subject =>
      have digit := decimal octet List.mem_cons_self
      rw [List.head?_cons, beq_eq_false_iff_ne]
      intro minus
      rw [Option.some.inj minus] at digit
      exact absurd digit (by decide)
  · exact read false rfl rfl positive

/-- `strtoull` reads a text to the end exactly if it spells a number of at most
64 bits behind its white space; a minus sign negates it modulo the range. -/
theorem strtoull_eq_some_iff {text : Bytes} {number : Nat} :
    strtoull text = some (number, []) ↔
    ∃ numeral, Spells (text.dropWhile isSpace) numeral ∧
      numeral.magnitude < 2 ^ 64 ∧
      number = (numeral.value % 2 ^ 64).toNat := by
  simp only [strtoull, Option.bind_eq_some_iff, ← strto_eq_some_iff]
  constructor
  · rintro ⟨⟨numeral, rest⟩, read, converted⟩
    split_ifs at converted with large
    obtain ⟨rfl, rfl⟩ := Prod.mk.inj (Option.some.inj converted)
    exact ⟨numeral, read, Nat.lt_of_not_le large, rfl⟩
  · rintro ⟨numeral, read, small, rfl⟩
    exact ⟨(numeral, []), read, if_neg (Nat.not_le_of_lt small)⟩

/-- `strtoll` reads a text to the end exactly if it spells a number in the range
behind its white space. -/
theorem strtoll_eq_some_iff {text : Bytes} {number : Int} :
    strtoll text = some (number, []) ↔
    ∃ numeral, Spells (text.dropWhile isSpace) numeral ∧
      -2 ^ 63 ≤ numeral.value ∧ numeral.value < 2 ^ 63 ∧
        number = numeral.value := by
  simp only [strtoll, Option.bind_eq_some_iff, ← strto_eq_some_iff]
  constructor
  · rintro ⟨⟨numeral, rest⟩, read, converted⟩
    split_ifs at converted with large
    obtain ⟨rfl, rfl⟩ := Prod.mk.inj (Option.some.inj converted)
    rw [not_or] at large
    exact ⟨numeral, read, Int.not_lt.mp large.1, Int.not_le.mp large.2, rfl⟩
  · rintro ⟨numeral, read, low, high, rfl⟩
    refine ⟨(numeral, []), read, if_neg ?_⟩
    exact not_or.mpr ⟨Int.not_lt.mpr low, Int.not_le.mpr high⟩

/-- What a text spells begins with no white space and has no terminator. -/
theorem Spells.plain {text : Bytes} {numeral : Numeral}
    (spells : Spells text numeral) :
    text.dropWhile isSpace = text ∧ 0 ∉ text := by
  obtain ⟨digits, -, decimal, -, sign⟩ := spells
  have digit : ∀ octet, isDigit octet = true → isSpace octet = false ∧
      octet ≠ 0 :=
    forall_octet (by decide +kernel)
  have octets : ∀ octet ∈ text, isSpace octet = false ∧ octet ≠ 0 := by
    intro octet member
    rcases sign with ⟨-, rfl⟩ | ⟨-, rfl | rfl⟩
    · rcases List.mem_cons.mp member with rfl | member
      · decide
      · exact digit octet (decimal octet member)
    · exact digit octet (decimal octet member)
    · rcases List.mem_cons.mp member with rfl | member
      · decide
      · exact digit octet (decimal octet member)
  refine ⟨?_, fun zero => (octets 0 zero).2 rfl⟩
  cases text with
  | nil => rfl
  | cons octet text =>
    rw [List.dropWhile_cons_of_neg]
    rw [(octets octet List.mem_cons_self).1]
    exact Bool.false_ne_true

end Chttp.Lib
