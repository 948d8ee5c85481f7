import Chttp.Lib.Bytes
import Mathlib.Data.Nat.Digits.Lemmas

/-!
# Decimal numbers

Numbers as they are printed in decimal digits, the most significant one first
and without leading zeros.
-/

namespace Chttp.Lib

/-- The octet of a decimal digit. -/
def decimalDigit (value : Nat) : UInt8 := UInt8.ofNat (48 + value)

/-- The octet is a decimal digit. -/
def isDigit (octet : UInt8) : Bool := 48 ≤ octet && octet ≤ 57

/-- The value of a decimal digit. -/
def digitValue (octet : UInt8) : Nat := octet.toNat - 48

variable (number : Nat)

/-- The decimal digits of a number, the most significant one first. -/
def decimalDigits : List Nat :=
  if number = 0 then [0] else (Nat.digits 10 number).reverse

/-- A number in decimal. -/
def decimalOctets : Bytes := (decimalDigits number).map decimalDigit

/-- The value of a row of digits. -/
def decimalValue (digits : Bytes) : Nat :=
  digits.foldl (fun value digit => value * 10 + digitValue digit) 0

/-! ## Digits -/

theorem decimalDigits_lt : ∀ digit ∈ decimalDigits number, digit < 10 := by
  intro digit member
  rw [decimalDigits] at member
  split at member
  · rw [List.mem_singleton.mp member]
    decide
  · exact Nat.digits_lt_base (by decide) (List.mem_reverse.mp member)

theorem toNat_decimalDigit {value : Nat} (small : value < 10) :
    (decimalDigit value).toNat = 48 + value := by
  rw [decimalDigit, UInt8.toNat_ofNat']
  omega

theorem isDigit_decimalDigit {value : Nat} (small : value < 10) :
    isDigit (decimalDigit value) = true := by
  have code := toNat_decimalDigit small
  simp only [isDigit, Bool.and_eq_true, decide_eq_true_eq,
    UInt8.le_iff_toNat_le]
  exact ⟨by rw [code]; exact Nat.le_add_right 48 value,
    by rw [code]; exact Nat.add_le_add_left (Nat.le_of_lt_succ small) 48⟩

theorem digitValue_decimalDigit {value : Nat} (small : value < 10) :
    digitValue (decimalDigit value) = value := by
  rw [digitValue, toNat_decimalDigit small, Nat.add_sub_cancel_left]

theorem isDigit_decimalOctets :
    ∀ octet ∈ decimalOctets number, isDigit octet = true := by
  intro octet member
  obtain ⟨digit, among, rfl⟩ := List.mem_map.mp member
  exact isDigit_decimalDigit (decimalDigits_lt number digit among)

theorem decimalDigits_ne_nil : decimalDigits number ≠ [] := by
  rw [decimalDigits]
  split
  · exact List.cons_ne_nil _ _
  · rename_i positive
    rw [ne_eq, List.reverse_eq_nil_iff]
    exact Nat.digits_ne_nil_iff_ne_zero.mpr positive

theorem decimalOctets_ne_nil : decimalOctets number ≠ [] := by
  rw [decimalOctets, ne_eq, List.map_eq_nil_iff]
  exact decimalDigits_ne_nil number

/-- The digits of a number have its value. -/
theorem decimalValue_decimalOctets :
    decimalValue (decimalOctets number) = number := by
  have plain : ∀ (digits : List Nat) (start : Nat),
    (∀ digit ∈ digits, digit < 10) →
      (digits.map decimalDigit).foldl
        (fun value digit => value * 10 + digitValue digit) start =
        digits.foldl (fun value digit => value * 10 + digit) start := by
    intro digits
    induction digits with
    | nil => exact fun _ _ => rfl
    | cons digit rest further =>
      intro start small
      rw [List.map_cons, List.foldl_cons, List.foldl_cons,
        digitValue_decimalDigit (small digit List.mem_cons_self)]
      exact further _ fun other member =>
        small other (List.mem_cons_of_mem _ member)
  rw [decimalValue, decimalOctets, plain _ 0 (decimalDigits_lt number),
    decimalDigits]
  split
  · rename_i zero
    rw [zero]
    rfl
  have value := Nat.ofDigits_digits 10 number
  rw [Nat.ofDigits_eq_foldr] at value
  rw [List.foldl_reverse]
  calc
    (Nat.digits 10 number).foldr (fun digit value => value * 10 + digit) 0 =
        (Nat.digits 10 number).foldr
          (fun digit value => (digit : Nat) + 10 * value) 0 := by
      congr 1
      funext digit value
      omega
    _ = number := value

theorem decimalOctets_injective : Function.Injective decimalOctets := by
  intro first second same
  rw [← decimalValue_decimalOctets first, same, decimalValue_decimalOctets]

end Chttp.Lib
