import Mathlib.Algebra.GroupWithZero.Nat

/-!
# Machine arithmetic which remembers whether it was exact

A computation on machine integers wraps as the machine does, and also tells
whether every operation gave the number it stands for.  `Yields` is a
specification of both: the computation was exact, and its value is as
described.
-/

namespace Chttp.Lib

/-- A value, and whether no operation on the way to it went wrong. -/
structure Exact (Value : Type*) where
  value : Value
  exact : Bool
  deriving DecidableEq, Repr

namespace Exact

variable {Value Result : Type}

instance : Monad Exact where
  pure value := ⟨value, true⟩
  bind first next :=
    ⟨(next first.value).value, first.exact && (next first.value).exact⟩

/-- A value behind an access which has to be impossible. -/
def fault (value : Value) : Exact Value := ⟨value, false⟩

/-- The difference, exact unless it is negative. -/
def sub (minuend subtrahend : UInt64) : Exact UInt64 :=
  ⟨minuend - subtrahend, decide (subtrahend ≤ minuend)⟩

/-- The sum, exact unless it needs more bits. -/
def add (first second : UInt64) : Exact UInt64 :=
  ⟨first + second, decide (first.toNat + second.toNat < 2 ^ 64)⟩

/-- The product, exact unless it needs more bits. -/
def mul (first second : UInt64) : Exact UInt64 :=
  ⟨first * second, decide (first.toNat * second.toNat < 2 ^ 64)⟩

/-- The low half, exact unless the high half has a bit. -/
def low (word : UInt64) : Exact UInt32 :=
  ⟨word.toUInt32, decide (word.toNat < 2 ^ 32)⟩

/-- The computation was exact and its value is as described. -/
def Yields (computation : Exact Value) (description : Value → Prop) : Prop :=
  computation.exact = true ∧ description computation.value

namespace Yields

variable {description weaker : Value → Prop}

theorem pure {value : Value} (holds : description value) :
    (Pure.pure value : Exact Value).Yields description :=
  ⟨rfl, holds⟩

/-- The rule for a computation behind another one. -/
theorem bind {first : Exact Value} {next : Value → Exact Result}
    {outcome : Result → Prop}
    (before : first.Yields description)
    (after : ∀ value, description value → (next value).Yields outcome) :
    (first >>= next).Yields outcome := by
  obtain ⟨exact, holds⟩ := before
  obtain ⟨exact', holds'⟩ := after first.value holds
  exact ⟨by simp [Bind.bind, exact, exact'], holds'⟩

/-- The rule of consequence. -/
theorem mono {computation : Exact Value}
    (yields : computation.Yields description)
    (implies : ∀ value, description value → weaker value) :
    computation.Yields weaker :=
  ⟨yields.1, implies _ yields.2⟩

end Yields

theorem sub_yields {minuend subtrahend : UInt64}
    (small : subtrahend.toNat ≤ minuend.toNat) :
    (sub minuend subtrahend).Yields fun difference =>
        difference.toNat = minuend.toNat - subtrahend.toNat := by
  have small' : subtrahend ≤ minuend := UInt64.le_iff_toNat_le.mpr small
  exact ⟨decide_eq_true small', UInt64.toNat_sub_of_le _ _ small'⟩

theorem add_yields {first second : UInt64}
    (small : first.toNat + second.toNat < 2 ^ 64) :
    (add first second).Yields fun sum => sum.toNat =
      first.toNat + second.toNat := by
  refine ⟨decide_eq_true small, ?_⟩
  change (first + second).toNat = _
  rw [UInt64.toNat_add, Nat.mod_eq_of_lt small]

theorem mul_yields {first second : UInt64}
    (small : first.toNat * second.toNat < 2 ^ 64) :
    (mul first second).Yields fun product => product.toNat =
      first.toNat * second.toNat := by
  refine ⟨decide_eq_true small, ?_⟩
  change (first * second).toNat = _
  rw [UInt64.toNat_mul, Nat.mod_eq_of_lt small]

theorem low_yields {word : UInt64} (small : word.toNat < 2 ^ 32) :
    (low word).Yields fun half => half.toNat = word.toNat := by
  refine ⟨decide_eq_true small, ?_⟩
  change word.toUInt32.toNat = _
  rw [UInt64.toNat_toUInt32, Nat.mod_eq_of_lt small]

end Exact

end Chttp.Lib
