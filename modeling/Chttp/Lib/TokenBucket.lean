import Mathlib.Logic.Function.Basic

/-!
# Token buckets

A bucket holds credit, gains some in every unit of time up to a maximum, and
pays for each request it admits.  `Buckets` is a family of them, one for each
key, all of which are full in the beginning.
-/

namespace Chttp.Lib

/-- What a bucket can hold, what it gains in a unit of time, what it pays. -/
structure BucketTerms where
  maximum : Nat
  gain : Nat
  price : Nat
  price_le : price ≤ maximum
  gain_pos : 0 < gain

namespace BucketTerms

variable (terms : BucketTerms)

/-- The credit after some time. -/
def refilled (credit elapsed : Nat) : Nat :=
  min terms.maximum (credit + elapsed * terms.gain)

theorem refilled_le (credit elapsed : Nat) :
    terms.refilled credit elapsed ≤ terms.maximum :=
  Nat.min_le_left _ _

@[simp]
theorem refilled_zero {credit : Nat} (small : credit ≤ terms.maximum) :
    terms.refilled credit 0 = credit := by
  rw [refilled, Nat.zero_mul, Nat.add_zero]
  exact Nat.min_eq_right small

@[simp]
theorem refilled_maximum (elapsed : Nat) :
    terms.refilled terms.maximum elapsed = terms.maximum :=
  Nat.min_eq_left (Nat.le_add_right _ _)

theorem refilled_refilled (credit first second : Nat) :
    terms.refilled (terms.refilled credit first) second =
      terms.refilled credit (first + second) := by
  rw [refilled, refilled, refilled, Nat.add_mul]
  omega

theorem price_le_refilled {credit elapsed : Nat}
    (waited : terms.price ≤ credit + elapsed * terms.gain) :
    terms.price ≤ terms.refilled credit elapsed :=
  Nat.le_min.mpr ⟨terms.price_le, waited⟩

end BucketTerms

/-- A family of buckets at a time. -/
@[ext]
structure Buckets (Key : Type*) where
  now : Nat
  credit : Key → Nat

namespace Buckets

variable {Key : Type*} (terms : BucketTerms)

/-- All buckets are full. -/
def full : Buckets Key where
  now := 0
  credit _ := terms.maximum

variable (buckets : Buckets Key)

/-- Time passes for every bucket. -/
def advance (time : Nat) : Buckets Key where
  now := time
  credit key := terms.refilled (buckets.credit key) (time - buckets.now)

/-- The bucket of a key pays for a request, if it can. -/
def charge [DecidableEq Key] (buckets : Buckets Key) (key : Key) :
    Buckets Key :=
  if terms.price ≤ buckets.credit key then
    { buckets with
      credit := Function.update buckets.credit key
        (buckets.credit key - terms.price) }
  else
    buckets

theorem advance_advance {time later : Nat} (first : buckets.now ≤ time)
    (second : time ≤ later) :
    (buckets.advance terms time).advance terms later =
      buckets.advance terms later := by
  refine Buckets.ext rfl (funext fun key => ?_)
  change terms.refilled (terms.refilled _ (time - buckets.now))
      (later - time) = terms.refilled _ (later - buckets.now)
  rw [terms.refilled_refilled]
  congr 1
  omega

variable [DecidableEq Key]

@[simp]
theorem charge_now (key : Key) :
    (buckets.charge terms key).now = buckets.now := by
  rw [charge]
  split <;> rfl

theorem charge_of_lt {buckets : Buckets Key} {key : Key}
    (lacking : buckets.credit key < terms.price) :
    buckets.charge terms key = buckets :=
  if_neg (Nat.not_le.mpr lacking)

theorem charge_of_ne {key other : Key} (distinct : other ≠ key) :
    (buckets.charge terms key).credit other = buckets.credit other := by
  rw [charge]
  split
  · exact Function.update_of_ne distinct _ _
  · rfl

/-- A charge does not matter to another key. -/
theorem credit_charge_of_ne {key other : Key} (distinct : other ≠ key)
    {time later : Nat}
    (first : buckets.now ≤ time) (second : time ≤ later) :
    (((buckets.advance terms time).charge terms key).advance terms later).credit
      other =
      (buckets.advance terms later).credit other := by
  rw [← buckets.advance_advance terms first second]
  change terms.refilled _ (later - Buckets.now _) = terms.refilled _ _
  rw [charge_now, charge_of_ne _ _ distinct]

theorem charge_self {buckets : Buckets Key} {key : Key}
    (enough : terms.price ≤ buckets.credit key) :
    (buckets.charge terms key).credit key =
      buckets.credit key - terms.price := by
  rw [charge, if_pos enough]
  exact Function.update_self _ _ _

end Buckets

end Chttp.Lib
