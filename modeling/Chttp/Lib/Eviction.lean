import Mathlib.Data.List.Induction
import Mathlib.Algebra.BigOperators.Group.List.Basic
import Mathlib.Algebra.GroupWithZero.Nat

/-!
# Budgeted first-in first-out queues

A queue whose entries carry a weight is kept below a budget by discarding its
oldest entries.  The newest entry is the head of the list.

Two descriptions of eviction are related.  `evict` removes the last entry as
long as the total weight exceeds the budget, which is how an implementation
works.  `keep` selects the longest prefix which fits the budget, which is the
form the algebra is done in: successive evictions compose to the smaller
budget, and inserting before evicting is the same as evicting first.
-/

namespace Chttp.Lib.Eviction

variable {Entry : Type*} (weight : Entry → Nat)

/-- The total weight of a queue. -/
def total (queue : List Entry) : Nat := (queue.map weight).sum

@[simp]
theorem total_nil : total weight [] = 0 := rfl

@[simp]
theorem total_cons (entry : Entry) (queue : List Entry) :
    total weight (entry :: queue) = weight entry + total weight queue := by
  simp [total]

@[simp]
theorem total_append (newer older : List Entry) :
    total weight (newer ++ older) =
    total weight newer + total weight older := by
  simp [total]

/-- The longest prefix of a queue whose total weight fits the budget. -/
def keep (budget : Nat) : List Entry → List Entry
  | [] => []
  | entry :: queue =>
    if weight entry ≤ budget then
      entry :: keep (budget - weight entry) queue
    else
      []

@[simp]
theorem keep_nil (budget : Nat) : keep weight budget [] = [] := rfl

theorem keep_cons_of_fits {budget : Nat} {entry : Entry}
    (fits : weight entry ≤ budget) (queue : List Entry) :
    keep weight budget (entry :: queue) =
      entry :: keep weight (budget - weight entry) queue := by
  simp [keep, fits]

theorem keep_cons_of_exceeds {budget : Nat} {entry : Entry}
    (exceeds : budget < weight entry)
    (queue : List Entry) : keep weight budget (entry :: queue) = [] := by
  simp [keep, Nat.not_le.mpr exceeds]

theorem total_keep_le (budget : Nat) (queue : List Entry) :
    total weight (keep weight budget queue) ≤ budget := by
  induction queue generalizing budget with
  | nil => simp
  | cons entry queue induction =>
    by_cases fits : weight entry ≤ budget
    · rw [keep_cons_of_fits weight fits, total_cons]
      have rest := induction (budget - weight entry)
      omega
    · rw [keep_cons_of_exceeds weight (Nat.lt_of_not_le fits)]
      simp

theorem keep_of_fits {budget : Nat} {queue : List Entry}
    (fits : total weight queue ≤ budget) :
    keep weight budget queue = queue := by
  induction queue generalizing budget with
  | nil => simp
  | cons entry queue induction =>
    rw [total_cons] at fits
    have headFits : weight entry ≤ budget := by omega
    rw [keep_cons_of_fits weight headFits, induction (by omega)]

theorem keep_append_singleton_of_exceeds {budget : Nat} {queue : List Entry}
    {oldest : Entry}
    (exceeds : budget < total weight (queue ++ [oldest])) :
    keep weight budget (queue ++ [oldest]) = keep weight budget queue := by
  induction queue generalizing budget with
  | nil =>
    simp only [List.nil_append, total_cons, total_nil] at exceeds
    rw [List.nil_append, keep_cons_of_exceeds weight (by omega)]
    rfl
  | cons entry queue induction =>
    rw [List.cons_append] at exceeds ⊢
    rw [total_cons] at exceeds
    by_cases fits : weight entry ≤ budget
    · rw [keep_cons_of_fits weight fits, keep_cons_of_fits weight fits,
        induction (by omega)]
    · have headExceeds := Nat.lt_of_not_le fits
      rw [keep_cons_of_exceeds weight headExceeds,
        keep_cons_of_exceeds weight headExceeds]

theorem keep_keep (first second : Nat) (queue : List Entry) :
    keep weight second (keep weight first queue) =
      keep weight (min first second) queue := by
  induction queue generalizing first second with
  | nil => simp
  | cons entry queue induction =>
    by_cases fitsFirst : weight entry ≤ first
    · rw [keep_cons_of_fits weight fitsFirst]
      by_cases fitsSecond : weight entry ≤ second
      · have fitsBoth : weight entry ≤ min first second :=
          Nat.le_min.mpr ⟨fitsFirst, fitsSecond⟩
        have budgets : min (first - weight entry) (second - weight entry) =
            min first second - weight entry := by
          omega
        rw [keep_cons_of_fits weight fitsSecond,
          keep_cons_of_fits weight fitsBoth, induction, budgets]
      · rw [keep_cons_of_exceeds weight (by omega),
          keep_cons_of_exceeds weight (by omega)]
    · rw [keep_cons_of_exceeds weight (by omega), keep_nil,
        keep_cons_of_exceeds weight (by omega)]

theorem length_keep_le (budget : Nat) (queue : List Entry) :
    (keep weight budget queue).length ≤ queue.length := by
  induction queue generalizing budget with
  | nil => simp
  | cons entry queue induction =>
    by_cases fits : weight entry ≤ budget
    · rw [keep_cons_of_fits weight fits]
      simpa using induction (budget - weight entry)
    · rw [keep_cons_of_exceeds weight (Nat.lt_of_not_le fits)]
      simp

theorem prefix_keep_iff {budget : Nat} {front queue : List Entry} :
    front <+: keep weight budget queue ↔
      front <+: queue ∧ total weight front ≤ budget := by
  induction queue generalizing budget front with
  | nil =>
    simp only [keep_nil, List.prefix_nil]
    refine ⟨?_, And.left⟩
    rintro rfl
    simp
  | cons entry queue induction =>
    cases front with
    | nil => simp
    | cons first front =>
      by_cases fits : weight entry ≤ budget
      · rw [keep_cons_of_fits weight fits, List.cons_prefix_cons,
          List.cons_prefix_cons,
          induction, total_cons, and_assoc]
        refine and_congr_right ?_
        rintro rfl
        refine and_congr_right fun _ => ?_
        omega
      · rw [keep_cons_of_exceeds weight (Nat.lt_of_not_le fits),
          List.cons_prefix_cons, total_cons]
        refine iff_of_false (by simp) ?_
        rintro ⟨⟨rfl, _⟩, fitting⟩
        omega

/-- Discard the oldest entries as long as the budget is exceeded. -/
def evict (budget : Nat) (queue : List Entry) : List Entry :=
  if total weight queue ≤ budget then
    queue
  else
    evict budget queue.dropLast
termination_by queue.length
decreasing_by
  rename_i exceeds
  cases queue with
  | nil => simp at exceeds
  | cons entry queue => simp

theorem evict_eq_keep (budget : Nat) (queue : List Entry) :
    evict weight budget queue = keep weight budget queue := by
  induction queue using List.reverseRecOn with
  | nil =>
    rw [evict]
    simp
  | append_singleton queue oldest induction =>
    rw [evict]
    by_cases fits : total weight (queue ++ [oldest]) ≤ budget
    · rw [if_pos fits, keep_of_fits weight fits]
    · rw [if_neg fits, List.dropLast_concat, induction,
        keep_append_singleton_of_exceeds weight (Nat.lt_of_not_le fits)]

end Chttp.Lib.Eviction
