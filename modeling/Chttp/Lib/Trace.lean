import Mathlib.Algebra.BigOperators.Group.List.Basic
import Mathlib.Algebra.GroupWithZero.Nat
import Mathlib.Data.List.Basic

/-!
# Traces

A trace is a list of events which grows at its end.  `total` adds up what the
events of a trace amount to; an event of a trace is named by what comes
before it, as in `before ++ [event] <+: trace`.
-/

namespace Chttp.Lib

variable {Event : Type*}

/-! ## Totals -/

variable (measure : Event → Nat)

/-- What the events of a trace amount to. -/
def total (trace : List Event) : Nat := (trace.map measure).sum

@[simp]
theorem total_nil : total measure [] = 0 := rfl

@[simp]
theorem total_append (trace more : List Event) :
    total measure (trace ++ more) =
      total measure trace + total measure more := by
  rw [total, List.map_append, List.sum_append, total, total]

@[simp]
theorem total_singleton (event : Event) :
    total measure [event] = measure event := by
  simp [total]

variable {trace before : List Event} {event : Event}

theorem total_eq_zero {measure : Event → Nat}
    (nothing : ∀ event ∈ trace, measure event = 0) :
    total measure trace = 0 := by
  rw [total, List.sum_eq_zero]
  intro amount member
  rcases List.mem_map.mp member with ⟨event, isEvent, rfl⟩
  exact nothing event isEvent

/-! ## Events of a trace which grows -/

theorem concat_prefix_append_iff {more : List Event} :
    before ++ [event] <+: trace ++ more ↔ before ++ [event] <+: trace ∨
        ∃ between, before = trace ++ between ∧ between ++ [event] <+: more := by
  constructor
  · intro begins
    rcases List.prefix_or_prefix_of_prefix begins
        (List.prefix_append trace more) with old | ⟨tail, equal⟩
    · exact .inl old
    rcases List.eq_nil_or_concat tail with rfl | ⟨between, last, rfl⟩
    · rw [List.append_nil] at equal
      rw [equal]
      exact .inl List.prefix_rfl
    · rw [List.concat_eq_append, ← List.append_assoc] at equal
      rcases List.append_inj' equal rfl with ⟨rfl, single⟩
      rw [List.append_assoc, List.prefix_append_right_inj] at begins
      exact .inr ⟨between, rfl, begins⟩
  · rintro (old | ⟨between, rfl, new⟩)
    · exact old.trans (List.prefix_append trace more)
    · rw [List.append_assoc, List.prefix_append_right_inj]
      exact new

theorem concat_prefix_concat_iff {last : Event} :
    before ++ [event] <+: trace ++ [last] ↔
      before ++ [event] <+: trace ∨ before = trace ∧ event = last := by
  rw [concat_prefix_append_iff]
  refine or_congr_right ?_
  constructor
  · rintro ⟨between, rfl, new⟩
    rcases between with _ | ⟨head, between⟩
    · simp only [List.nil_append, List.cons_prefix_cons] at new
      exact ⟨List.append_nil trace, new.1⟩
    · have short := new.length_le
      simp at short
  · rintro ⟨rfl, rfl⟩
    exact ⟨[], (List.append_nil before).symm, List.prefix_rfl⟩

theorem concat_prefix_singleton_iff {last : Event} :
    before ++ [event] <+: [last] ↔ before = [] ∧ event = last := by
  have concat : before ++ [event] <+: [] ++ [last] ↔ _ :=
    concat_prefix_concat_iff
  rw [List.nil_append] at concat
  rw [concat]
  simp

/-! ## Histories can be checked -/

theorem forall_prefix_iff {property : List Event → Prop} :
    (∀ before, before <+: trace → property before) ↔
      ∀ count ≤ trace.length, property (trace.take count) := by
  constructor
  · intro all count _
    exact all _ (List.take_prefix count trace)
  · intro all before begins
    rw [List.prefix_iff_eq_take.mp begins]
    exact all _ begins.length_le

instance decidableForallPrefix {property : List Event → Prop}
    [DecidablePred property] (trace : List Event) :
    Decidable (∀ before, before <+: trace → property before) :=
  decidable_of_iff _ forall_prefix_iff.symm

theorem forall_concat_prefix_iff {property : List Event → Prop}
    {trace : List Event} {event : Event} :
    (∀ before, before ++ [event] <+: trace → property before) ↔
      ∀ count < trace.length,
        (trace)[count]? = some event → property (trace.take count) := by
  constructor
  · intro all count inside present
    apply all
    rw [List.prefix_iff_eq_take, List.length_append, List.length_take,
      List.length_singleton, Nat.min_eq_left (Nat.le_of_lt inside)]
    rw [List.take_add_one, present]
    rfl
  · rintro all before ⟨after, rfl⟩
    have here := all before.length (by simp) (by simp)
    simpa using here

instance decidableForallConcatPrefix {property : List Event → Prop}
    [DecidablePred property] [DecidableEq Event] (trace : List Event)
    (event : Event) :
    Decidable (∀ before, before ++ [event] <+: trace → property before) :=
  decidable_of_iff _ forall_concat_prefix_iff.symm

theorem forall_event_iff {property : List Event → Event → Prop} :
    (∀ before event, before ++ [event] <+: trace → property before event) ↔
      ∀ count < trace.length, ∀ event ∈ (trace)[count]?,
        property (trace.take count) event := by
  constructor
  · intro all count inside event present
    exact forall_concat_prefix_iff.mp
      (fun before => all before event) count inside present
  · intro all before event begins
    refine (@forall_concat_prefix_iff _ (fun before => property before event)
      trace event).mpr ?_ before begins
    exact fun count inside present => all count inside event present

instance decidableForallEvent {property : List Event → Event → Prop}
    [∀ before event, Decidable (property before event)]
    (trace : List Event) :
    Decidable (∀ before event, before ++ [event] <+: trace →
      property before event) :=
  decidable_of_iff _ forall_event_iff.symm

end Chttp.Lib
