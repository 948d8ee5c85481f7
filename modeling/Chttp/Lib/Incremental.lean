import Mathlib.Data.List.Basic

/-!
# Incremental consumers

A consumer works on a queue of items in rounds.  A round takes items from the
front of the queue or leaves it alone, and what it does to a queue it also
does to a longer one.  Then it makes no difference whether items are consumed
as they arrive or all at once.
-/

namespace Chttp.Lib

variable {State Item : Type*}

/-- Rounds of a consumer: the state they lead to and the items they used. -/
def consume (round : State → List Item → Option (State × Nat)) :
    Nat → State → List Item → State × Nat
  | 0, state, _ => (state, 0)
  | rounds + 1, state, input =>
    match round state input with
    | none => (state, 0)
    | some (next, used) =>
      let rest := consume round rounds next (input.drop used)
      (rest.1, used + rest.2)

/--
A round does not depend on what is behind the items it uses.  A round which
uses no item is the last one, whatever arrives later.
-/
structure Incremental (round : State → List Item → Option (State × Nat)) :
    Prop where
  empty : ∀ state, round state [] = none
  stable : ∀ {state input next used}, round state input = some (next, used) →
    ∀ more, round state (input ++ more) = some (next, used)
  inside : ∀ {state input next used}, round state input = some (next, used) →
    used ≤ input.length
  last : ∀ {state input next}, round state input = some (next, 0) →
    ∀ more, round next (input ++ more) = none

variable {round : State → List Item → Option (State × Nat)}

theorem consume_of_none {state : State} {input : List Item}
    (stuck : round state input = none)
    (rounds : Nat) : consume round rounds state input = (state, 0) := by
  cases rounds with
  | zero => rfl
  | succ rounds => rw [consume, stuck]

namespace Incremental

section

variable (incremental : Incremental round)

include incremental

theorem consume_of_last {state next : State} {input : List Item}
    (taken : round state input = some (next, 0)) (rounds : Nat) :
    consume round rounds next input = (next, 0) := by
  apply consume_of_none
  rw [← List.append_nil input]
  exact incremental.last taken []

theorem consume_inside (rounds : Nat) (state : State) (input : List Item) :
    (consume round rounds state input).2 ≤ input.length := by
  induction rounds generalizing state input with
  | zero => exact Nat.zero_le _
  | succ rounds induction =>
    rw [consume]
    cases taken : round state input with
    | none => exact Nat.zero_le _
    | some result =>
      rcases result with ⟨next, used⟩
      have inside := incremental.inside taken
      have rest := induction next (input.drop used)
      rw [List.length_drop] at rest
      simp only
      omega

/-- Any number of rounds above the length of the input will do. -/
theorem consume_congr {rounds rounds' : Nat} {state : State} {input : List Item}
    (enough : input.length ≤ rounds) (enough' : input.length ≤ rounds') :
    consume round rounds state input = consume round rounds' state input := by
  induction rounds generalizing rounds' state input with
  | zero =>
    have nothing : input = [] :=
      List.eq_nil_of_length_eq_zero (Nat.le_zero.mp enough)
    rw [nothing, consume_of_none (incremental.empty state),
      consume_of_none (incremental.empty state)]
  | succ rounds induction =>
    cases rounds' with
    | zero =>
      have nothing : input = [] :=
        List.eq_nil_of_length_eq_zero (Nat.le_zero.mp enough')
      rw [nothing, consume_of_none (incremental.empty state),
        consume_of_none (incremental.empty state)]
    | succ rounds' =>
      rw [consume, consume]
      cases taken : round state input with
      | none => rfl
      | some result =>
        rcases result with ⟨next, used⟩
        cases used with
        | zero =>
          simp only [List.drop_zero, incremental.consume_of_last taken]
        | succ used =>
          have rest : consume round rounds next (input.drop (used + 1)) =
              consume round rounds' next (input.drop (used + 1)) := by
            apply induction
            · rw [List.length_drop]
              omega
            · rw [List.length_drop]
              omega
          simp only [rest]

theorem consume_of_some {state next : State} {input : List Item}
    {used rounds : Nat}
    (taken : round state input = some (next, used))
    (enough : input.length ≤ rounds) :
    consume round rounds state input =
      ((consume round rounds next (input.drop used)).1,
        used + (consume round rounds next (input.drop used)).2) := by
  have nonempty : 0 < input.length := by
    rcases input with _ | ⟨item, input⟩
    · rw [incremental.empty state] at taken
      cases taken
    · exact Nat.succ_pos _
  rcases rounds with _ | rounds
  · omega
  have same : consume round rounds next (input.drop used) =
      consume round (rounds + 1) next (input.drop used) := by
    cases used with
    | zero =>
      simp only [List.drop_zero, incremental.consume_of_last taken]
    | succ used =>
      apply incremental.consume_congr
      · rw [List.length_drop]
        omega
      · rw [List.length_drop]
        omega
  rw [consume, taken]
  simp only [same]

/-- Input may be consumed in two parts. -/
theorem consume_append (state : State) (input more : List Item)
    {rounds first second : Nat}
    (enough : (input ++ more).length ≤ rounds)
    (enoughFirst : input.length ≤ first)
    (enoughSecond : (input ++ more).length ≤ second) :
    consume round rounds state (input ++ more) =
      ((consume round second (consume round first state input).1
          (input.drop (consume round first state input).2 ++ more)).1,
        (consume round first state input).2 +
          (consume round second (consume round first state input).1
            (input.drop (consume round first state input).2 ++ more)).2) := by
  induction rounds generalizing state input first with
  | zero =>
    have nothing : input ++ more = [] :=
      List.eq_nil_of_length_eq_zero (Nat.le_zero.mp enough)
    rcases List.append_eq_nil_iff.mp nothing with ⟨rfl, rfl⟩
    have stuck := incremental.empty state
    simp [consume_of_none stuck]
  | succ rounds induction =>
    cases taken : round state input with
    | none =>
      rw [consume_of_none taken first]
      simp only [List.drop_zero, Nat.zero_add]
      exact incremental.consume_congr enough enoughSecond
    | some result =>
      rcases result with ⟨next, used⟩
      have inside := incremental.inside taken
      rw [consume, incremental.stable taken more,
        incremental.consume_of_some taken enoughFirst]
      simp only [List.drop_append_of_le_length inside]
      cases used with
      | zero =>
        have stuck := consume_of_none (incremental.last taken more)
        simp [incremental.consume_of_last taken, stuck]
      | succ used =>
        have fewer : (input.drop (used + 1)).length ≤ first := by
          rw [List.length_drop]
          omega
        have shorter : (input.drop (used + 1) ++ more).length + 1 ≤
            (input ++ more).length := by
          rw [List.length_append, List.length_append, List.length_drop]
          omega
        rw [induction next (input.drop (used + 1)) (by omega) fewer (by omega)]
        simp only [List.drop_drop, Nat.add_assoc]

end

end Incremental

end Chttp.Lib
