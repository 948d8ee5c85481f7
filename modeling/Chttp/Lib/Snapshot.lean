import Mathlib.Logic.Function.Basic
import Mathlib.Tactic.SplitIfs

/-!
# Clients which work on snapshots of a shared table

A client takes a snapshot of the table, changes its snapshot, and writes the
whole of it back when it commits, if it has changed anything.  Two clients may
hold snapshots at the same time, so the later one overwrites what the earlier
one wrote.
-/

namespace Chttp.Lib

/-- What a client does. -/
inductive SnapshotAction (Key Value : Type*) where
  | begin
  | write (key : Key) (value : Option Value)
  | commit
  | rest

/-- The table, and the snapshots of the clients which are at work. -/
@[ext]
structure Snapshots (Client Key Value : Type*) where
  shared : Key → Option Value
  own : Client → Key → Option Value
  dirty : Client → Bool
  active : Client → Bool

namespace Snapshots

variable {Client Key Value : Type*} [DecidableEq Client] [DecidableEq Key]
  (state : Snapshots Client Key Value)

/-- Only clients at work write and commit. -/
def Allows (client : Client) : SnapshotAction Key Value → Prop
  | .begin => state.active client = false
  | .write _ _ => state.active client = true
  | .commit => state.active client = true
  | .rest => True

/-- A client acts. -/
def act (client : Client) :
    SnapshotAction Key Value → Snapshots Client Key Value
  | .begin =>
    { state with
      own := Function.update state.own client state.shared
      dirty := Function.update state.dirty client false
      active := Function.update state.active client true }
  | .write key value =>
    { state with
      own := Function.update state.own client
        (Function.update (state.own client) key value)
      dirty := Function.update state.dirty client true }
  | .commit =>
    { state with
      shared :=
        if state.dirty client then state.own client else state.shared
      dirty := Function.update state.dirty client false
      active := Function.update state.active client false }
  | .rest => state

/-- Clients act one after the other. -/
inductive Run :
    Snapshots Client Key Value → List (Client × SnapshotAction Key Value) →
      Snapshots Client Key Value → Prop
  | nil {state : Snapshots Client Key Value} : Run state [] state
  | cons {state final : Snapshots Client Key Value} {client : Client}
      {action : SnapshotAction Key Value}
      {actions : List (Client × SnapshotAction Key Value)}
      (allowed : state.Allows client action)
      (run : Run (state.act client action) actions final) :
      Run state ((client, action) :: actions) final

/-- The table has a value for a key, and so has every snapshot but those of
some clients which have written nothing. -/
structure Settled (Idle : Client → Prop) (key : Key) (value : Option Value)
    (state : Snapshots Client Key Value) : Prop where
  shared : state.shared key = value
  own : ∀ client, state.active client = true → state.own client key = value ∨
      (Idle client ∧ state.dirty client = false)

/-- An action which leaves a key alone, and of which idle clients are
capable. -/
def Spares (Idle : Client → Prop) (key : Key) (client : Client)
    (action : SnapshotAction Key Value) : Prop :=
  ∀ other value, action = .write other value → other ≠ key ∧ ¬ Idle client

variable {key : Key} {value : Option Value}
  {state final : Snapshots Client Key Value}
  {client : Client} {actions : List (Client × SnapshotAction Key Value)}

/-- What a client does leaves the other clients alone. -/
theorem act_other {actor : Client} (other : client ≠ actor)
    (action : SnapshotAction Key Value) :
    (state.act actor action).own client = state.own client ∧
      (state.act actor action).dirty client = state.dirty client ∧
      (state.act actor action).active client = state.active client := by
  cases action <;> simp [act, other]

/-- An action which spares a settled key leaves it settled. -/
theorem Settled.act {Idle : Client → Prop}
    (settled : state.Settled Idle key value)
    {action : SnapshotAction Key Value} (allowed : state.Allows client action)
    (spares : Spares Idle key client action) :
    (state.act client action).Settled Idle key value := by
  constructor
  · cases action with
    | commit =>
      simp only [Snapshots.act]
      split_ifs with dirty
      · refine (settled.own client allowed).resolve_right fun idle => ?_
        rw [idle.2] at dirty
        cases dirty
      · exact settled.shared
    | _ => exact settled.shared
  intro other active
  by_cases same : other = client
  · subst same
    cases action with
    | begin => simp [Snapshots.act, settled.shared]
    | write written value' =>
      obtain ⟨distinct, busy⟩ := spares written value' rfl
      have before :=
        (settled.own other active).resolve_right fun idle => busy idle.1
      simp [Snapshots.act, distinct.symm, before]
    | commit => simp [Snapshots.act] at active
    | rest => exact settled.own other active
  · obtain ⟨own, dirty, stays⟩ := act_other same action
    rw [stays] at active
    rw [own, dirty]
    exact settled.own other active

/-- A value stays, unless someone writes its key or a client with an older
snapshot commits. -/
theorem Run.settled {Idle : Client → Prop}
    (run : Run state actions final) (settled : state.Settled Idle key value)
    (spares : ∀ entry ∈ actions, Spares Idle key entry.1 entry.2) :
    final.Settled Idle key value := by
  induction run with
  | nil => exact settled
  | cons allowed _ ih =>
    exact ih (settled.act allowed (spares _ List.mem_cons_self))
      fun entry member => spares entry (List.mem_cons_of_mem _ member)

/-- A client is dirty because it was, or because it wrote. -/
theorem Run.dirty (run : Run state actions final)
    (dirty : final.dirty client = true) :
    state.dirty client = true ∨
      ∃ key value, (client, SnapshotAction.write key value) ∈ actions := by
  induction run with
  | nil => exact .inl dirty
  | @cons state final actor action actions _ _ ih =>
    rcases ih dirty with before | ⟨key, value, member⟩
    · by_cases same : client = actor
      · subst same
        cases action with
        | write key value => exact .inr ⟨key, value, List.mem_cons_self⟩
        | rest => exact .inl before
        | _ => simp [act] at before
      · rw [(act_other same action).2.1] at before
        exact .inl before
    · exact .inr ⟨key, value, List.mem_cons_of_mem _ member⟩

/-- What a client has written, and not yet committed. -/
structure Holds (client : Client) (key : Key) (value : Option Value)
    (state : Snapshots Client Key Value) : Prop where
  own : state.own client key = value
  dirty : state.dirty client = true

/-- A client holds what it writes. -/
theorem holds_write :
    (state.act client (.write key value)).Holds client key value := by
  constructor <;> simp [act]

/-- A commit settles what the client holds, if the other clients at work have
written nothing. -/
theorem Holds.settled_commit (holds : state.Holds client key value)
    (clean : ∀ other, other ≠ client → state.active other = true →
      state.dirty other = false) :
    (state.act client .commit).Settled
      (fun other => other ≠ client ∧ state.active other = true) key value := by
  constructor
  · simp [act, holds.dirty, holds.own]
  intro other active
  have foreign : other ≠ client := by
    rintro rfl
    simp [act] at active
  rw [(act_other foreign _).2.2] at active
  refine .inr ⟨⟨foreign, active⟩, ?_⟩
  rw [(act_other foreign _).2.1, clean other foreign active]

/-- A client which writes other keys only holds its value. -/
theorem Run.holds (run : Run state actions final)
    (holds : state.Holds client key value)
    (spares : ∀ action, (client, action) ∈ actions → action = .rest ∨
      ∃ other value', other ≠ key ∧
        action = .write other value') : final.Holds client key value := by
  induction run with
  | nil => exact holds
  | @cons state final actor action actions allowed _ ih =>
    have rest := fun action member =>
      spares action (List.mem_cons_of_mem _ member)
    by_cases same : client = actor
    · subst same
      rcases spares action List.mem_cons_self with
        rfl | ⟨other, value', distinct, rfl⟩
      · exact ih holds rest
      · refine ih ⟨?_, Function.update_self _ _ _⟩ rest
        change Function.update state.own client _ client key = value
        rw [Function.update_self, Function.update_of_ne distinct.symm]
        exact holds.own
    · obtain ⟨own, dirty, -⟩ := act_other same action
      exact ih ⟨by rw [own, holds.own], by rw [dirty, holds.dirty]⟩ rest

end Snapshots

end Chttp.Lib
