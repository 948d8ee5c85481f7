import Chttp.Server.Deferred.Winner

/-!
# Deadlines of deferred responses

A pass over the deadlines cancels an expired response which is pending and
clears its deadline.  A response which a worker is writing is left to the
worker, and its deadline is cleared all the same; when the reply is then
refused, the response is pending again without a deadline.  The deadline is not
lost in the runs in which no pass meets a reply which is going to be refused.
-/

namespace Chttp.Server

open Slot

variable {Response : Type} (slot : Slot Response) (request : Nat)

/-- The reply is going to be refused. -/
def Call.Fails (call : Call Response) : Prop :=
  ∃ refusal, call.operation.composed = some (.error refusal)

/-- A reply which is going to be refused holds the token. -/
def Slot.Contested : Prop :=
  ∃ index call, Holds slot.calls index call ∧ call.Fails

/-- A pass over the deadlines which finds one expired does not look at the
token, or try to exchange it, while a reply which is going to be refused
holds it. -/
def Timely : Action Response → Prop
  | .deadlineLoad => ¬ slot.Contested
  | .deadlineSwap => ¬ slot.Contested
  | _ => True

/-- Runs from one slot to another whose actions all satisfy a condition. -/
inductive Leads (allowed : Slot Response → Action Response → Prop)
    (start : Slot Response) : Slot Response → Prop where
  | refl : Leads allowed start start
  | step {slot next : Slot Response} {action : Action Response}
      (leads : Leads allowed start slot) (condition : allowed slot action)
      (acts : slot.act action = some next) :
      Leads allowed start next

/-- The deadline of a request is armed and in the past whenever its response is
pending, outside of the pass itself. -/
def Slot.DeadlineKept : Prop :=
  slot.issued.length = request → slot.token.state = .pending →
    (∀ seen, slot.owner ≠ .expiring seen) → slot.deadline ≠ 0 ∧
      slot.deadline ≤ slot.now

/-- The response to a request is never pending again. -/
def Slot.Doomed : Prop := request < slot.issued.length ∨
    request = slot.issued.length ∧
      (slot.owner.Defers ∨ slot.token.state ≠ .pending ∧ ¬ slot.Contested)

/-- A pass has seen the response pending and is about to cancel it. -/
def Slot.Canceling : Prop := request = slot.issued.length ∧
    ∃ seen, slot.owner = .expiring seen ∧ seen.state = .pending

variable {slot next : Slot Response}

theorem Slot.Sound.not_contested (sound : slot.Sound)
    (free : slot.token.state ≠ .writing) :
    ¬ slot.Contested := by
  rintro ⟨index, call, holds, -⟩
  exact sound.nobody free index call holds

theorem not_contested_set {index : Nat} {call changed : Call Response}
    (found : slot.calls[index]? = some call)
    (calls : next.calls = slot.calls.set index changed)
    (operation : changed.operation = call.operation)
    (holds : changed.phase.holds = true → call.phase.holds = true)
    (free : ¬ slot.Contested) :
    ¬ next.Contested := by
  rintro ⟨position, other, held, refusal, composed⟩
  rw [calls] at held
  rcases (holds_set_iff found changed position other).mp held with
    ⟨-, rfl, holding⟩ | ⟨-, old⟩
  · refine free ⟨index, call, ⟨found, holds holding⟩, refusal, ?_⟩
    rw [← operation]
    exact composed
  · exact free ⟨position, other, old, refusal, composed⟩

/-- A response which is never pending again stays so. -/
theorem Move.doomed (move : Move slot next) (sound : slot.Sound) {request : Nat}
    (doomed : slot.Doomed request) : next.Doomed request := by
  rcases doomed with earlier | ⟨rfl, doomed⟩
  · refine .inl (Nat.lt_of_lt_of_le earlier ?_)
    cases move with
    | published =>
      rw [List.length_append]
      exact Nat.le_add_right _ _
    | _ => exact Nat.le_refl _
  cases move with
  | @entered call phase =>
    refine .inr ⟨rfl, doomed.imp_right ?_⟩
    rintro ⟨state, free⟩
    refine ⟨state, ?_⟩
    rintro ⟨index, other, holds, fails⟩
    exact free ⟨index, other, (holds_append_iff phase _ _).mp holds, fails⟩
  | failed found phase =>
    refine .inr ⟨rfl, doomed.imp_right ?_⟩
    rintro ⟨state, free⟩
    exact ⟨state, not_contested_set found rfl rfl nofun free⟩
  | claimed found phase token =>
    rcases doomed with ⟨generation, owner⟩ | ⟨state, -⟩
    · have informed := sound.informed
      rw [owner] at informed
      cases token.symm.trans informed.1
    · exact absurd (by rw [token]) state
  | worked holds still =>
    refine .inr ⟨rfl, doomed.imp_right ?_⟩
    rintro ⟨state, free⟩
    exact ⟨state, not_contested_set holds.1 rfl rfl (fun _ => holds.2) free⟩
  | @settled index call state status found verdict =>
    have holds : Holds slot.calls index call := ⟨found, verdict.holds⟩
    rcases doomed with ⟨generation, owner⟩ | ⟨-, free⟩
    · have informed := sound.informed
      rw [owner] at informed
      exact absurd holds (informed.2 index call)
    refine .inr ⟨rfl, .inr ⟨?_, not_contested_set found rfl rfl
      nofun free⟩⟩
    cases verdict with
    | ready | canceled => rintro ⟨⟩
    | @restored refusal phase composed =>
      exact absurd ⟨index, call, holds, refusal, composed⟩ free
  | rested before after free =>
    exact .inr ⟨rfl, .inr (doomed.resolve_left before)⟩
  | ticked => exact .inr ⟨rfl, doomed⟩
  | begun before idle => exact .inr ⟨rfl, .inl ⟨_, rfl⟩⟩
  | published before =>
    refine .inl ?_
    rw [List.length_append]
    exact Nat.lt_succ_self _
  | dropped before free lower after =>
    refine .inr ⟨rfl, .inr ⟨?_, sound.not_contested free⟩⟩
    rcases lower with rfl | ⟨rfl, -⟩ <;> exact nofun
  | cleared before idle =>
    refine .inr ⟨rfl, .inr ⟨?_, sound.not_contested ?_⟩⟩
    · exact fun pending => by cases idle.symm.trans pending
    · exact fun writing => by cases idle.symm.trans writing
  | taken before ready | handed before ready =>
    refine .inr ⟨rfl, .inr ⟨?_, sound.not_contested ?_⟩⟩
    · rintro ⟨⟩
    · exact fun writing => by cases ready.symm.trans writing
  | submitted before =>
    refine .inr ⟨rfl, .inr (doomed.resolve_left ?_)⟩
    rintro ⟨generation, owner⟩
    cases before.symm.trans owner

theorem Slot.act_caller {action : Action Response} {index : Nat}
    (caller : action.caller = some index) (acts : slot.act action = some next) :
    next.owner = slot.owner ∧ next.issued = slot.issued := by
  cases action with
  | claim position => grind [act, claim, setCall]
  | draft position => grind [act, draft, setCall]
  | compose position => grind [act, compose, setCall]
  | settle position => grind [act, settle, setCall]
  | _ => cases caller

theorem Slot.act_expiring {seen : Token} {action : Action Response}
    (owner : slot.owner = .expiring seen) (acts : slot.act action = some next) :
    action = .deadlineSwap ∨
      next.owner = slot.owner ∧ next.issued = slot.issued := by
  cases action with
  | enter generation wellFormed operation =>
    obtain ⟨-, ⟨⟩⟩ := Option.ite_none_right_eq_some.mp acts
    exact .inr ⟨rfl, rfl⟩
  | tick elapsed =>
    cases acts
    exact .inr ⟨rfl, rfl⟩
  | deadlineSwap => exact .inl rfl
  | arm budget => simp [act, arm, owner] at acts
  | deferLoad => simp [act, deferLoad, owner] at acts
  | deferSwap => simp [act, deferSwap, owner] at acts
  | deferPublish => simp [act, deferPublish, owner] at acts
  | deadlineLoad => simp [act, deadlineLoad, owner] at acts
  | disconnect => simp [act, disconnect, owner] at acts
  | closeLoad => simp [act, closeLoad, owner] at acts
  | closeSwap spurious => simp [act, closeSwap, owner] at acts
  | closeReset => simp [act, closeReset, owner] at acts
  | progressLoad => simp [act, progressLoad, owner] at acts
  | progress around => simp [act, progress, owner] at acts
  | submit accepted => simp [act, submit, owner] at acts
  | _ => exact .inr (act_caller rfl acts)

theorem doomed_of_deadlineSwap (sound : slot.Sound) (timely : ¬ slot.Contested)
    {request : Nat}
    (canceling : slot.Canceling request)
    (acts : slot.act .deadlineSwap = some next) :
    next.Doomed request := by
  obtain ⟨rfl, seen, owner, pending⟩ := canceling
  have informed := sound.informed
  rw [owner] at informed
  rw [act, deadlineSwap, owner] at acts
  simp only [pending, ↓reduceIte, Token.exchange_eq] at acts
  cases acts
  by_cases same : slot.token = seen
  · rw [if_pos same]
    exact .inr ⟨rfl, .inr ⟨fun pending => (by cases pending), timely⟩⟩
  · rw [if_neg same]
    refine .inr ⟨rfl, .inr ⟨fun state => same ?_, timely⟩⟩
    exact Token.ext informed (state.trans pending.symm)

theorem doomed_or_canceling (timely : ¬ slot.Contested)
    (acts : slot.act .deadlineLoad = some next) :
    next.Doomed slot.issued.length ∨ next.Canceling slot.issued.length := by
  obtain ⟨-, ⟨⟩⟩ := Option.ite_none_right_eq_some.mp acts
  by_cases pending : slot.token.state = .pending
  · exact .inr ⟨rfl, slot.token, rfl, pending⟩
  · exact .inl (.inr ⟨rfl, .inr ⟨pending, timely⟩⟩)

/-- The deadline of a deferred response is not lost: once a pass has found it
expired, the response is not pending without it, in any run in which no pass
meets a reply which is going to be refused. -/
theorem deferred_deadline_kept {wire : Wire} {slot looked later : Slot Response}
    (reached : Reached Timely wire slot) (timely : ¬ slot.Contested)
    (looks : slot.act .deadlineLoad = some looked)
    (leads : Leads Timely looked later) :
    later.DeadlineKept slot.issued.length := by
  have kept : later.Sound ∧
      (later.Doomed slot.issued.length ∨
        later.Canceling slot.issued.length) := by
    induction leads with
    | refl =>
      have move := act_move reached.sound looks
      exact ⟨move.sound reached.sound, doomed_or_canceling timely looks⟩
    | @step middle next action leads condition acts induction =>
      obtain ⟨sound, doomed | canceling⟩ := induction
      · have move := act_move sound acts
        exact ⟨move.sound sound, .inl (move.doomed sound doomed)⟩
      refine ⟨(act_move sound acts).sound sound, ?_⟩
      obtain ⟨request, seen, owner, pending⟩ := canceling
      rcases act_expiring owner acts with rfl | ⟨same, issued⟩
      · exact .inl
          (doomed_of_deadlineSwap sound condition
            ⟨request, seen, owner, pending⟩ acts)
      · refine .inr ⟨?_, seen, same.trans owner, pending⟩
        rw [issued]
        exact request
  intro same pending outside
  obtain ⟨sound,
    (earlier | ⟨-, ⟨generation, owner⟩ | ⟨state, -⟩⟩) | ⟨-, seen, owner,
      -⟩⟩ := kept
  · exact absurd same.symm (Nat.ne_of_lt earlier)
  · have informed := sound.informed
    rw [owner] at informed
    rw [informed.1] at pending
    cases pending
  · exact absurd pending state
  · exact absurd owner (outside seen)

/-- A request with a deadline is deferred, a worker claims its response, and the
deadline passes. -/
def expiryActions (composed : Except Refusal Unit) : List (Action Unit) :=
  [.arm 5, .deferLoad, .deferSwap, .deferPublish,
    .enter 1 true (.reply composed), .claim 0, .tick 9]

/-- The slot behind these actions. -/
def expirySlot (wire : Wire) (composed : Except Refusal Unit) : Slot Unit :=
  ((Slot.init Unit wire).run (expiryActions composed)).getD
    (Slot.init Unit wire)

theorem expirySlot_reached {wire : Wire} {composed : Except Refusal Unit}
    (runs : (Slot.init Unit wire).run (expiryActions composed) =
      some (expirySlot wire composed)) :
    Reached Timely wire (expirySlot wire composed) := by
  refine Reached.run .init (expiryActions composed) ?_ runs
  intro slot action member
  simp only [expiryActions, List.mem_cons, List.not_mem_nil, or_false]
    at member
  rcases member with rfl | rfl | rfl | rfl | rfl | rfl | rfl <;> trivial

/-- The slot in the middle of the pass. -/
def lookedSlot (composed : Except Refusal Unit) : Slot Unit :=
  ((expirySlot .http2 composed).act .deadlineLoad).getD
    (expirySlot .http2 composed)

/-- A reply which is not refused is left to complete the response. -/
theorem deferred_deadline_kept_writing :
    (lookedSlot (.ok ())).token = (⟨1, .writing⟩ : Token) ∧
    DeadlineKept
      (((lookedSlot (.ok ())).act .deadlineSwap).getD (lookedSlot (.ok ())))
      1 := by
  have valid : ∀ slot : Slot Unit,
      slot.calls = (expirySlot .http2 (.ok ())).calls → ¬ slot.Contested := by
    rintro slot calls ⟨index, call, ⟨found, -⟩, refusal, composed⟩
    rw [calls] at found
    cases index with
    | zero =>
      cases found
      cases composed
    | succ index => cases found
  refine ⟨rfl, ?_⟩
  have leads : Leads Timely (lookedSlot (.ok ()))
      (((lookedSlot (.ok ())).act .deadlineSwap).getD (lookedSlot (.ok ()))) :=
    @Leads.step _ Timely _ _ _ .deadlineSwap .refl (valid _ rfl) rfl
  exact deferred_deadline_kept (expirySlot_reached rfl) (valid _ rfl) rfl leads

/-- A reply with a header which is not valid. -/
def invalidReply : Except Refusal Unit := .error ⟨.einval, Status.noConfusion⟩

/-- The pass over the deadlines, and the rest of the reply. -/
def refusedActions : List (Action Unit) :=
  [.deadlineLoad, .deadlineSwap, .draft 0, .compose 0, .settle 0]

/-- The slot when the reply was refused. -/
def lostSlot (wire : Wire) : Slot Unit :=
  ((expirySlot wire invalidReply).run refusedActions).getD
    (expirySlot wire invalidReply)

/-- A reply which is refused after the pass leaves the response pending without
a deadline. -/
def DeadlineLost (wire : Wire) : Prop :=
  Reached Timely wire (expirySlot wire invalidReply) ∧
    (expirySlot wire invalidReply).deadlineExpired = true ∧
    (expirySlot wire invalidReply).run refusedActions = some (lostSlot wire) ∧
    (lostSlot wire).token = ⟨1, .pending⟩ ∧
    (lostSlot wire).owner = .resting ∧ (lostSlot wire).deadline = 0 ∧
    ¬ (lostSlot wire).DeadlineKept (expirySlot wire invalidReply).issued.length

/-- The deadline is lost on HTTP/1.1 and on HTTP/2. -/
theorem deferred_deadline_lost : DeadlineLost .http1 ∧ DeadlineLost .http2 := by
  constructor
  all_goals
    refine ⟨expirySlot_reached rfl, rfl, rfl, rfl, rfl, rfl, fun kept => ?_⟩
    exact (kept rfl rfl nofun).1 rfl

end Chttp.Server
