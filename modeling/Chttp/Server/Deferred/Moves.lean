import Chttp.Server.Deferred.Slot

/-!
# What an action can do to a slot

Every action is one of a few moves.  The moves rely on what the owner knows
about a token it loaded earlier, so the invariant of the slot comes first: the
state `WRITING` belongs to one call, or to the owner while it defers, and nobody
but the owner leaves `IDLE`, `READY` and `CANCELED`.
-/

namespace Chttp.Server

open Slot

variable {Response : Type} (calls : List (Call Response))

/-- The call at an index owns the builder. -/
def Holds (index : Nat) (call : Call Response) : Prop :=
  calls[index]? = some call ∧ call.phase.holds = true

/-- A reply of the generation which returned `SALTS_OK` composed these
contents. -/
def Completed (generation : UInt32) (contents : Contents Response) : Prop :=
  ∃ (index : Nat) (call : Call Response) (response : Response),
    calls[index]? = some call ∧ call.generation = generation ∧
    call.phase = .returned .ok ∧
    call.operation.composed = some (.ok response) ∧
    contents = .complete response

/-- The owner is deferring. -/
def Owner.Defers (owner : Owner) : Prop :=
  ∃ generation, owner = .deferring generation

/-- What the owner knows about the token, from what it loaded or did. -/
def Slot.Informed (slot : Slot Response) : Owner → Prop
  | .resting => True
  | .closing seen => seen.state = .idle → slot.token = seen
  | .deferLoaded seen => slot.token = seen ∧ seen.state = .idle
  | .deferring generation =>
    slot.token = ⟨generation, .writing⟩ ∧
      ∀ index call, ¬ Holds slot.calls index call
  | .expiring seen => slot.token.generation = seen.generation
  | .resetting => slot.token.state = .idle
  | .progressing seen =>
    seen.state = .ready ∨ seen.state = .canceled → slot.token = seen
  | .submitting generation =>
    slot.token = ⟨generation, .idle⟩ ∧
      Completed slot.calls generation slot.builder

/-- The invariant of a slot. -/
structure Slot.Sound (slot : Slot Response) : Prop where
  held : ∀ index call, Holds slot.calls index call →
    slot.token = ⟨call.generation, .writing⟩
  alone : ∀ first second call other, Holds slot.calls first call →
    Holds slot.calls second other → first = second
  writing : slot.token.state = .writing →
    (∃ index call, Holds slot.calls index call) ∨ slot.owner.Defers
  composed : ∀ (index : Nat) (call : Call Response),
    slot.calls[index]? = some call →
    call.phase = .composed → ∃ response,
      call.operation.composed = some (.ok response) ∧
        slot.builder = .complete response
  ready : slot.token.state = .ready →
    Completed slot.calls slot.token.generation slot.builder
  informed : slot.Informed slot.owner
  sent : ∀ entry ∈ slot.sent, Completed slot.calls entry.1 entry.2

/-! ## Moves -/

/-- What the last store of a call makes of the token, and what the call
returns. -/
inductive Verdict (call : Call Response) : DeferredState → Status → Prop where
  | ready {response : Response} (phase : call.phase = .composed)
      (composed : call.operation.composed = some (.ok response)) :
      Verdict call .ready .ok
  | restored {refusal : Refusal} (phase : call.phase = .refused)
      (composed : call.operation.composed = some (.error refusal)) :
      Verdict call .pending refusal.val
  | canceled (phase : call.phase = .claimed)
      (composed : call.operation.composed = none) :
      Verdict call .canceled .ok

/-- What an action can do. -/
inductive Move (slot : Slot Response) : Slot Response → Prop where
  /-- A call begins. -/
  | entered {call : Call Response} (phase : call.phase = .entered)
      (issued : call.generation ∈ slot.issued) :
      Move slot { slot with calls := slot.calls ++ [call] }
  /-- A call does not get the token. -/
  | failed {index : Nat} {call : Call Response} {status : Status}
      (found : slot.calls[index]? = some call)
      (phase : call.phase = .entered) (error : status ≠ .ok) :
      Move slot (slot.setCall index { call with phase := .returned status })
  /-- A call gets the token. -/
  | claimed {index : Nat} {call : Call Response}
      (found : slot.calls[index]? = some call)
      (phase : call.phase = .entered)
      (token : slot.token = ⟨call.generation, .pending⟩) :
      Move slot
        ({ slot with token := ⟨call.generation, .writing⟩ }.setCall index
          { call with phase := .claimed })
  /-- The call which has the token works on the builder. -/
  | worked {index : Nat} {call : Call Response} {phase : Phase}
      {builder : Contents Response} (holds : Holds slot.calls index call)
      (still : phase.holds = true)
      (composed : phase = .composed → ∃ response,
        call.operation.composed = some (.ok response) ∧
          builder = .complete response) :
      Move slot
        ({ slot with builder := builder }.setCall index
          { call with phase := phase })
  /-- The call which has the token gives it up. -/
  | settled {index : Nat} {call : Call Response} {state : DeferredState}
      {status : Status} (found : slot.calls[index]? = some call)
      (verdict : Verdict call state status) :
      Move slot
        ({ slot with token := ⟨call.generation, state⟩ }.setCall index
          { call with phase := .returned status })
  /-- The owner learns something, or gives up what it was doing. -/
  | rested {owner : Owner} {closed : Bool} {deadline now : Nat}
      (before : ¬ slot.owner.Defers)
      (after : slot.Informed owner) (free : ¬ owner.Defers) :
      Move slot
        { slot with
          owner := owner, closed := closed, deadline := deadline, now := now }
  /-- Time passes. -/
  | ticked {now : Nat} : Move slot { slot with now := now }
  /-- The owner begins to defer. -/
  | begun (before : slot.owner = .deferLoaded slot.token)
      (idle : slot.token.state = .idle) :
      Move slot { slot with
        token := ⟨nextGeneration slot.token.generation, .writing⟩
        owner := .deferring (nextGeneration slot.token.generation) }
  /-- The owner hands out the generation. -/
  | published {generation : UInt32} {closed : Bool}
      (before : slot.owner = .deferring generation) :
      Move slot { slot with
        builder := .empty
        closed := closed
        token := ⟨generation, .pending⟩
        owner := .resting
        issued := slot.issued ++ [generation] }
  /-- The owner cancels or drops what nobody is writing. -/
  | dropped {state : DeferredState} {owner : Owner}
      {builder : Contents Response} {closed : Bool} {deadline : Nat}
      (before : ¬ slot.owner.Defers)
      (free : slot.token.state ≠ .writing)
      (lower : state = .idle ∨ state = .canceled ∧ owner = .resting)
      (after : owner = .resting ∨ owner = .resetting) :
      Move slot { slot with
        token := ⟨slot.token.generation, state⟩
        owner := owner
        builder := builder
        closed := closed
        deadline := deadline }
  /-- The owner resets a slot which is not in use. -/
  | cleared {closed : Bool} {deadline : Nat}
      (before : slot.owner = .resting ∨ slot.owner = .resetting)
      (idle : slot.token.state = .idle) :
      Move slot { slot with
        builder := .empty
        closed := closed
        deadline := deadline
        owner := .resting }
  /-- The owner takes a complete response off an HTTP/1.1 connection. -/
  | taken {deadline : Nat} (before : ¬ slot.owner.Defers)
      (ready : slot.token.state = .ready) :
      Move slot { slot with
        token := ⟨slot.token.generation, .idle⟩
        owner := .resting
        deadline := deadline
        sent := slot.sent ++ [(slot.token.generation, slot.builder)] }
  /-- The owner takes a complete response off an HTTP/2 stream. -/
  | handed {deadline : Nat} (before : ¬ slot.owner.Defers)
      (ready : slot.token.state = .ready) :
      Move slot { slot with
        token := ⟨slot.token.generation, .idle⟩
        deadline := deadline
        owner := .submitting slot.token.generation }
  /-- The owner submits it. -/
  | submitted {generation : UInt32}
      (before : slot.owner = .submitting generation) :
      Move slot
        { slot with
          owner := .resting, sent := slot.sent ++ [(generation, slot.builder)] }

/-! ## Changing one call -/

section Calls

variable {calls : List (Call Response)} {index : Nat}
  {call : Call Response} (found : calls[index]? = some call)

include found

theorem getElem?_set_iff (changed : Call Response) (position : Nat)
    (other : Call Response) :
    (calls.set index changed)[position]? = some other ↔
      (position = index ∧ other = changed) ∨
        (position ≠ index ∧ calls[position]? = some other) := by
  have inside := (List.getElem?_eq_some_iff.mp found).1
  grind

/-- A change of a call which has not succeeded keeps the completion. -/
theorem Completed.set {generation : UInt32} {contents : Contents Response}
    (completed : Completed calls generation contents)
    (changed : Call Response) (unsettled : call.phase ≠ .returned .ok) :
    Completed (calls.set index changed) generation contents := by
  obtain ⟨position, other, response, there, same, phase, rest⟩ := completed
  refine ⟨position, other, response, ?_, same, phase, rest⟩
  refine (getElem?_set_iff found changed position other).mpr (.inr ⟨?_, there⟩)
  rintro rfl
  rw [there] at found
  cases found
  exact unsettled phase

/-- Where a call with some property is after one call has changed. -/
theorem set_and_iff (Property : Call Response → Prop) (changed : Call Response)
    (position : Nat)
    (other : Call Response) :
    (calls.set index changed)[position]? = some other ∧ Property other ↔
      (position = index ∧ other = changed ∧ Property changed) ∨
        (position ≠ index ∧ calls[position]? = some other ∧
          Property other) := by
  rw [getElem?_set_iff found, or_and_right, and_assoc, and_assoc]
  refine or_congr_left (and_congr_right fun _ => and_congr_right ?_)
  rintro rfl
  rfl

theorem holds_set_iff (changed : Call Response) (position : Nat)
    (other : Call Response) :
    Holds (calls.set index changed) position other ↔
      (position = index ∧ other = changed ∧ changed.phase.holds = true) ∨
        (position ≠ index ∧ Holds calls position other) :=
  set_and_iff found (·.phase.holds = true) changed position other

end Calls

variable {calls : List (Call Response)} {call : Call Response}
  {slot next : Slot Response}
  {owner : Owner} {index : Nat} {status : Status}

/-- Further calls keep the completion. -/
theorem Completed.append {generation : UInt32} {contents : Contents Response}
    (completed : Completed calls generation contents)
    (more : List (Call Response)) :
    Completed (calls ++ more) generation contents := by
  obtain ⟨position, other, response, there, rest⟩ := completed
  refine ⟨position, other, response, ?_, rest⟩
  rw [List.getElem?_append_left (List.getElem?_eq_some_iff.mp there).1]
  exact there

theorem getElem?_append_iff (call : Call Response) (position : Nat)
    (other : Call Response) :
    (calls ++ [call])[position]? = some other ↔ calls[position]? = some other ∨
        (position = calls.length ∧ other = call) := by
  grind

/-- Where a call with some property is after one without it has begun. -/
theorem append_and_iff (Property : Call Response → Prop)
    (lacks : ¬ Property call)
    (position : Nat) (other : Call Response) :
    (calls ++ [call])[position]? = some other ∧ Property other ↔
      calls[position]? = some other ∧ Property other := by
  rw [getElem?_append_iff, or_and_right, or_iff_left]
  rintro ⟨⟨-, rfl⟩, has⟩
  exact lacks has

theorem holds_append_iff (phase : call.phase = .entered) (position : Nat)
    (other : Call Response) :
    Holds (calls ++ [call]) position other ↔ Holds calls position other :=
  append_and_iff (·.phase.holds = true) (by rw [phase]; nofun) position other

/-! ## The invariant -/

/-- What the owner knows stays true when nothing it knows about changes. -/
theorem Slot.Informed.frame (informed : slot.Informed owner)
    (token : next.token = slot.token)
    (builder : next.builder = slot.builder)
    (holds : ∀ index call, Holds next.calls index call →
      Holds slot.calls index call)
    (completed : ∀ generation contents,
      Completed slot.calls generation contents →
        Completed next.calls generation contents) : next.Informed owner := by
  cases owner with
  | resting => trivial
  | deferring generation =>
    rw [Informed, token]
    exact ⟨informed.1, fun index call held => informed.2 index call
      (holds index call held)⟩
  | submitting generation =>
    rw [Informed, token, builder]
    exact ⟨informed.1, completed _ _ informed.2⟩
  | _ =>
    rw [Informed, token]
    exact informed

/-- While the response is open the owner knows no more than the generation. -/
theorem Slot.Informed.open (informed : slot.Informed owner)
    (unsettled : slot.token.state = .pending ∨
      slot.token.state = .writing ∧ ∃ index call, Holds slot.calls index call)
    (same : next.token.generation = slot.token.generation) :
    next.Informed owner := by
  have never : slot.token.state ≠ .idle ∧ slot.token.state ≠ .ready ∧
      slot.token.state ≠ .canceled := by
    rcases unsettled with state | ⟨state, -⟩ <;> rw [state] <;> decide
  cases owner with
  | resting => trivial
  | closing seen => exact fun idle => absurd (informed idle ▸ idle) never.1
  | deferLoaded seen => exact absurd (informed.1 ▸ informed.2) never.1
  | deferring generation =>
    obtain ⟨token, nobody⟩ := informed
    rcases unsettled with pending | ⟨-, index, call, holds⟩
    · rw [token] at pending
      cases pending
    · exact absurd holds (nobody index call)
  | expiring seen => exact same.trans informed
  | resetting => exact absurd informed never.1
  | progressing seen =>
    intro settled
    have token := informed settled
    rcases settled with state | state
    · exact absurd (token ▸ state) never.2.1
    · exact absurd (token ▸ state) never.2.2
  | submitting generation =>
    exact absurd (congrArg Token.state informed.1) never.1

theorem Slot.Sound.nobody (sound : slot.Sound)
    (free : slot.token.state ≠ .writing) (index : Nat)
    (call : Call Response) : ¬ Holds slot.calls index call := by
  intro holds
  refine free ?_
  rw [sound.held index call holds]

theorem holds_of_composed (found : calls[index]? = some call)
    (phase : call.phase = .composed) :
    Holds calls index call :=
  ⟨found, by rw [phase]; rfl⟩

/-- A call which does not have the token begins or returns. -/
theorem Slot.Sound.bystander (sound : slot.Sound)
    (holds : ∀ index call, Holds calls index call ↔ Holds slot.calls index call)
    (completed : ∀ generation contents,
      Completed slot.calls generation contents →
        Completed calls generation contents) : Slot.Sound { slot with calls :=
          calls } where
  held index call held := sound.held index call ((holds index call).mp held)
  alone first second call other held also :=
    sound.alone first second call other ((holds first call).mp held)
      ((holds second other).mp also)
  writing writing := by
    refine (sound.writing writing).imp_left ?_
    rintro ⟨index, call, held⟩
    exact ⟨index, call, (holds index call).mpr held⟩
  composed index call found phase :=
    sound.composed index call
      ((holds index call).mp (holds_of_composed found phase)).1 phase
  ready ready := completed _ _ (sound.ready ready)
  informed := sound.informed.frame rfl rfl
    (fun index call => (holds index call).mp) completed
  sent entry member := completed _ _ (sound.sent entry member)

/-- A call which fails keeps the slot sound. -/
theorem Slot.Sound.failed (sound : slot.Sound)
    (found : slot.calls[index]? = some call)
    (phase : call.phase = .entered) :
    Slot.Sound (slot.setCall index
      { call with phase := .returned status }) := by
  refine sound.bystander (fun position other => ?_) fun _ _ completed =>
    completed.set found _ (by rw [phase]; nofun)
  rw [holds_set_iff found]
  constructor
  · rintro (⟨-, -, holds⟩ | ⟨-, holds⟩)
    · cases holds
    · exact holds
  intro holds
  refine .inr ⟨?_, holds⟩
  rintro rfl
  rw [Holds, found] at holds
  obtain ⟨same, holds⟩ := holds
  cases same
  rw [phase] at holds
  cases holds

/-- The call which has the token, or gets it, does something and keeps it. -/
theorem Slot.Sound.holding (sound : slot.Sound) {phase : Phase}
    {builder : Contents Response}
    (found : slot.calls[index]? = some call)
    (holder : slot.token = ⟨call.generation, .pending⟩ ∨
      call.phase.holds = true)
    (unsettled : call.phase ≠ .returned .ok) (still : phase.holds = true)
    (composed : phase = .composed → ∃ response,
      call.operation.composed = some (.ok response) ∧
        builder = .complete response) :
    Slot.Sound
      ({ slot with
          token := ⟨call.generation, .writing⟩
          builder := builder }.setCall index { call with phase := phase }) := by
  -- Before the move nobody but this call holds the token.
  have only : ∀ position other, Holds slot.calls position other →
      position = index := by
    intro position other holds
    rcases holder with pending | holding
    · exact absurd holds (sound.nobody (by rw [pending]; nofun) position other)
    · exact sound.alone position index other call holds ⟨found, holding⟩
  have generation : slot.token.generation = call.generation := by
    rcases holder with pending | holding
    · rw [pending]
    · rw [sound.held index call ⟨found, holding⟩]
  have holds : ∀ position other,
    Holds (slot.calls.set index { call with phase := phase })
        position other →
        position = index ∧ other = { call with phase := phase } := by
    intro position other holds
    rcases (holds_set_iff found _ position other).mp holds with
      ⟨here, same, -⟩ | ⟨away, old⟩
    · exact ⟨here, same⟩
    · exact absurd (only position other old) away
  constructor
  case held =>
    intro position other held
    rw [(holds position other held).2]
    rfl
  case alone =>
    intro first second one other held also
    rw [(holds first one held).1, (holds second other also).1]
  case writing =>
    intro _
    exact .inl
      ⟨index, _, (holds_set_iff found _ _ _).mpr (.inl ⟨rfl, rfl, still⟩)⟩
  case composed =>
    intro position other there phased
    have held := holds position other (holds_of_composed there phased)
    rw [held.2] at phased ⊢
    exact composed phased
  case ready => rintro ⟨⟩
  case informed =>
    refine sound.informed.open ?_ generation.symm
    rcases holder with pending | holding
    · exact .inl (by rw [pending])
    · refine .inr ⟨?_, index, call, found, holding⟩
      rw [sound.held index call ⟨found, holding⟩]
  case sent => exact fun entry member =>
    (sound.sent entry member).set found _ unsettled

/-- A call with a verdict holds the slot. -/
theorem Verdict.holds {state : DeferredState}
    (verdict : Verdict call state status) :
    call.phase.holds = true := by
  cases verdict with
  | ready phase | restored phase | canceled phase => rw [phase]; rfl

/-- A call gives up the token. -/
theorem Slot.Sound.settled (sound : slot.Sound) {state : DeferredState}
    (found : slot.calls[index]? = some call)
    (verdict : Verdict call state status) :
    Slot.Sound
      ({ slot with token := ⟨call.generation, state⟩ }.setCall index
        { call with phase := .returned status }) := by
  have holding : Holds slot.calls index call := ⟨found, verdict.holds⟩
  have token := sound.held index call holding
  have unsettled : call.phase ≠ .returned .ok := by
    intro phase
    have holds := verdict.holds
    rw [phase] at holds
    cases holds
  have nobody : ∀ position other,
      ¬ Holds (slot.calls.set index { call with phase := .returned status })
        position other := by
    intro position other holds
    rcases (holds_set_iff found _ position other).mp holds with
      ⟨-, -, holds⟩ | ⟨away, old⟩
    · cases holds
    · exact away (sound.alone position index other call old holding)
  constructor
  case held => exact fun position other held => absurd held (nobody _ _)
  case alone =>
    exact fun first second one other held => absurd held (nobody _ _)
  case writing =>
    intro writing
    cases verdict <;> cases writing
  case composed =>
    exact fun position other there phase =>
      absurd (holds_of_composed there phase) (nobody position other)
  case ready =>
    intro ready
    cases verdict with
    | @ready response phase composed =>
      obtain ⟨other, same, builder⟩ := sound.composed index call found phase
      rw [composed] at same
      cases same
      refine ⟨index, _, response,
        (getElem?_set_iff found _ _ _).mpr (.inl ⟨rfl, rfl⟩), rfl, rfl,
        composed, builder⟩
    | restored | canceled => cases ready
  case informed =>
    refine sound.informed.open (.inr ⟨?_, index, call, holding⟩) ?_
    · rw [token]
    · rw [token]
      rfl
  case sent => exact fun entry member =>
    (sound.sent entry member).set found _ unsettled

/-- The owner does something about a slot nobody writes, or leaves token and
builder alone. -/
theorem Slot.Sound.owned (sound : slot.Sound) (calls : next.calls = slot.calls)
    (alone : (next.token = slot.token ∧ next.builder = slot.builder) ∨
      ∀ index call, ¬ Holds slot.calls index call)
    (writing : next.token.state = .writing →
      (∃ index call, Holds slot.calls index call) ∨ next.owner.Defers)
    (ready : next.token.state = .ready →
      Completed slot.calls next.token.generation next.builder)
    (informed : next.Informed next.owner)
    (sent : ∀ entry ∈ next.sent, entry ∈ slot.sent ∨
      Completed slot.calls entry.1 entry.2) :
    next.Sound := by
  constructor
  case held =>
    intro index call holds
    rw [calls] at holds
    rcases alone with ⟨token, -⟩ | nobody
    · rw [token]
      exact sound.held index call holds
    · exact absurd holds (nobody index call)
  case alone =>
    rw [calls]
    exact sound.alone
  case writing =>
    rw [calls]
    exact writing
  case composed =>
    intro index call found phase
    rw [calls] at found
    rcases alone with ⟨-, builder⟩ | nobody
    · rw [builder]
      exact sound.composed index call found phase
    · exact absurd (holds_of_composed found phase) (nobody index call)
  case ready =>
    rw [calls]
    exact ready
  case informed => exact informed
  case sent =>
    intro entry member
    rw [calls]
    rcases sent entry member with old | completed
    · exact sound.sent entry old
    · exact completed

/-- The moves keep the invariant. -/
theorem Move.sound (move : Move slot next) (sound : slot.Sound) :
    next.Sound := by
  cases move with
  | entered phase =>
    exact sound.bystander (holds_append_iff phase) fun _ _ completed =>
      completed.append _
  | failed found phase => exact sound.failed found phase
  | claimed found phase token =>
    exact sound.holding found (.inl token) (by rw [phase]; nofun) rfl nofun
  | @worked index call phase builder holds still composed =>
    have token := sound.held index call holds
    have same : ({ slot with builder := builder } : Slot Response) =
        { slot with
          token := ⟨call.generation, .writing⟩, builder := builder } := by
      rw [← token]
    rw [same]
    refine sound.holding holds.1 (.inr holds.2) ?_ still composed
    intro phase
    have holding := holds.2
    rw [phase] at holding
    cases holding
  | settled found verdict => exact sound.settled found verdict
  | rested before after free =>
    refine sound.owned rfl (.inl ⟨rfl, rfl⟩) (fun writing => ?_) sound.ready ?_
      (fun _ => .inl)
    · exact .inl ((sound.writing writing).resolve_right before)
    · exact after.frame rfl rfl (fun _ _ => id) (fun _ _ => id)
  | ticked =>
    refine sound.owned rfl (.inl ⟨rfl, rfl⟩) sound.writing sound.ready ?_
      (fun _ => .inl)
    exact sound.informed.frame rfl rfl (fun _ _ => id) (fun _ _ => id)
  | begun before idle =>
    have nobody := sound.nobody (by rw [idle]; nofun)
    exact sound.owned rfl (.inr nobody) (fun _ => .inr ⟨_, rfl⟩) nofun
      ⟨rfl, nobody⟩ (fun _ => .inl)
  | published before =>
    have informed := sound.informed
    rw [before] at informed
    exact sound.owned rfl (.inr informed.2) nofun nofun trivial (fun _ => .inl)
  | @dropped state owner builder closed deadline before free lower after =>
    refine sound.owned rfl (.inr (sound.nobody free)) ?_ ?_ ?_ (fun _ => .inl)
    · intro writing
      rcases lower with rfl | ⟨rfl, -⟩ <;> cases writing
    · intro ready
      rcases lower with rfl | ⟨rfl, -⟩ <;> cases ready
    rcases after with rfl | rfl
    · trivial
    · rcases lower with rfl | ⟨-, resting⟩
      · rfl
      · cases resting
  | cleared before idle =>
    refine sound.owned rfl (.inr (sound.nobody (by rw [idle]; nofun))) ?_
      ?_ trivial (fun _ => .inl)
    · intro writing
      cases idle.symm.trans writing
    · intro ready
      cases idle.symm.trans ready
  | taken before ready =>
    exact sound.owned rfl (.inr (sound.nobody (by rw [ready]; nofun))) nofun
      nofun trivial
      (List.forall_mem_append.mpr
        ⟨fun _ => .inl, List.forall_mem_singleton.mpr
          (.inr (sound.ready ready))⟩)
  | handed before ready =>
    exact sound.owned rfl (.inr (sound.nobody (by rw [ready]; nofun)))
      nofun nofun ⟨rfl, sound.ready ready⟩ (fun _ => .inl)
  | submitted before =>
    have informed := sound.informed
    rw [before] at informed
    refine sound.owned rfl (.inl ⟨rfl, rfl⟩)
      (fun writing => ?_) sound.ready trivial ?_
    · cases (congrArg Token.state informed.1).symm.trans writing
    exact List.forall_mem_append.mpr
      ⟨fun _ => .inl, List.forall_mem_singleton.mpr (.inr informed.2)⟩

/-! ## Every action is a move -/

section Actions

variable {slot next : Slot Response}

theorem Slot.claim_move (acts : slot.claim index = some next) :
    Move slot next := by
  rw [claim] at acts
  split at acts
  · rename_i call found
    split at acts
    · cases acts
    rename_i phase
    have entered : call.phase = .entered := Classical.not_not.mp phase
    split at acts
    · cases acts
      exact .failed found entered Status.noConfusion
    by_cases pending : slot.token = ⟨call.generation, .pending⟩
    · rw [pending, Token.claim_pending] at acts
      cases acts
      exact .claimed found entered pending
    obtain ⟨status, error, other⟩ := Token.claim_other pending
    rw [other] at acts
    simp only at acts
    cases acts
    exact .failed found entered error
  · cases acts

theorem Slot.draft_move (acts : slot.draft index = some next) :
    Move slot next := by
  rw [draft] at acts
  split at acts
  · rename_i call found
    obtain ⟨ready, ⟨⟩⟩ := Option.ite_none_right_eq_some.mp acts
    exact .worked ⟨found, by rw [ready.1]; rfl⟩ rfl nofun
  · cases acts

theorem Slot.compose_move (acts : slot.compose index = some next) :
    Move slot next := by
  rw [compose] at acts
  split at acts
  · rename_i call found
    split at acts
    · rename_i phase
      have holds : Holds slot.calls index call := ⟨found, by rw [phase]; rfl⟩
      split at acts
      · rename_i response composed
        cases acts
        exact .worked holds rfl (fun _ => ⟨response, composed, rfl⟩)
      · cases acts
        exact .worked holds rfl nofun
      · cases acts
    · cases acts
  · cases acts

theorem Slot.settle_move (acts : slot.settle index = some next) :
    Move slot next := by
  rw [settle] at acts
  split at acts
  · rename_i call found
    split at acts
    · rename_i response phase composed
      cases acts
      exact .settled found (.ready phase composed)
    · rename_i refusal phase composed
      cases acts
      exact .settled found (.restored phase composed)
    · rename_i phase composed
      cases acts
      exact .settled found (.canceled phase composed)
    · cases acts
  · cases acts

theorem Owner.Defers.ne_resting (resting : owner = .resting) :
    ¬ owner.Defers := by
  simp [Owner.Defers, resting]

theorem Move.idled {closed : Bool} {deadline : Nat}
    (before : ¬ slot.owner.Defers)
    (after : owner = .resting) :
    Move slot { slot with
      owner := owner, closed := closed, deadline := deadline } := by
  refine .rested before ?_ (Owner.Defers.ne_resting after)
  rw [after]
  trivial

theorem Slot.deferLoad_move (acts : slot.deferLoad = some next) :
    Move slot next := by
  rw [deferLoad] at acts
  split at acts
  · cases acts
  rename_i owner
  have resting : slot.owner = .resting := Classical.not_not.mp owner
  split at acts
  · rename_i idle
    cases acts
    exact .rested (Owner.Defers.ne_resting resting) ⟨rfl, idle⟩ nofun
  · cases acts
    exact .idled (Owner.Defers.ne_resting resting) resting

theorem Slot.deferSwap_move (sound : slot.Sound)
    (acts : slot.deferSwap = some next) : Move slot next := by
  have informed := sound.informed
  rw [deferSwap] at acts
  split at acts
  · rename_i seen owner
    rw [owner] at informed
    obtain ⟨rfl, idle⟩ := informed
    simp only [Token.exchange_eq, ↓reduceIte] at acts
    cases acts
    exact .begun owner idle
  · cases acts

theorem Slot.deferPublish_move (acts : slot.deferPublish = some next) :
    Move slot next := by
  rw [deferPublish] at acts
  split at acts
  · rename_i generation owner
    cases acts
    exact .published owner
  · cases acts

theorem Slot.deadlineSwap_move (acts : slot.deadlineSwap = some next) :
    Move slot next := by
  rw [deadlineSwap] at acts
  split at acts
  · rename_i seen owner
    have before : ¬ slot.owner.Defers := by simp [Owner.Defers, owner]
    rw [Token.exchange_eq] at acts
    cases acts
    by_cases cancels : seen.state = .pending ∧ slot.token = seen
    · obtain ⟨pending, rfl⟩ := cancels
      simp only [pending, ↓reduceIte]
      exact .dropped before (by rw [pending]; nofun) (.inr ⟨rfl, rfl⟩)
        (.inl rfl)
    have same : (if seen.state = .pending then
        (if slot.token = seen then
          (true, (⟨seen.generation, .canceled⟩ : Token))
        else (false, slot.token)).2
        else slot.token) = slot.token := by
      split
      · rename_i pending
        rw [if_neg fun token => cancels ⟨pending, token⟩]
      · rfl
    rw [same]
    exact .idled before rfl
  · cases acts

theorem Slot.disconnect_move (acts : slot.disconnect = some next) :
    Move slot next := by
  obtain ⟨ready, acts⟩ := Option.ite_none_right_eq_some.mp acts
  split at acts
  · rename_i idle
    cases acts
    have cleared : Move slot { slot with
        builder := .empty, closed := false, deadline := 0,
        owner := .resting } := .cleared (.inl ready.1) idle
    rwa [← ready.1] at cleared
  · cases acts
    exact .idled (Owner.Defers.ne_resting ready.1) ready.1

section

variable (sound : slot.Sound)

include sound

theorem Slot.closeSwap_move {spurious : Bool}
    (acts : slot.closeSwap spurious = some next) :
    Move slot next := by
  have informed := sound.informed
  rw [closeSwap] at acts
  split at acts
  · rename_i seen owner
    rw [owner] at informed
    have before : ¬ slot.owner.Defers := by simp [Owner.Defers, owner]
    split at acts
    · cases acts
      exact .idled before rfl
    rename_i free
    split at acts
    · rename_i idle
      cases acts
      refine .rested before ?_ nofun
      rw [Informed, informed idle, idle]
    split at acts
    · cases acts
      exact .rested before (fun _ => rfl) nofun
    rw [Token.exchange_eq] at acts
    by_cases same : slot.token = seen
    · rw [if_pos same] at acts
      cases acts
      subst same
      exact .dropped before free (.inl rfl) (.inr rfl)
    · rw [if_neg same] at acts
      cases acts
      exact .rested before (fun _ => rfl) nofun
  · cases acts

theorem Slot.closeReset_move (acts : slot.closeReset = some next) :
    Move slot next := by
  have informed := sound.informed
  rw [closeReset] at acts
  split at acts
  · rename_i owner
    rw [owner] at informed
    cases acts
    exact .cleared (.inr owner) informed
  · cases acts

theorem Slot.progressHttp1_move {seen : Token}
    (owner : slot.owner = .progressing seen)
    (around : Surroundings) : Move slot (slot.progressHttp1 seen around) := by
  have informed := sound.informed
  rw [owner] at informed
  have before : ¬ slot.owner.Defers := by simp [Owner.Defers, owner]
  have drop : slot.token = seen → seen.state ≠ .writing →
      Move slot { slot.reset with
        token := ⟨seen.generation, .idle⟩, owner := .resting } := by
    rintro rfl free
    exact .dropped before free (.inl rfl) (.inl rfl)
  rw [progressHttp1]
  simp only
  split
  · rename_i canceled
    exact drop (informed (.inr canceled)) (by rw [canceled]; nofun)
  · rename_i ready
    have token := informed (.inl ready)
    have free : seen.state ≠ .writing := by
      rw [ready]
      nofun
    split
    · exact drop token free
    split
    · exact drop token free
    · subst token
      exact .taken before ready
  · exact .idled before rfl

theorem Slot.progressHttp2_move {seen : Token}
    (owner : slot.owner = .progressing seen)
    (around : Surroundings) : Move slot (slot.progressHttp2 seen around) := by
  have informed := sound.informed
  rw [owner] at informed
  have before : ¬ slot.owner.Defers := by simp [Owner.Defers, owner]
  rw [progressHttp2]
  simp only [Token.exchange_eq]
  split
  · exact .idled before rfl
  rename_i unsettled
  split
  · by_cases same : slot.token = seen
    · rw [if_pos same]
      subst same
      exact .dropped before (fun writing => unsettled (.inr writing)) (.inl rfl)
        (.inr rfl)
    · rw [if_neg same]
      exact .idled before rfl
  split
  · exact .idled before rfl
  split
  · rename_i canceled
    have token := informed (.inr canceled)
    subst token
    exact .dropped before (by rw [canceled]; nofun) (.inl rfl) (.inl rfl)
  · rename_i ready
    have token := informed (.inl ready)
    subst token
    split
    · exact .handed before ready
    · exact .dropped before (by rw [ready]; nofun) (.inl rfl) (.inl rfl)
  · exact .idled before rfl

/-- Every action is a move. -/
theorem Slot.act_move {action : Action Response}
    (acts : slot.act action = some next) :
    Move slot next := by
  cases action with
  | enter generation wellFormed operation =>
    obtain ⟨issued, ⟨⟩⟩ := Option.ite_none_right_eq_some.mp acts
    exact .entered rfl issued
  | claim index => exact claim_move acts
  | draft index => exact draft_move acts
  | compose index => exact compose_move acts
  | settle index => exact settle_move acts
  | tick elapsed =>
    cases acts
    exact .ticked
  | arm budget =>
    obtain ⟨ready, ⟨⟩⟩ := Option.ite_none_right_eq_some.mp acts
    exact .idled (Owner.Defers.ne_resting ready.1) ready.1
  | deferLoad => exact deferLoad_move acts
  | deferSwap => exact deferSwap_move sound acts
  | deferPublish => exact deferPublish_move acts
  | deadlineLoad =>
    obtain ⟨ready, ⟨⟩⟩ := Option.ite_none_right_eq_some.mp acts
    exact .rested (Owner.Defers.ne_resting ready.1) rfl nofun
  | deadlineSwap => exact deadlineSwap_move acts
  | disconnect => exact disconnect_move acts
  | closeLoad =>
    obtain ⟨ready, ⟨⟩⟩ := Option.ite_none_right_eq_some.mp acts
    exact .rested (Owner.Defers.ne_resting ready.1) (fun _ => rfl) nofun
  | closeSwap spurious => exact closeSwap_move sound acts
  | closeReset => exact closeReset_move sound acts
  | progressLoad =>
    obtain ⟨resting, ⟨⟩⟩ := Option.ite_none_right_eq_some.mp acts
    exact .rested (Owner.Defers.ne_resting resting) (fun _ => rfl) nofun
  | progress around =>
    rw [act, progress] at acts
    split at acts
    · rename_i seen owner
      split at acts
      · cases acts
        exact progressHttp1_move sound owner around
      · cases acts
        exact progressHttp2_move sound owner around
    · cases acts
  | submit accepted =>
    rw [act, submit] at acts
    split at acts
    · rename_i generation owner
      have before : ¬ slot.owner.Defers := by simp [Owner.Defers, owner]
      cases accepted with
      | true =>
        cases acts
        exact .submitted owner
      | false =>
        cases acts
        exact .idled before rfl
    · cases acts

end

end Actions

/-! ## Runs -/

/-- The slots which a run reaches whose actions all satisfy a condition on the
slot before them. -/
inductive Reached (allowed : Slot Response → Action Response → Prop)
    (wire : Wire) : Slot Response → Prop where
  | init : Reached allowed wire (Slot.init Response wire)
  | step {slot next : Slot Response} {action : Action Response}
      (reached : Reached allowed wire slot) (condition : allowed slot action)
      (acts : slot.act action = some next) :
      Reached allowed wire next

/-- The slots which some run reaches. -/
abbrev Reachable : Wire → Slot Response → Prop := Reached fun _ _ => True

/-- A new slot is sound. -/
theorem Slot.Sound.init (wire : Wire) :
    Slot.Sound (Slot.init Response wire) := by
  have nobody : ∀ index call,
      ¬ Holds (Slot.init Response wire).calls index call := by
    rintro index call ⟨found, -⟩
    cases found
  constructor
  case held => exact fun index call holds => absurd holds (nobody index call)
  case alone =>
    exact fun first _ call _ holds => absurd holds (nobody first call)
  case writing => rintro ⟨⟩
  case composed =>
    exact fun index call found phase =>
      absurd (holds_of_composed found phase) (nobody index call)
  case ready => rintro ⟨⟩
  case informed => exact trivial
  case sent => exact nofun

/-- Every slot which is reached is sound. -/
theorem Reached.sound {allowed : Slot Response → Action Response → Prop}
    {wire : Wire}
    (reached : Reached allowed wire slot) : slot.Sound := by
  induction reached with
  | init => exact Slot.Sound.init wire
  | step _ _ acts sound => exact (act_move sound acts).sound sound

/-- Allowed actions lead on from what is reached. -/
theorem Reached.run {allowed : Slot Response → Action Response → Prop}
    {wire : Wire}
    (reached : Reached allowed wire slot) (actions : List (Action Response))
    (always : ∀ slot, ∀ action ∈ actions, allowed slot action)
    (runs : slot.run actions = some next) : Reached allowed wire next := by
  induction actions generalizing slot with
  | nil =>
    cases runs
    exact reached
  | cons action actions induction =>
    obtain ⟨middle, acts, rest⟩ := Option.bind_eq_some_iff.mp runs
    refine induction (reached.step ?_ acts) (fun slot other member => ?_) rest
    · exact always slot action List.mem_cons_self
    · exact always slot other (List.mem_cons_of_mem _ member)

end Chttp.Server
