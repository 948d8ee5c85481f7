import Chttp.Server.Deferred.Moves

/-!
# Deferred responses have one winner

Of the calls on one generation at most one returns `SALTS_OK`, and what is sent
for the generation is what that call composed.  Generations are counted in 32
bits, so the count of deferrals is bounded.
-/

namespace Chttp.Server

open Slot

variable {Response : Type}

/-- The deferrals of a slot, with the one which is just beginning. -/
def Slot.deferrals (slot : Slot Response) : Nat :=
  match slot.owner with
  | .deferring _ => slot.issued.length + 1
  | _ => slot.issued.length

/-- The call has completed its generation. -/
def Wins (calls : List (Call Response)) (index : Nat) (call : Call Response) :
    Prop :=
  calls[index]? = some call ∧ call.phase = .returned .ok

/-- What generations say while they are not used up. -/
structure Slot.Counted (slot : Slot Response) : Prop where
  generation : slot.token.generation.toNat = slot.deferrals
  issued : ∀ generation ∈ slot.issued, generation.toNat ≤ slot.issued.length
  calls : ∀ call ∈ slot.calls, call.generation ∈ slot.issued
  won : ∀ index call, Wins slot.calls index call →
    call.generation = slot.token.generation →
      slot.token.state ≠ .pending ∧ slot.token.state ≠ .writing
  once : ∀ first second call other, Wins slot.calls first call →
    Wins slot.calls second other → call.generation = other.generation →
      first = second

variable {slot next : Slot Response}

theorem Slot.deferrals_of_not
    (free : ¬ slot.owner.Defers) : slot.deferrals = slot.issued.length := by
  rw [deferrals]
  split
  · rename_i generation owner
    exact absurd ⟨generation, owner⟩ free
  · rfl

theorem toNat_nextGeneration {generation : UInt32}
    (more : generation.toNat + 1 < 2 ^ 32) :
    (nextGeneration generation).toNat = generation.toNat + 1 := by
  have sum : (generation + 1).toNat = generation.toNat + 1 := by
    rw [UInt32.toNat_add]
    exact Nat.mod_eq_of_lt more
  rw [nextGeneration, if_neg, sum]
  intro zero
  rw [zero] at sum
  cases sum

section Calls

variable {calls : List (Call Response)} {index : Nat}
  {call : Call Response} (found : calls[index]? = some call)

include found

theorem wins_set_iff (changed : Call Response) (position : Nat)
    (other : Call Response) :
    Wins (calls.set index changed) position other ↔
      (position = index ∧ other = changed ∧ changed.phase = .returned .ok) ∨
        (position ≠ index ∧ Wins calls position other) :=
  set_and_iff found (·.phase = .returned .ok) changed position other

theorem generation_mem_set {issued : List UInt32}
    (members : ∀ call ∈ calls, call.generation ∈ issued)
    (changed : Call Response) (same : changed.generation = call.generation) :
    ∀ call ∈ calls.set index changed, call.generation ∈ issued := by
  intro other member
  rcases List.mem_or_eq_of_mem_set member with old | rfl
  · exact members other old
  · rw [same]
    exact members call (List.mem_of_getElem? found)

end Calls

variable {call : Call Response} {index : Nat}

/-- The token is not settled. -/
def Token.Unsettled (token : Token) : Prop :=
  token.state = .pending ∨ token.state = .writing

/-- A move without a new winner keeps the count. -/
theorem Slot.Counted.kept (counted : slot.Counted)
    (wins : ∀ index call, Wins next.calls index call →
      Wins slot.calls index call)
    (members : ∀ call ∈ next.calls, call.generation ∈ slot.issued)
    (issued : next.issued = slot.issued)
    (deferrals : next.deferrals = slot.deferrals)
    (generation : next.token.generation = slot.token.generation)
    (unsettled : next.token.Unsettled → slot.token.Unsettled) :
    next.Counted := by
  constructor
  case generation =>
    rw [generation, deferrals]
    exact counted.generation
  case issued =>
    rw [issued]
    exact counted.issued
  case calls =>
    rw [issued]
    exact members
  case won =>
    intro index call won here
    have closed := counted.won index call (wins index call won)
      (here.trans generation)
    constructor
    · intro pending
      exact (unsettled (.inl pending)).elim closed.1 closed.2
    · intro writing
      exact (unsettled (.inr writing)).elim closed.1 closed.2
  case once =>
    exact fun first second one other won also =>
      counted.once first second one other (wins first one won)
        (wins second other also)

theorem wins_of_set {calls : List (Call Response)} {changed : Call Response}
    (found : calls[index]? = some call) (loses : changed.phase ≠ .returned .ok)
    (position : Nat)
    (other : Call Response)
    (won : Wins (calls.set index changed) position other) :
    Wins calls position other := by
  rcases (wins_set_iff found changed position other).mp won with
    ⟨-, -, won⟩ | ⟨-, won⟩
  · exact absurd won loses
  · exact won

/-- A verdict keeps the count. -/
theorem Slot.Counted.settled (counted : slot.Counted) (sound : slot.Sound)
    {state : DeferredState}
    {status : Status} (found : slot.calls[index]? = some call)
    (verdict : Verdict call state status) :
    Counted
      ({ slot with token := ⟨call.generation, state⟩ }.setCall index
        { call with phase := .returned status }) := by
  have token := sound.held index call ⟨found, verdict.holds⟩
  have generation : slot.token.generation = call.generation := by
    rw [token]
  -- While the call was writing nobody had won its generation.
  have nobody : ∀ position other, Wins slot.calls position other →
      other.generation ≠ call.generation := by
    intro position other won same
    refine (counted.won position other won (same.trans generation.symm)).2 ?_
    rw [token]
  have wins := wins_set_iff found { call with phase := .returned status }
  constructor
  case generation => exact generation ▸ counted.generation
  case issued => exact counted.issued
  case calls => exact generation_mem_set found counted.calls _ rfl
  case won =>
    intro position other won same
    rcases (wins position other).mp won with ⟨-, rfl, phase⟩ | ⟨-, old⟩
    · cases verdict with
      | ready | canceled => exact ⟨nofun, nofun⟩
      | @restored refusal =>
        exact absurd (Phase.returned.inj phase) refusal.property
    · exact absurd same (nobody position other old)
  case once =>
    intro first second one other won also same
    rcases (wins first one).mp won with ⟨here, rfl, -⟩ | ⟨-, old⟩
    · rcases (wins second other).mp also with ⟨there, rfl, -⟩ | ⟨-, old⟩
      · rw [here, there]
      · exact absurd same.symm (nobody second other old)
    · rcases (wins second other).mp also with ⟨-, rfl, -⟩ | ⟨-, older⟩
      · exact absurd same (nobody first one old)
      · exact counted.once first second one other old older same

/-- A new generation keeps the count while they are few. -/
theorem Slot.Counted.begun (counted : slot.Counted)
    (before : slot.owner = .deferLoaded slot.token)
    (more : slot.issued.length + 1 < 2 ^ 32) :
    Counted { slot with
      token := ⟨nextGeneration slot.token.generation, .writing⟩
      owner := .deferring (nextGeneration slot.token.generation) } := by
  have current : slot.token.generation.toNat = slot.issued.length := by
    rw [counted.generation, deferrals, before]
  have following : (nextGeneration slot.token.generation).toNat =
      slot.issued.length + 1 := by
    rw [toNat_nextGeneration (by rw [current]; exact more), current]
  constructor
  case generation => exact following
  case issued => exact counted.issued
  case calls => exact counted.calls
  case won =>
    intro index call won same
    have earlier := counted.issued call.generation
      (counted.calls call (List.mem_of_getElem? won.1))
    rw [show call.generation = nextGeneration slot.token.generation from same,
      following] at earlier
    exact absurd earlier (Nat.not_succ_le_self _)
  case once => exact counted.once

/-- A deferral which is published keeps the count. -/
theorem Slot.Counted.published (counted : slot.Counted) (sound : slot.Sound)
    {generation : UInt32}
    {closed : Bool} (before : slot.owner = .deferring generation) :
    Counted { slot with
      builder := .empty
      closed := closed
      token := ⟨generation, .pending⟩
      owner := .resting
      issued := slot.issued ++ [generation] } := by
  have informed := sound.informed
  rw [before] at informed
  have token := informed.1
  have current : generation.toNat = slot.issued.length + 1 := by
    have count := counted.generation
    rwa [token, deferrals, before] at count
  constructor
  case generation =>
    rw [deferrals, List.length_append]
    exact current
  case issued =>
    rw [List.length_append]
    exact List.forall_mem_append.mpr
      ⟨fun other old => Nat.le_succ_of_le (counted.issued other old),
        List.forall_mem_singleton.mpr current.le⟩
  case calls =>
    exact fun call member =>
      List.mem_append_left _ (counted.calls call member)
  case won =>
    intro index call won same
    have writing := (counted.won index call won (same.trans ?_)).2
    · exact absurd (by rw [token]) writing
    · rw [token]
  case once => exact counted.once

/-- The moves keep the count of generations. -/
theorem Move.counted (move : Move slot next) (sound : slot.Sound)
    (counted : slot.Counted)
    (bound : next.deferrals < 2 ^ 32) : next.Counted := by
  cases move with
  | @entered call phase issued =>
    exact counted.kept (fun index other =>
        (append_and_iff (·.phase = .returned .ok)
          (by rw [phase]; nofun) index other).mp)
      (List.forall_mem_append.mpr
        ⟨counted.calls, List.forall_mem_singleton.mpr issued⟩)
      rfl rfl rfl id
  | @failed index call status found phase error =>
    exact counted.kept
      (wins_of_set found fun same => error (Phase.returned.inj same))
      (generation_mem_set found counted.calls _ rfl) rfl rfl rfl id
  | @claimed index call found phase token =>
    refine counted.kept (wins_of_set found nofun)
      (generation_mem_set found counted.calls _ rfl) rfl rfl ?_ ?_
    · rw [token]
      rfl
    · exact fun _ => .inl (by rw [token])
  | @worked index call phase builder holds still composed =>
    refine counted.kept (wins_of_set holds.1 ?_)
      (generation_mem_set holds.1 counted.calls _ rfl) rfl rfl rfl id
    rintro rfl
    cases still
  | settled found verdict => exact counted.settled sound found verdict
  | rested before after free =>
    refine counted.kept (fun _ _ => id) counted.calls rfl ?_ rfl id
    rw [deferrals_of_not before, deferrals_of_not free]
  | ticked => exact counted.kept (fun _ _ => id) counted.calls rfl rfl rfl id
  | begun before idle => exact counted.begun before bound
  | published before => exact counted.published sound before
  | dropped before free lower after =>
    refine counted.kept (fun _ _ => id) counted.calls rfl ?_ rfl ?_
    · rw [deferrals_of_not before]
      rcases after with rfl | rfl <;> rfl
    · intro unsettled
      rcases lower with rfl | ⟨rfl, -⟩
      · rcases unsettled with other | other <;> cases other
      · rcases unsettled with other | other <;> cases other
  | cleared before idle =>
    refine counted.kept (fun _ _ => id) counted.calls rfl ?_ rfl id
    rw [deferrals]
    rcases before with resting | resetting
    · rw [deferrals, resting]
    · rw [deferrals, resetting]
  | taken before ready | handed before ready =>
    refine counted.kept (fun _ _ => id) counted.calls rfl ?_ rfl ?_
    · rw [deferrals_of_not before]
      rfl
    · intro unsettled
      rcases unsettled with other | other <;> cases other
  | submitted before =>
    refine counted.kept (fun _ _ => id) counted.calls rfl ?_ rfl id
    rw [deferrals, deferrals, before]

theorem Move.deferrals_le (move : Move slot next) :
    slot.deferrals ≤ next.deferrals := by
  cases move with
  | rested before after free =>
    rw [deferrals_of_not before, deferrals_of_not free]
  | begun before idle =>
    rw [deferrals, before]
    exact Nat.le_succ _
  | published before =>
    rw [deferrals, before, deferrals, List.length_append]
    exact Nat.le_refl _
  | dropped before free lower after =>
    rw [deferrals_of_not before]
    rcases after with rfl | rfl <;> exact Nat.le_refl _
  | cleared before idle =>
    rcases before with owner | owner
    all_goals
      rw [deferrals, owner]
      exact Nat.le_refl _
  | taken before ready | handed before ready =>
    rw [deferrals_of_not before]
    exact Nat.le_refl _
  | submitted before =>
    rw [deferrals, before]
    exact Nat.le_refl _
  | _ => exact Nat.le_refl _

/-- Winners are counted in every slot which is reached. -/
theorem Reached.counted {wire : Wire} (reached : Reachable wire slot)
    (bound : slot.deferrals < 2 ^ 32) : slot.Counted := by
  induction reached with
  | init =>
    constructor
    case generation => rfl
    case issued => rintro _ ⟨⟩
    case calls => rintro _ ⟨⟩
    case won => exact fun _ _ won => by cases won.1
    case once => exact fun _ _ _ _ won => by cases won.1
  | step reached _ acts induction =>
    have move := act_move reached.sound acts
    exact move.counted reached.sound
      (induction (Nat.lt_of_le_of_lt move.deferrals_le bound)) bound

/-! ## One winner -/

/-- The call which acts. -/
def Action.caller : Action Response → Option Nat
  | .claim index => some index
  | .draft index => some index
  | .compose index => some index
  | .settle index => some index
  | _ => none

/-- The generation has come to its end: it was completed, canceled or dropped,
or a later one has begun. -/
def Slot.Settled (slot : Slot Response) (generation : UInt32) : Prop :=
  generation.toNat < slot.token.generation.toNat ∨
    slot.token.generation = generation ∧ ¬ slot.token.Unsettled

/-- What holds of a slot and of every action on it. -/
structure Slot.OneWinner (slot : Slot Response) : Prop where
  /-- At most one call on a generation returns `SALTS_OK`. -/
  once : ∀ first second call other, Wins slot.calls first call →
    Wins slot.calls second other → call.generation = other.generation →
      first = second
  /-- What was sent for a generation is the response of the reply which
  returned `SALTS_OK`. -/
  exact : ∀ index call response contents, Wins slot.calls index call →
    call.operation.composed = some (.ok response) →
      (call.generation, contents) ∈ slot.sent → contents = .complete response
  /-- A call changes the token or the builder only if its generation is
  pending or it has claimed it. -/
  stale : ∀ action index call next, action.caller = some index →
    slot.calls[index]? = some call → slot.act action = some next →
      (next.token = slot.token ∧ next.builder = slot.builder) ∨
        slot.token = ⟨call.generation, .pending⟩ ∨
          Holds slot.calls index call ∧ slot.token = ⟨call.generation, .writing⟩
  /-- A reply which returns an error leaves the token pending, unless its
  generation has come to its end or another call is writing. -/
  error : ∀ action index call next status, slot.act action = some next →
    slot.calls[index]? = some call → call.operation.composed.isSome = true →
      call.phase ≠ .returned status →
      next.calls[index]? = some { call with phase := .returned status } →
      status ≠ .ok → next.token = ⟨call.generation, .pending⟩ ∨
          (next.token = slot.token ∧ next.builder = slot.builder ∧
            (slot.Settled call.generation ∨ ∃ position other, position ≠ index ∧
                Holds slot.calls position other ∧
                  other.generation = call.generation))

/-- A call touches token and builder only while its generation is open for
it. -/
theorem Slot.Sound.stale (sound : slot.Sound) {action : Action Response}
    (caller : action.caller = some index)
    (found : slot.calls[index]? = some call)
    (acts : slot.act action = some next) :
    (next.token = slot.token ∧ next.builder = slot.builder) ∨
      slot.token = ⟨call.generation, .pending⟩ ∨
        Holds slot.calls index call ∧
          slot.token = ⟨call.generation, .writing⟩ := by
  have held : call.phase.holds = true → Holds slot.calls index call ∧
        slot.token = ⟨call.generation, .writing⟩ :=
    fun holds => ⟨⟨found, holds⟩, sound.held index call ⟨found, holds⟩⟩
  cases action with
  | claim position =>
    cases caller
    by_cases pending : slot.token = ⟨call.generation, .pending⟩
    · exact .inr (.inl pending)
    refine .inl ?_
    obtain ⟨status, -, other⟩ := Token.claim_other pending
    rw [act, claim, found] at acts
    simp only [other] at acts
    split at acts
    · cases acts
    split at acts
    · cases acts
      exact ⟨rfl, rfl⟩
    split at acts
    · rename_i token same
      cases same
      cases acts
      exact ⟨rfl, rfl⟩
    · cases acts
      exact ⟨rfl, rfl⟩
  | draft position =>
    cases caller
    refine .inr (.inr (held ?_))
    rw [act, draft, found] at acts
    simp only at acts
    split at acts
    · rename_i claimed
      rw [claimed.1]
      rfl
    · cases acts
  | compose position =>
    cases caller
    refine .inr (.inr (held ?_))
    rw [act, compose, found] at acts
    simp only at acts
    split at acts
    · rename_i drafting
      rw [drafting]
      rfl
    · cases acts
  | settle position =>
    cases caller
    refine .inr (.inr (held ?_))
    rw [act, settle, found] at acts
    simp only at acts
    split at acts
    case h_4 => cases acts
    all_goals
      rename_i phase _
      rw [phase]
      rfl
  | _ => cases caller

theorem Slot.Counted.settled_or_held (counted : slot.Counted)
    (sound : slot.Sound)
    (member : call ∈ slot.calls)
    (other : slot.token ≠ ⟨call.generation, .pending⟩) :
    slot.Settled call.generation ∨ ∃ index holder,
      Holds slot.calls index holder ∧
        holder.generation = call.generation := by
  have issued := counted.issued _ (counted.calls call member)
  have current := counted.generation
  by_cases same : slot.token.generation = call.generation
  · by_cases writing : slot.token.state = .writing
    · refine .inr ?_
      rcases sound.writing writing with ⟨index, holder, holds⟩ | defers
      · refine ⟨index, holder, holds, ?_⟩
        rw [← same, sound.held index holder holds]
      obtain ⟨generation, owner⟩ := defers
      have count : slot.deferrals = slot.issued.length + 1 := by
        rw [deferrals, owner]
      rw [same, count] at current
      omega
    refine .inl (.inr ⟨same, ?_⟩)
    rintro (pending | writes)
    · refine other ?_
      rw [← same, ← pending]
    · exact writing writes
  refine .inl (.inl ?_)
  have different := mt UInt32.toNat_inj.mp same
  have grown : slot.issued.length ≤ slot.deferrals := by
    rw [deferrals]
    split <;> omega
  omega

/-- How a reply returns an error. -/
theorem Slot.Counted.error (counted : slot.Counted) (sound : slot.Sound)
    (move : Move slot next)
    {status : Status} (found : slot.calls[index]? = some call)
    (going : call.phase ≠ .returned status)
    (returned : next.calls[index]? =
      some { call with phase := .returned status })
    (error : status ≠ .ok) :
    next.token = ⟨call.generation, .pending⟩ ∨
      (next.token = slot.token ∧ next.builder = slot.builder ∧
        (slot.Settled call.generation ∨ ∃ position other, position ≠ index ∧
            Holds slot.calls position other ∧
              other.generation = call.generation)) := by
  -- A move which leaves the call alone does not let it return.
  have moves : next.calls[index]? ≠ slot.calls[index]? := by
    intro same
    rw [returned, found] at same
    exact going (congrArg Call.phase (Option.some.inj same)).symm
  -- The only call which changes is this one.
  have here : ∀ {position : Nat} {other changed : Call Response},
      slot.calls[position]? = some other →
      next.calls = slot.calls.set position changed →
        other = call ∧ changed = { call with phase := .returned status } := by
    intro position other changed there calls
    by_cases same : position = index
    · subst same
      rw [calls, List.getElem?_set_self
        (List.getElem?_eq_some_iff.mp there).1] at returned
      exact ⟨Option.some.inj (there.symm.trans found), Option.some.inj returned⟩
    · refine absurd ?_ moves
      rw [calls, List.getElem?_set_ne same]
  cases move with
  | entered phase =>
    refine absurd ?_ moves
    exact List.getElem?_append_left (List.getElem?_eq_some_iff.mp found).1
  | @failed position other reason there phase =>
    obtain ⟨rfl, -⟩ := here there rfl
    by_cases pending : slot.token = ⟨other.generation, .pending⟩
    · exact .inl pending
    refine .inr ⟨rfl, rfl, ?_⟩
    refine (counted.settled_or_held sound
      (List.mem_of_getElem? found) pending).imp_right ?_
    rintro ⟨holding, holder, holds, same⟩
    refine ⟨holding, holder, ?_, holds, same⟩
    rintro rfl
    rw [Holds, found] at holds
    cases holds.1
    rw [phase] at holds
    cases holds.2
  | claimed there phase token =>
    cases congrArg Call.phase (here there rfl).2
  | @worked position other phase builder holds still =>
    have same : phase = .returned status :=
      congrArg Call.phase (here holds.1 rfl).2
    rw [same] at still
    cases still
  | settled there verdict =>
    obtain ⟨rfl, changed⟩ := here there rfl
    have same := Phase.returned.inj (congrArg Call.phase changed)
    cases verdict with
    | ready | canceled => exact absurd same.symm error
    | restored => exact .inl rfl
  | _ => exact absurd rfl moves

/-- Deferred responses have one winner, over every interleaving. -/
theorem deferred_one_winner {wire : Wire} {slot : Slot Response}
    (reached : Reachable wire slot)
    (bound : slot.deferrals < 2 ^ 32) : slot.OneWinner := by
  have sound := reached.sound
  have counted := reached.counted bound
  constructor
  case once => exact counted.once
  case exact =>
    intro index call response contents won composed sent
    obtain ⟨position, other, composed', there, same, returned, wrote, rfl⟩ :=
      sound.sent _ sent
    have place := counted.once index position call other won
      ⟨there, returned⟩ same.symm
    subst place
    cases won.1.symm.trans there
    rw [wrote] at composed
    cases composed
    rfl
  case stale =>
    exact fun action index call next caller found acts =>
      sound.stale caller found acts
  case error =>
    exact fun action index call next status acts found _ going returned error =>
      counted.error sound (act_move sound acts) found going returned error

/-- A handler defers; one reply claims the generation and another one comes
while the first is writing. -/
def raceActions : List (Action Unit) :=
  [.deferLoad, .deferSwap, .deferPublish, .enter 1 true (.reply (.ok ())),
    .enter 1 true (.reply (.ok ())), .claim 0]

/-- The slot behind these actions. -/
def raceSlot : Slot Unit :=
  ((Slot.init Unit .http1).run raceActions).getD (Slot.init Unit .http1)

theorem raceSlot_reachable : Reachable .http1 raceSlot :=
  Reached.run .init raceActions (fun _ _ _ => trivial) rfl

/-- The second reply returns an error and the token is not pending, although the
generation has not come to its end. -/
theorem reply_error_while_writing : ∃ (next : Slot Unit) (call : Call Unit),
    Reachable .http1 raceSlot ∧ raceSlot.deferrals < 2 ^ 32 ∧
    raceSlot.act (.claim 1) = some next ∧
    raceSlot.calls[1]? = some call ∧ call.phase = .entered ∧
    call.operation.composed.isSome = true ∧
    next.calls[1]? = some { call with phase := .returned .ealready } ∧
    next.token ≠ ⟨call.generation, .pending⟩ ∧
    ¬ next.Settled call.generation := by
  refine ⟨_, _, raceSlot_reachable, ?_, rfl, rfl, rfl, rfl, rfl, ?_, ?_⟩
  · decide
  · decide
  · rintro (earlier | ⟨-, settled⟩)
    · exact absurd earlier (by decide)
    · exact settled (.inr rfl)

/-- The second reply fails; the first one is composed, published and sent. -/
def finishActions : List (Action Unit) :=
  [.claim 1, .draft 0, .compose 0, .settle 0, .progressLoad,
    .progress ⟨true, false, true⟩]

/-- The slot behind the whole race. -/
def wonSlot : Slot Unit := (raceSlot.run finishActions).getD raceSlot

/-- The first reply wins and its response is what is sent. -/
theorem deferred_one_winner_race :
    wonSlot.calls.map Call.phase = [.returned .ok, .returned .ealready] ∧
      wonSlot.sent = [(1, .complete ())] ∧ wonSlot.OneWinner :=
  ⟨rfl, rfl, deferred_one_winner
    (Reached.run raceSlot_reachable finishActions (fun _ _ _ => trivial) rfl)
    (by decide)⟩

/-! ## One writer -/

/-- The owner leaves a builder alone which a call has claimed. -/
theorem Slot.Sound.owner_keeps (sound : slot.Sound) {index : Nat}
    {call : Call Response}
    (holds : Holds slot.calls index call) {action : Action Response}
    (owner : action.caller = none) (acts : slot.act action = some next) :
    next.token = slot.token ∧ next.builder = slot.builder := by
  have writing := sound.held index call holds
  have informed := sound.informed
  cases action with
  | claim _ | draft _ | compose _ | settle _ => cases owner
  | enter _ _ _ => grind [act, enter]
  | deferSwap => grind [act, deferSwap, Informed]
  | deferPublish => grind [act, deferPublish, Informed]
  -- a token which is written is not the one which these have loaded
  | deadlineSwap => grind [act, deadlineSwap, Token.exchange_eq]
  | closeSwap _ => grind [act, closeSwap, Token.exchange_eq]
  | progress _ =>
    grind [act, progress, progressHttp1, progressHttp2, Token.exchange_eq,
      Informed]
  -- and these look for an idle slot, or change neither
  | _ =>
    grind [act, arm, deferLoad, deadlineLoad, disconnect, closeLoad, closeReset,
      progressLoad,
      submit, Informed]

/-- Over every interleaving, with any number of deferrals: a slot is written by
its owner or by one call, and as long as a call has the token, nobody else
changes the token or the builder. -/
theorem deferred_builder_exclusive {wire : Wire}
    (reached : Reachable wire slot) :
    (slot.token.state = .writing →
        slot.owner.Defers ∨ ∃! index, ∃ call, Holds slot.calls index call) ∧
      ∀ index call, Holds slot.calls index call →
        slot.token = ⟨call.generation, .writing⟩ ∧
        ∀ action next, slot.act action = some next →
          action.caller ≠ some index →
          next.token = slot.token ∧ next.builder = slot.builder := by
  have sound := reached.sound
  refine ⟨fun writing => ?_, fun index call holds => ?_⟩
  · rcases sound.writing writing with ⟨index, call, holds⟩ | defers
    · exact .inr ⟨index, ⟨call, holds⟩, fun other ⟨call', holds'⟩ =>
        sound.alone other index call' call holds' holds⟩
    · exact .inl defers
  have writing := sound.held index call holds
  refine ⟨writing, fun action next acts foreign => ?_⟩
  cases caller : action.caller with
  | none => exact sound.owner_keeps holds caller acts
  | some other =>
    cases found : slot.calls[other]? with
    | none =>
      cases action <;> cases caller <;> simp [act, claim, draft, compose,
        settle, found] at acts
    | some call' =>
      rcases sound.stale caller found acts with same | pending | ⟨holds', -⟩
      · exact same
      · cases congrArg Token.state (pending.symm.trans writing)
      · cases sound.alone other index call' call holds' holds
        exact absurd caller foreign

/-- While the first reply of the race is writing, it is the only one which
holds. -/
theorem deferred_builder_exclusive_race : raceSlot.token.state = .writing ∧
    ∃! index, ∃ call, Holds raceSlot.calls index call :=
  ⟨rfl, ((deferred_builder_exclusive raceSlot_reachable).1 rfl).resolve_left
    nofun⟩

end Chttp.Server
