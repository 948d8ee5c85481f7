import Chttp.Lib.Snapshot
import Chttp.Server.Session.Isolation

/-!
# Requests which share a session

Several requests present the same identifier.  Each begins, edits its snapshot
and finishes, in any interleaving.  They are clients which work on snapshots of
a shared table: what a request has written stays, unless another request which
began earlier finishes later.
-/

namespace Chttp.Server

open Lib
open SessionWorld (constantId constantSource)
open SessionStore

/-! ## Entries as a table -/

namespace SessionEntries

/-- The value of a key. -/
def value (entries : SessionEntries) (key : CString) : Option CString :=
  (entries.get key).map SessionEntry.value

variable {entries entries' : SessionEntries} {key : CString}

theorem get_set_other {slot : Option SessionEntry}
    (other : holdsKey key slot = false) :
    ∀ {index : Nat} {old : Option SessionEntry},
      entries[index]? = some old → holdsKey key old = false →
        get (entries.set index slot) key = entries.get key := by
  induction entries with
  | nil => rintro _ _ ⟨⟩
  | cons first entries ih =>
    intro index old present unheld
    cases index with
    | zero =>
      cases present
      simp only [get, List.set_cons_zero, List.find?_cons, other, unheld]
    | succ index =>
      have rest := ih present unheld
      simp only [get] at rest
      simp only [get, List.set_cons_succ, List.find?_cons]
      split
      · rfl
      · exact rest

theorem get_set_first {slot : Option SessionEntry}
    (holds : holdsKey key slot = true) :
    ∀ {index : Nat}, index < entries.length →
      (∀ before < index, ∀ old, entries[before]? = some old →
        holdsKey key old = false) →
        get (entries.set index slot) key = slot := by
  induction entries with
  | nil => exact fun impossible => absurd impossible (Nat.not_lt_zero _)
  | cons first entries ih =>
    intro index bound earlier
    cases index with
    | zero =>
      simp only [get, List.set_cons_zero, List.find?_cons, holds]
      rfl
    | succ index =>
      have unheld := earlier 0 (Nat.succ_pos _) first rfl
      have rest :=
        ih (Nat.lt_of_succ_lt_succ bound) fun before less old there =>
          earlier (before + 1) (Nat.succ_lt_succ less) old there
      simp only [get] at rest
      simp only [get, List.set_cons_succ, List.find?_cons, unheld]
      exact rest

theorem holdsKey_some (entry : SessionEntry) (key : CString) :
    holdsKey key (some entry) = decide (entry.key = key) :=
  rfl

theorem holdsKey_of_ne {slot : Option SessionEntry}
    (holds : holdsKey key slot = true)
    {other : CString} (distinct : other ≠ key) :
    holdsKey other slot = false := by
  cases slot with
  | none => rfl
  | some old =>
    rw [holdsKey_some, decide_eq_true_eq] at holds
    rw [holdsKey_some, holds]
    exact decide_eq_false (Ne.symm distinct)

theorem put_cases {entry : SessionEntry}
    (put : entries.put entry = some entries') :
    ∃ index old, entries' = entries.set index (some entry) ∧
      entries[index]? = some old ∧
      (∀ key, key ≠ entry.key → holdsKey key old = false) ∧
      ∀ before < index, ∀ other, entries[before]? = some other →
        holdsKey entry.key other = false := by
  unfold SessionEntries.put at put
  split at put
  case h_1 index found =>
    cases put
    obtain ⟨bound, holds, earlier⟩ := List.findIdx?_eq_some_iff_getElem.mp found
    refine ⟨index, entries[index], rfl, List.getElem?_eq_getElem bound,
      fun key => holdsKey_of_ne holds, ?_⟩
    intro before less other there
    obtain ⟨_, rfl⟩ := List.getElem?_eq_some_iff.mp there
    exact Bool.eq_false_iff.mpr (earlier before less)
  case h_2 missing =>
    split at put
    case h_1 index found =>
      cases put
      obtain ⟨bound, free, -⟩ := List.findIdx?_eq_some_iff_getElem.mp found
      refine ⟨index, entries[index], rfl, List.getElem?_eq_getElem bound, ?_,
        ?_⟩
      · intro key _
        rw [Option.isNone_iff_eq_none.mp free]
        rfl
      intro before _ other there
      exact List.findIdx?_eq_none_iff.mp missing other
        (List.mem_of_getElem? there)
    case h_2 => cases put

theorem value_put {entry : SessionEntry}
    (put : entries.put entry = some entries') :
    entries'.value = Function.update entries.value entry.key
      (some entry.value) := by
  obtain ⟨index, old, rfl, present, others, earlier⟩ := put_cases put
  obtain ⟨bound, -⟩ := List.getElem?_eq_some_iff.mp present
  funext key
  by_cases same : key = entry.key
  · subst same
    have holds : holdsKey entry.key (some entry) = true := by
      rw [holdsKey_some]
      exact decide_eq_true rfl
    rw [Function.update_self, value, get_set_first holds bound earlier]
    rfl
  have unheld : holdsKey key (some entry) = false := by
    rw [holdsKey_some]
    exact decide_eq_false (Ne.symm same)
  rw [Function.update_of_ne same, value,
    get_set_other unheld present (others key same)]
  rfl

theorem value_drop (drop : entries.drop key = some entries') :
    entries'.value = Function.update entries.value key
      (entries'.value key) := by
  unfold SessionEntries.drop at drop
  split at drop
  case h_2 => cases drop
  case h_1 index found =>
    cases drop
    obtain ⟨bound, holds, -⟩ := List.findIdx?_eq_some_iff_getElem.mp found
    funext other
    by_cases same : other = key
    · subst same
      rw [Function.update_self]
    rw [Function.update_of_ne same, value,
      get_set_other rfl (List.getElem?_eq_getElem bound)
        (holdsKey_of_ne holds same)]
    rfl

end SessionEntries

/-! ## The shared session -/

/-- How far a request has come. -/
inductive SharedPhase where
  | idle
  | open
  | committed
  | done
  deriving DecidableEq, Repr

/-- The requests, and how far they have come. -/
structure SharedState where
  phases : Nat → SharedPhase
  world : SessionWorld

/-- A call of a request, and what it returned. -/
structure SharedEvent where
  number : Nat
  call : SessionCall
  status : Status

namespace SharedEvent

/-- The call has changed the snapshot. -/
def Edits (event : SharedEvent) : Prop := event.status = .ok ∧
    ((∃ key value nowMs random, event.call = .set key value nowMs random) ∨
      ∃ key, event.call = .remove key)

/-- The call names a key. -/
def Touches (event : SharedEvent) (key : CString) : Prop :=
  (∃ value nowMs random, event.call = .set key value nowMs random) ∨
    event.call = .remove key

/-- The call has changed the entry of a key. -/
def Changes (event : SharedEvent) (key : CString) : Prop :=
  event.Edits ∧ event.Touches key

end SharedEvent

namespace SharedState

/-- A request begins with the identifier before the session has expired, sets
and removes entries, and finishes. -/
def Admits (id : Bytes) (index : Nat) (state : SharedState) (number : Nat) :
    SessionCall → Prop
  | .begin cookie nowMs =>
    cookie = some id ∧ state.phases number = .idle ∧
      ∀ record, state.world.store.records[index]? = some record →
        nowMs < record.expiresAtMs
  | .set _ _ _ _ => state.phases number = .open
  | .remove _ => state.phases number = .open
  | .commit _ => state.phases number = .open
  | .publish status => state.phases number = .committed ∧ status = .ok
  | .clear => False
  | .regenerate _ _ => False
  | .invalidate => False
  | .abort => False

/-- The phase after a call. -/
def phaseAfter (phase : SharedPhase) : SessionCall → SharedPhase
  | .begin _ _ => .open
  | .commit _ => .committed
  | .publish _ => .done
  | _ => phase

/-- A request makes a call. -/
def perform (state : SharedState) (number : Nat) (call : SessionCall) :
    SharedState where
  phases := Function.update state.phases number
    (phaseAfter (state.phases number) call)
  world := state.world.perform number call

/-- What the call returns. -/
def status (state : SharedState) (number : Nat) (call : SessionCall) : Status :=
  ((state.world.requests number).perform state.world.store call).1

/-- An interleaving of requests on one session. -/
inductive Run (id : Bytes) (index : Nat) :
    SharedState → List SharedEvent → SharedState → Prop
  | nil {state : SharedState} : Run id index state [] state
  | cons {state final : SharedState} {number : Nat} {call : SessionCall}
      {events : List SharedEvent}
      (admitted : state.Admits id index number call)
      (run : Run id index (state.perform number call) events final) :
      Run id index state (⟨number, call, state.status number call⟩ :: events)
        final

/-- The session is there, and the requests which have begun are bound to
it. -/
structure Shares (id : Bytes) (index : Nat) (generation : UInt32)
    (state : SharedState) : Prop where
  found : ∃ record, state.world.store.find id = some (index, record) ∧
    record.generation = generation
  bound : ∀ number, state.phases number ≠ .idle →
    (state.world.requests number).context.record = some index ∧
      (state.world.requests number).context.recordGeneration = generation ∧
      (state.world.requests number).context.id = id ∧
      (state.world.requests number).context.invalidated = false
  publishing : ∀ number, state.phases number = .committed →
    ∃ own, (state.world.requests number).publishing = some (.identifier own)

/-- The session as a shared table. -/
def view (index : Nat) (state : SharedState) :
    Snapshots Nat CString CString where
  shared key := state.world.store.records[index]?.bind fun record =>
      record.entries.value key
  own number := (state.world.requests number).context.snapshot.value
  dirty number := state.phases number = .open &&
    (state.world.requests number).context.dirty
  active number := state.phases number = .open

end SharedState

namespace SessionStore

variable {store : SessionStore} {id : Bytes} {index : Nat}
  {record : SessionRecord}

theorem find_iff :
    store.find id = some (index, record) ↔
      store.records[index]? = some record ∧ record.used = true ∧
        record.id = id ∧
        ∀ before < index, ∀ other, store.records[before]? = some other →
          other.used = true → other.id ≠ id := by
  constructor
  · intro found
    obtain ⟨present, used, same⟩ := find_spec found
    refine ⟨present, used, same, ?_⟩
    unfold find at found
    split at found
    case h_1 => cases found
    case h_2 place located =>
      obtain ⟨bound, _, earlier⟩ := List.findIdx?_eq_some_iff_getElem.mp located
      rw [List.getElem?_eq_getElem bound] at found
      cases found
      intro before less other there used' same'
      obtain ⟨_, rfl⟩ := List.getElem?_eq_some_iff.mp there
      exact earlier before less (by simp [used', same'])
  rintro ⟨present, used, same, earlier⟩
  obtain ⟨bound, equal⟩ := List.getElem?_eq_some_iff.mp present
  have located : store.records.findIdx?
      (fun record => record.used && record.id == id) = some index := by
    refine List.findIdx?_eq_some_iff_getElem.mpr ⟨bound, ?_, ?_⟩
    · rw [equal]
      simp [used, same]
    · intro before less holds
      have smaller : before < store.records.length := less.trans bound
      simp only [Bool.and_eq_true, beq_iff_eq] at holds
      exact earlier before less _
        (List.getElem?_eq_getElem smaller) holds.1 holds.2
  rw [find, located]
  dsimp only
  rw [present]

theorem find_expire {nowMs : UInt64}
    (found : store.find id = some (index, record))
    (unexpired : nowMs < record.expiresAtMs) :
    (store.expire nowMs).find id = some (index, record) := by
  obtain ⟨present, used, same, earlier⟩ := find_iff.mp found
  refine find_iff.mpr ⟨?_, used, same, ?_⟩
  · obtain ⟨record', there, rfl | ⟨-, -, expired⟩⟩ :=
      @expire_of _ _ _ nowMs present
    · exact there
    · exact absurd unexpired (UInt64.not_lt.mpr expired)
  · intro before less other there used'
    obtain ⟨old, there', rfl | ⟨rfl, -⟩⟩ := of_expire there
    · exact earlier before less _ there' used'
    · cases used'

theorem find_put {record' : SessionRecord}
    (found : store.find id = some (index, record))
    (used : record'.used = true) (same : record'.id = id) :
    (store.put index record').find id = some (index, record') := by
  obtain ⟨present, -, -, earlier⟩ := find_iff.mp found
  refine find_iff.mpr ⟨put_self present, used, same, ?_⟩
  intro before less other there
  rw [put_other (Nat.ne_of_gt less)] at there
  exact earlier before less other there

end SessionStore

/-- A call as an action on the table. -/
inductive SharedEvent.Acts :
    SharedEvent → SnapshotAction CString CString → Prop
  | begin {number : Nat} {cookie : Option Bytes} {nowMs : UInt64}
      {status : Status} : Acts ⟨number, .begin cookie nowMs, status⟩ .begin
  | set {number : Nat} {key value : CString} {nowMs : UInt64}
      {random : RandomSource} :
      Acts ⟨number, .set key value nowMs random, .ok⟩ (.write key (some value))
  | remove {number : Nat} {key : CString} {value : Option CString} :
      Acts ⟨number, .remove key, .ok⟩ (.write key value)
  | failed {event : SharedEvent} (failed : event.status ≠ .ok) :
      Acts event .rest
  | commit {number : Nat} {nowMs : UInt64} {status : Status} :
      Acts ⟨number, .commit nowMs, status⟩ .commit
  | publish {number : Nat} {status status' : Status} :
      Acts ⟨number, .publish status, status'⟩ .rest

namespace SharedState

variable {id : Bytes} {index : Nat} {generation : UInt32} {state : SharedState}

variable {call : SessionCall} {status : Status} {request : SessionRequest}
  {number : Nat}
  {key : CString} {value : Option CString} {events : List SharedEvent}
    {final : SharedState}
  {record : SessionRecord}

section

variable {store : SessionStore} (outcome :
  (state.world.requests number).perform state.world.store call =
    (status, store, request))

include outcome

theorem world_perform : (state.perform number call).world =
    { store,
      requests := Function.update state.world.requests number request } := by
  rw [SharedState.perform, SessionWorld.perform, outcome]

/-- What a call makes of the table, in terms of the store and the context
afterwards. -/
theorem view_perform (index : Nat) :
    (state.perform number call).view index =
      { shared := fun key =>
          store.records[index]?.bind fun record => record.entries.value key
        own := Function.update
          (state.view index).own number request.context.snapshot.value
        dirty := Function.update (state.view index).dirty number
          (phaseAfter (state.phases number) call = .open &&
            request.context.dirty)
        active := Function.update (state.view index).active number
          (phaseAfter (state.phases number) call = .open) } := by
  rw [view, world_perform outcome]
  refine Snapshots.ext rfl ?_ ?_ ?_
  all_goals
    funext other
    simp only [SharedState.perform, view, Function.update_apply]
    split <;> rfl

theorem Shares.of_outcome (shares : Shares id index generation state)
    (found : ∃ record, store.find id = some (index, record) ∧
      record.generation = generation)
    (bound : phaseAfter (state.phases number) call ≠ .idle →
      request.context.record = some index ∧
        request.context.recordGeneration = generation ∧
        request.context.id = id ∧ request.context.invalidated = false)
    (publishing : phaseAfter (state.phases number) call = .committed →
      ∃ own, request.publishing = some (.identifier own)) :
    Shares id index generation (state.perform number call) := by
  have phases other : (state.perform number call).phases other =
      if other = number then phaseAfter
        (state.phases number) call else state.phases other :=
    Function.update_apply ..
  refine ⟨?_, fun other begun => ?_, fun other committed => ?_⟩
  all_goals rw [world_perform outcome]
  · exact found
  · rw [phases] at begun
    simp only [Function.update_apply]
    split_ifs at begun ⊢
    · exact bound begun
    · exact shares.bound other begun
  · rw [phases] at committed
    simp only [Function.update_apply]
    split_ifs at committed ⊢
    · exact publishing committed
    · exact shares.publishing other committed

end

/-- A call of a request is an action of a client. -/
structure Simulates (id : Bytes) (index : Nat) (generation : UInt32)
    (state : SharedState) (number : Nat) (call : SessionCall) : Prop where
  shares : Shares id index generation (state.perform number call)
  acts : ∃ action, SharedEvent.Acts
    ⟨number, call, state.status number call⟩ action ∧
      (state.view index).Allows number action ∧
      (state.perform number call).view index =
        (state.view index).act number action

/-- A request which begins takes a snapshot. -/
theorem Shares.begin (shares : Shares id index generation state)
    (hex : sessionHexId id = true)
    {nowMs : UInt64}
    (admitted : state.Admits id index number (.begin (some id) nowMs)) :
    Simulates id index generation state number (.begin (some id) nowMs) := by
  obtain ⟨-, idle, unexpired⟩ := admitted
  obtain ⟨record, found, same⟩ := shares.found
  obtain ⟨present, used, id_eq, -⟩ := find_iff.mp found
  have found' := find_expire found (unexpired record present)
  have filled := List.ne_nil_of_mem (List.mem_of_getElem? present)
  obtain ⟨renewed, outcome, used', id', generation', entries⟩ : ∃ renewed :
    SessionRecord,
      (state.world.requests number).perform state.world.store
        (.begin (some id) nowMs) =
        (.ok, (state.world.store.expire nowMs).put index renewed,
          ⟨(SessionContext.reset state.world.store.config).follow index renewed,
            none⟩) ∧
      renewed.used = true ∧ renewed.id = id ∧
      renewed.generation = generation ∧ renewed.entries = record.entries := by
    refine ⟨record.renew record.entries
      ((state.world.store.expire nowMs).config.expiry nowMs), ?_, ?_⟩
    · dsimp only [SessionRequest.perform, SessionRequest.with_]
      rw [SessionStore.requestBegin, if_neg filled]
      dsimp only
      rw [if_pos hex, found']
    · generalize (state.world.store.expire nowMs).config.expiry nowMs = time
      exact ⟨used, id_eq, same, rfl⟩
  have present' := (find_iff.mp found').1
  have shared : ∀ key, (state.view index).shared key =
      record.entries.value key := by
    intro key
    simp only [view, present, Option.bind_some]
  refine ⟨Shares.of_outcome outcome shares ?_ ?_ ?_, .begin, .begin, ?_, ?_⟩
  · exact ⟨renewed, find_put found' used' id', generation'⟩
  · exact fun _ => ⟨rfl, generation', id', rfl⟩
  · rintro ⟨⟩
  · simp only [Snapshots.Allows, view, idle]
    rfl
  rw [view_perform outcome index]
  refine Snapshots.ext ?_ ?_ rfl rfl
  · funext key
    dsimp only
    rw [put_self present', Option.bind_some, entries]
    exact (shared key).symm
  · change Function.update (state.view index).own number renewed.entries.value =
      Function.update (state.view index).own number (state.view index).shared
    rw [entries, funext shared]

theorem view_edit (index : Nat) {state : SharedState}
    (active : state.phases number = .open)
    (edits : phaseAfter (state.phases number) call = .open)
    (outcome : (state.world.requests number).perform state.world.store call =
      (status, state.world.store, request)) :
    (state.perform number call).view index =
      { state.view index with
        own := Function.update (state.view index).own number
          request.context.snapshot.value
        dirty := Function.update
          (state.view index).dirty number request.context.dirty } := by
  have same : Function.update (state.view index).active number true =
      (state.view index).active := by
    rw [Function.update_eq_self_iff]
    simp only [view, active, decide_true]
  rw [view_perform outcome index, edits]
  simp only [decide_true, Bool.true_and, same]
  rfl

section

variable (shares : Shares id index generation state)
  (active : state.phases number = .open)

include shares active

theorem Shares.record_ne_none :
    (state.world.requests number).context.record ≠ none := by
  rw [(shares.bound number (by simp [active])).1]
  exact Option.some_ne_none index

/-- A call which fails is a rest. -/
theorem Shares.failed (edits : phaseAfter (state.phases number) call = .open)
    (failed : status ≠ .ok)
    (outcome : (state.world.requests number).perform state.world.store call =
      (status, state.world.store,
        ⟨(state.world.requests number).context, none⟩)) :
    Simulates id index generation state number call := by
  refine ⟨Shares.of_outcome outcome shares shares.found ?_ ?_, .rest,
    .failed ?_, trivial, ?_⟩
  · exact fun _ => shares.bound number (by simp [active])
  · rw [edits]
    rintro ⟨⟩
  · change ((state.world.requests number).perform state.world.store call).1 ≠ _
    rw [outcome]
    exact failed
  rw [view_edit index active edits outcome]
  refine Snapshots.ext rfl ?_ ?_ rfl
  · exact Function.update_eq_self _ _
  · rw [Snapshots.act, Function.update_eq_self_iff]
    simp only [view, active, decide_true, Bool.true_and]

theorem Shares.edited {snapshot : SessionEntries}
    (edits : phaseAfter (state.phases number) call = .open)
    (outcome : (state.world.requests number).perform state.world.store call =
      (.ok, state.world.store,
        ⟨{ (state.world.requests number).context with
           snapshot := snapshot, dirty := true }, none⟩))
    (written : snapshot.value =
      Function.update (state.world.requests number).context.snapshot.value key
        value)
    (acts : SharedEvent.Acts ⟨number, call, .ok⟩ (.write key value)) :
    Simulates id index generation state number call := by
  have returned : state.status number call = .ok := by
    rw [SharedState.status, outcome]
  refine ⟨Shares.of_outcome outcome shares shares.found ?_ ?_, .write key value,
    returned.symm ▸ acts, ?_, ?_⟩
  · exact fun _ => shares.bound number (by simp [active])
  · rw [edits]
    rintro ⟨⟩
  · simp only [Snapshots.Allows, view, active, decide_true]
  rw [view_edit index active edits outcome]
  refine Snapshots.ext rfl ?_ rfl rfl
  change Function.update (state.view index).own number snapshot.value = _
  rw [written]
  rfl

/-- Setting a value is a write. -/
theorem Shares.set (key value : CString) (nowMs : UInt64)
    (random : RandomSource) :
    Simulates id index generation state number
      (.set key value nowMs random) := by
  have edits : phaseAfter (state.phases number) (.set key value nowMs random) =
    .open := active
  have perform_eq : (state.world.requests number).perform state.world.store
      (.set key value nowMs random) =
      SessionRequest.with_ (state.world.store.set
        (state.world.requests number).context key value nowMs random) :=
    rfl
  unfold SessionStore.set at perform_eq
  rw [if_neg (shares.record_ne_none active)] at perform_eq
  split_ifs at perform_eq with invalid long
  · exact shares.failed active edits (by simp) perform_eq
  · exact shares.failed active edits (by simp) perform_eq
  unfold SessionStore.write at perform_eq
  split at perform_eq
  case h_1 =>
    exact shares.failed active edits (by simp) perform_eq
  case h_2 snapshot put =>
    exact shares.edited active edits perform_eq
      (SessionEntries.value_put put) .set

/-- Removing a value is a write. -/
theorem Shares.remove (key : CString) :
    Simulates id index generation state number (.remove key) := by
  have edits : phaseAfter (state.phases number) (.remove key) = .open := active
  have perform_eq : (state.world.requests number).perform state.world.store
    (.remove key) =
      SessionRequest.with_
        (state.world.store.remove (state.world.requests number).context key) :=
    rfl
  unfold SessionStore.remove at perform_eq
  rw [if_neg (shares.record_ne_none active)] at perform_eq
  split_ifs at perform_eq with invalid
  · exact shares.failed active edits (by simp) perform_eq
  split at perform_eq
  case h_1 =>
    exact shares.failed active edits (by simp) perform_eq
  case h_2 snapshot drop =>
    exact shares.edited active edits perform_eq
      (SessionEntries.value_drop drop) .remove

/-- Committing is the commit of the client. -/
theorem Shares.commit (nowMs : UInt64) :
    Simulates id index generation state number (.commit nowMs) := by
  obtain ⟨bound, generation_eq, id_eq, valid⟩ :=
    shares.bound number (by simp [active])
  obtain ⟨record, found, same⟩ := shares.found
  obtain ⟨present, used, record_id, -⟩ := find_iff.mp found
  have matches_ := matching_of bound present used
    (same.trans generation_eq.symm) (record_id.trans id_eq.symm)
  have valid' : ¬ (state.world.requests number).context.invalidated = true := by
    rw [valid]
    exact Bool.false_ne_true
  have bound' := shares.record_ne_none active
  have filled := List.ne_nil_of_mem (List.mem_of_getElem? present)
  obtain ⟨renewed, outcome, used', id', generation', entries⟩ : ∃ renewed :
    SessionRecord,
      (state.world.requests number).perform state.world.store (.commit nowMs) =
        (.ok, state.world.store.put index renewed,
          ⟨(state.world.requests number).context,
            some (.identifier renewed.id)⟩) ∧
      renewed.used = true ∧ renewed.id = id ∧
      renewed.generation = generation ∧
      renewed.entries =
        (state.world.requests number).context.written record.entries := by
    refine ⟨record.renew
      ((state.world.requests number).context.written record.entries)
      (state.world.store.config.expiry nowMs), ?_, used, record_id, same, rfl⟩
    dsimp only [SessionRequest.perform]
    rw [SessionStore.commit, if_neg filled, if_neg valid', if_neg bound',
      matches_]
  refine ⟨Shares.of_outcome outcome shares ?_ ?_ ?_, .commit, .commit, ?_, ?_⟩
  · exact ⟨renewed, find_put found used' id', generation'⟩
  · exact fun _ => ⟨bound, generation_eq, id_eq, valid⟩
  · exact fun _ => ⟨renewed.id, rfl⟩
  · simp only [Snapshots.Allows, view, active, decide_true]
  rw [view_perform outcome index]
  refine Snapshots.ext ?_ ?_ rfl rfl
  · funext key
    change ((state.world.store.put index renewed).records[index]?.bind
        fun record => record.entries.value key) =
      (if (state.view index).dirty number then (state.view index).own number
        else (state.view index).shared) key
    rw [put_self present, Option.bind_some, entries, SessionContext.written]
    simp only [view, active, decide_true, Bool.true_and, present,
      Option.bind_some]
    split_ifs
    · rfl
    · rfl
  · exact Function.update_eq_self _ _

end

section

variable (shares : Shares id index generation state)

include shares

/-- Publishing what was committed is a rest. -/
theorem Shares.publish (committed : state.phases number = .committed) :
    Simulates id index generation state number (.publish .ok) := by
  obtain ⟨own, publishing⟩ := shares.publishing number committed
  have bound := shares.bound number (by simp [committed])
  have outcome : (state.world.requests number).perform state.world.store
    (.publish .ok) =
      (.ok, state.world.store,
        ⟨{ (state.world.requests number).context with
            created := false
            dirty := false }, none⟩) := by
    dsimp only [SessionRequest.perform]
    rw [publishing]
    rfl
  refine ⟨Shares.of_outcome outcome shares shares.found (fun _ => bound) ?_,
    .rest, .publish, trivial,
    ?_⟩
  · rintro ⟨⟩
  rw [view_perform outcome index]
  refine Snapshots.ext rfl ?_ ?_ ?_
  · exact Function.update_eq_self _ _
  · change Function.update (state.view index).dirty number false =
      (state.view index).dirty
    rw [Function.update_eq_self_iff]
    simp only [view, committed]
    rfl
  · change Function.update (state.view index).active number false =
      (state.view index).active
    rw [Function.update_eq_self_iff]
    simp only [view, committed]
    rfl

theorem Shares.simulates (hex : sessionHexId id = true)
    (admitted : state.Admits id index number call) :
    Simulates id index generation state number call := by
  cases call with
  | begin cookie nowMs =>
    have presented : cookie = some id := admitted.1
    subst presented
    exact shares.begin hex admitted
  | set key value nowMs random =>
    exact shares.set admitted key value nowMs random
  | remove key => exact shares.remove admitted key
  | commit nowMs => exact shares.commit admitted nowMs
  | publish status =>
    obtain ⟨committed, rfl⟩ := admitted
    exact shares.publish committed
  | _ => exact admitted.elim

/-- A run of calls is a run of snapshots. -/
theorem Shares.run (hex : sessionHexId id = true)
    (run : Run id index state events final) :
    Shares id index generation final ∧ ∃ actions,
        Snapshots.Run (state.view index) actions (final.view index) ∧
          List.Forall₂
            (fun (event : SharedEvent) entry =>
              entry.1 = event.number ∧ event.Acts entry.2)
            events actions := by
  induction run with
  | nil => exact ⟨shares, [], .nil, .nil⟩
  | @cons state final number call events admitted _ ih =>
    obtain ⟨shares', action, acts, allowed, view_eq⟩ :=
      shares.simulates hex admitted
    obtain ⟨shares'', actions, run', forall_acts⟩ := ih shares'
    rw [view_eq] at run'
    exact ⟨shares'', (number, action) :: actions, .cons allowed run',
      .cons ⟨rfl, acts⟩ forall_acts⟩

end

/-- The request has written its snapshot back. -/
def Finished (state : SharedState) (number : Nat) : Prop :=
  state.phases number = .committed ∨ state.phases number = .done

section

variable (finished : state.Finished number)

include finished

theorem Finished.not_open : state.phases number ≠ .open := by
  rcases finished with committed | done
  · rw [committed]
    rintro ⟨⟩
  · rw [done]
    rintro ⟨⟩

/-- A request which has finished stays so. -/
theorem Finished.perform {actor : Nat}
    (admitted : state.Admits id index actor call) :
    (state.perform actor call).Finished number := by
  change Function.update state.phases actor _ number = _ ∨
    Function.update state.phases actor _ number = _
  by_cases same : number = actor
  · subst same
    rw [Function.update_self]
    cases call with
    | begin =>
      have idle : state.phases number = .idle := admitted.2.1
      rcases finished with committed | done
      · rw [idle] at committed
        cases committed
      · rw [idle] at done
        cases done
    | publish => exact .inr rfl
    | commit => exact .inl rfl
    | _ => exact finished
  · rw [Function.update_of_ne same]
    exact finished

/-- A request which has finished stays so along a run. -/
theorem Finished.run (run : Run id index state events final) :
    final.Finished number := by
  induction run with
  | nil => exact finished
  | cons admitted _ ih => exact ih (finished.perform admitted)

theorem Finished.no_edits (run : Run id index state events final) :
    ∀ event ∈ events, event.number = number → ¬ event.Edits := by
  induction run with
  | nil => exact List.forall_mem_nil _
  | cons admitted _ ih =>
    intro event member own
    rcases List.mem_cons.mp member with rfl | behind
    · subst own
      rintro ⟨-, ⟨key, value, nowMs, random, rfl⟩ | ⟨key, rfl⟩⟩ <;>
        exact finished.not_open admitted
    · exact ih (finished.perform admitted) event behind own

end

/-- A request which stays open only writes. -/
theorem Run.open_acts (run : Run id index state events final)
    (active : state.phases number = .open)
    (active' : final.phases number = .open) :
    ∀ event ∈ events, event.number = number → ∀ action, event.Acts action →
      action = .rest ∨ ∃ key value, action = .write key value := by
  induction run with
  | nil => exact List.forall_mem_nil _
  | @cons state final actor call events admitted run ih =>
    have still : (state.perform actor call).phases number = .open ∧
        (number = actor → ∀ action,
          SharedEvent.Acts ⟨actor, call, state.status actor call⟩ action →
            action = .rest ∨ ∃ key value, action = .write key value) := by
      by_cases same : number = actor
      · subst same
        have phase : (state.perform number call).phases number =
            phaseAfter (state.phases number) call :=
          Function.update_self _ _ _
        cases call with
        | begin =>
          have idle : state.phases number = .idle := admitted.2.1
          rw [idle] at active
          cases active
        | set | remove =>
          refine ⟨phase.trans active, fun _ action acts => ?_⟩
          generalize state.status number _ = status at acts
          cases acts <;> first | exact .inl rfl | exact .inr ⟨_, _, rfl⟩
        | commit =>
          have finished : (state.perform number (.commit _)).Finished number :=
            .inl phase
          exact absurd active' (finished.run run).not_open
        | publish =>
          have committed : state.phases number = .committed := admitted.1
          rw [committed] at active
          cases active
        | _ => exact admitted.elim
      · refine ⟨?_, fun own => absurd own same⟩
        exact (Function.update_of_ne same _ _).trans active
    intro event member own
    rcases List.mem_cons.mp member with rfl | behind
    · exact still.2 own.symm
    · exact ih still.1 active' event behind own

theorem acts_write {event : SharedEvent}
    (acts : event.Acts (.write key value)) :
    event.Changes key := by
  cases acts with
  | set => exact ⟨⟨rfl, .inl ⟨_, _, _, _, rfl⟩⟩, .inl ⟨_, _, _, rfl⟩⟩
  | remove => exact ⟨⟨rfl, .inr ⟨_, rfl⟩⟩, .inr rfl⟩

theorem shares_start (idle : ∀ number, state.phases number = .idle)
    (found : state.world.store.find id = some (index, record)) :
    Shares id index record.generation state where
  found := ⟨record, found, rfl⟩
  bound number begun := absurd (idle number) begun
  publishing number committed := by
    rw [idle number] at committed
    cases committed

/-- What the snapshots share is stored in the record. -/
theorem Shares.stored (shares : Shares id index generation state)
    (shared : (state.view index).shared key = value) :
    ∃ record, state.world.store.records[index]? = some record ∧
      record.entries.value key = value := by
  obtain ⟨record, found, -⟩ := shares.found
  have present := (find_iff.mp found).1
  refine ⟨record, present, ?_⟩
  simp only [view, present, Option.bind_some] at shared
  exact shared

section

variable (shares : Shares id index generation state)
  (hex : sessionHexId id = true)
  (run : Run id index state events final)

include shares hex run

/-- What is settled stays stored, unless it is changed or an edit is made by a
request with an older snapshot. -/
theorem Shares.kept {Idle : Nat → Prop}
    (settled : (state.view index).Settled Idle key value)
    (spares : ∀ event ∈ events, event.Edits → ¬ event.Changes key ∧
      ¬ Idle event.number) :
    ∃ record', final.world.store.records[index]? = some record' ∧
      record'.entries.value key = value := by
  obtain ⟨shares', actions, clients, forall_acts⟩ := shares.run hex run
  refine shares'.stored (clients.settled settled ?_).shared
  intro entry member other value written
  obtain ⟨event, present, own, acts⟩ :=
    exists_of_forall₂ forall_acts.flip member
  rw [written] at acts
  obtain ⟨unchanged, busy⟩ := spares event present (acts_write acts).1
  rw [own]
  exact ⟨fun same => unchanged (same ▸ acts_write acts), busy⟩

theorem Shares.edits_of_dirty (dirty : (final.view index).dirty number = true) :
    (state.view index).dirty number = true ∨
      ∃ event ∈ events, event.number = number ∧ event.Edits := by
  obtain ⟨-, actions, clients, forall_acts⟩ := shares.run hex run
  rcases clients.dirty dirty with earlier | ⟨key, value, member⟩
  · exact .inl earlier
  · obtain ⟨event, present, own, acts⟩ :=
      exists_of_forall₂ forall_acts.flip member
    exact .inr ⟨event, present, own.symm, (acts_write acts).1⟩

/-- An open request keeps what it has written. -/
theorem Shares.holds (active : state.phases number = .open)
    (active' : final.phases number = .open)
    (wrote : (state.view index).Holds number key value)
    (last : ∀ event ∈ events, event.number = number → ¬ event.Changes key) :
    (final.view index).Holds number key value := by
  obtain ⟨-, actions, clients, forall_acts⟩ := shares.run hex run
  refine clients.holds wrote fun action member => ?_
  obtain ⟨event, present, own, acts⟩ :=
    exists_of_forall₂ forall_acts.flip member
  rcases run.open_acts active active' event present own.symm action acts
    with rest | ⟨other, value', rfl⟩
  · exact .inl rest
  · refine .inr ⟨other, value', fun same => ?_, rfl⟩
    exact last event present own.symm (same ▸ acts_write acts)

end

end SharedState

open SharedState in
/-- Requests on one session do not lose updates as long as those which change
something do not overlap when one of them finishes; and no request changes a
key but by its own edits. -/
theorem shared_session_updates {id : Bytes} {index : Nat} {start : SharedState}
    {record : SessionRecord} (hex : sessionHexId id = true)
    (idle : ∀ number, start.phases number = .idle)
    (found : start.world.store.find id = some (index, record)) :
    (∀ events final key, Run id index start events final →
      (∀ event ∈ events, ¬ event.Changes key) →
        ∃ record', final.world.store.records[index]? = some record' ∧
          record'.entries.value key = record.entries.value key) ∧
      ∀ before opened number key value nowMs random between closed finishMs
        after final,
        Run id index start before opened →
        opened.Admits id index number (.set key value nowMs random) →
        opened.status number (.set key value nowMs random) = .ok →
        Run id index (opened.perform number (.set key value nowMs random))
          between closed →
        closed.Admits id index number (.commit finishMs) →
        Run id index (closed.perform number (.commit finishMs)) after final →
        (∀ event ∈ between, event.number = number → ¬ event.Changes key) →
        (∀ event ∈ before ++ between ++ after, event.number ≠ number →
          ¬ event.Changes key) →
        (∀ other, other ≠ number → closed.phases other = .open →
          ∀ event ∈ before ++ between ++ after, event.number = other →
            ¬ event.Edits) →
          ∃ record', final.world.store.records[index]? = some record' ∧
            record'.entries.value key = some value := by
  have sharing := shares_start idle found
  constructor
  · intro events final key run unchanged
    have settled : (start.view index).Settled (fun _ => False) key
        (record.entries.value key) := by
      constructor
      · simp only [view, (find_iff.mp found).1, Option.bind_some]
      · intro number active
        simp only [view, idle number] at active
        cases active
    exact sharing.kept hex run settled
      fun event present _ => ⟨unchanged event present, not_false⟩
  intro before opened number key value nowMs random between closed finishMs
    after final run admitted ok run' admitted' run'' last sole apart
  have shares := (sharing.run hex run).1
  obtain ⟨shares', action, acts, -, view_eq⟩ := shares.simulates hex admitted
  rw [ok] at acts
  have written : action = .write key (some value) := by
    cases acts with
    | set => rfl
    | failed failed => exact absurd rfl failed
  subst written
  obtain ⟨shares'', action', acts', -, view_eq'⟩ :=
    (shares'.run hex run').1.simulates hex admitted'
  have committed : action' = .commit := by
    cases acts' with
    | commit => rfl
    | failed failed => exact absurd rfl failed
  subst committed
  have active : (opened.perform number (.set key value nowMs random)).phases
      number = .open :=
    (Function.update_self _ _ _).trans admitted
  have wrote : ((opened.perform number (.set key value nowMs random)).view
      index).Holds number key (some value) := by
    rw [view_eq]
    exact Snapshots.holds_write
  have holds := shares'.holds hex run' active admitted' wrote last
  -- Only requests which have changed nothing have older snapshots then.
  have clean : ∀ other, other ≠ number →
      (closed.view index).active other = true →
        (closed.view index).dirty other = false := by
    intro other distinct active
    refine Bool.eq_false_iff.mpr fun dirty => ?_
    have edits := apart other distinct (of_decide_eq_true active)
    rcases shares'.edits_of_dirty hex run' dirty with earlier | ⟨event, present,
      own, edited⟩
    · rw [view_eq] at earlier
      change Function.update (opened.view index).dirty number true other = true
        at earlier
      rw [Function.update_of_ne distinct] at earlier
      rcases sharing.edits_of_dirty hex run earlier with impossible | ⟨event,
        present, own, edited⟩
      · simp only [view, idle other] at impossible
        cases impossible
      · exact edits event (by simp [present]) own edited
    · exact edits event (by simp [present]) own edited
  have finished : (closed.perform number (.commit finishMs)).Finished number :=
    .inl (Function.update_self _ _ _)
  have settled := holds.settled_commit clean
  rw [← view_eq'] at settled
  refine shares''.kept hex run'' settled fun event present edited => ?_
  have listed : event ∈ before ++ between ++ after :=
    List.mem_append_right _ present
  have foreign : event.number ≠ number :=
    fun own => finished.no_edits run'' event present own edited
  exact ⟨sole event listed foreign,
    fun ⟨distinct, active⟩ =>
      apart _ distinct (of_decide_eq_true active) event listed rfl edited⟩

/-! ## A lost update -/

namespace SharedState

/-- Two entries for a session, and a second of time. -/
def pairConfig : SessionConfig where
  sessionEntryCapacity := 2
  maxSessionKeyBytes := 1
  maxSessionValueBytes := 1
  sessionIdleTimeoutMs := 1000

/-- A key of one byte, and another one. -/
def firstKey : CString := SessionWorld.shortKey

def secondKey : CString where
  bytes := [98]
  unterminated := by decide

/-- A session without entries, and no request yet. -/
def fresh : SharedState where
  phases _ := .idle
  world :=
    { store :=
        ((SessionStore.init pairConfig 1).create
          (SessionContext.reset pairConfig) 0 constantSource).2.1
      requests := fun _ => SessionRequest.idle pairConfig }

/-- Both requests begin, each sets its own key, and both finish. -/
def overlapping : List (Nat × SessionCall) :=
  [(1, .begin (some constantId) 0), (2, .begin (some constantId) 0),
    (1, .set firstKey firstKey 0 constantSource),
    (2, .set secondKey secondKey 0 constantSource),
    (1, .commit 0), (1, .publish .ok), (2, .commit 0), (2, .publish .ok)]

/-- The state after some calls, and the events. -/
def replay (state : SharedState) :
    List (Nat × SessionCall) → List SharedEvent × SharedState
  | [] => ([], state)
  | (number, call) :: calls =>
    (⟨number, call, state.status number call⟩ ::
      (replay (state.perform number call) calls).1,
      (replay (state.perform number call) calls).2)

theorem unexpired {state : SharedState}
    (positive : state.world.store.records[0]?.all (0 < ·.expiresAtMs) = true)
    (record : SessionRecord)
    (present : state.world.store.records[0]? = some record) :
    0 < record.expiresAtMs := by
  rw [present] at positive
  exact of_decide_eq_true positive

theorem replay_overlapping : Run constantId 0 fresh (replay fresh overlapping).1
    (replay fresh overlapping).2 := by
  refine .cons ⟨rfl, rfl, unexpired (by decide +kernel)⟩ ?_
  refine .cons ⟨rfl, rfl, unexpired (by decide +kernel)⟩ ?_
  refine .cons rfl
    (.cons rfl
      (.cons rfl (.cons ⟨rfl, rfl⟩ (.cons rfl (.cons ⟨rfl, rfl⟩ .nil)))))

end SharedState

open SharedState in
/-- Of two requests which overlap, the one which finishes first loses the key
which only it has touched. -/
theorem shared_session_update_lost : sessionHexId constantId = true ∧
    (∀ number, fresh.phases number = .idle) ∧
    (∃ record, fresh.world.store.find constantId = some (0, record)) ∧
    ∃ events final, Run constantId 0 fresh events final ∧
      (∀ number, final.phases number = .idle ∨ final.phases number = .done) ∧
      (∃ event ∈ events, event.number = 1 ∧ event.status = .ok ∧ event.call =
          .set firstKey firstKey 0 constantSource) ∧
      (∀ event ∈ events, event.Touches firstKey → event.number = 1) ∧
      ∃ record, final.world.store.records[0]? = some record ∧
        record.entries.value firstKey = none := by
  have lost : (replay fresh overlapping).2.world.store.records[0]?.map
      (·.entries.value firstKey) = some none := by
    decide +kernel
  refine ⟨by decide +kernel, fun _ => rfl, ⟨_, rfl⟩,
    (replay fresh overlapping).1, (replay fresh overlapping).2,
    replay_overlapping, ?_, ?_, ?_, Option.map_eq_some_iff.mp lost⟩
  · intro number
    match number with
    | 0 => exact .inl rfl
    | 1 => exact .inr rfl
    | 2 => exact .inr rfl
    | _ + 3 => exact .inl rfl
  · refine ⟨⟨1, .set firstKey firstKey 0 constantSource,
      ((fresh.perform 1 (.begin (some constantId) 0)).perform 2
        (.begin (some constantId) 0)).status 1
        (.set firstKey firstKey 0 constantSource)⟩, ?_,
      rfl, by decide +kernel, rfl⟩
    exact List.mem_cons_of_mem _ (List.mem_cons_of_mem _ List.mem_cons_self)
  intro event member touches
  simp only [overlapping, replay, List.mem_cons, List.not_mem_nil, or_false]
    at member
  rcases member with rfl | rfl | rfl | rfl | rfl | rfl | rfl | rfl
  all_goals
    first
    | rfl
    | rcases touches with ⟨_, _, _, impossible⟩ | impossible <;>
        cases impossible

namespace SharedState

/-- A value which is too long for the session. -/
def longValue : CString where
  bytes := [97, 98]
  unterminated := by decide

/-- The first request has begun. -/
def begun : SharedState := fresh.perform 1 (.begin (some constantId) 0)

/-- The first request has set its key, and has failed to set it again. -/
def edited : SharedState :=
  (begun.perform 1 (.set firstKey firstKey 0 constantSource)).perform 1
    (.set firstKey longValue 0 constantSource)

/-- What follows when the first request finishes: the second one takes its turn.
-/
def turn : List (Nat × SessionCall) :=
  [(1, .publish .ok), (2, .begin (some constantId) 0),
    (2, .set secondKey secondKey 0 constantSource), (2, .commit 0),
    (2, .publish .ok)]

end SharedState

open SharedState in
/-- Two requests take turns, and the key of the first one is there in the end.
-/
theorem shared_session_updates_turns :
    let final := (replay (edited.perform 1 (.commit 0)) turn).2
    ∃ record, final.world.store.records[0]? = some record ∧
      record.entries.value firstKey = some firstKey := by
  have before : Run constantId 0 fresh
      (replay fresh [(1, .begin (some constantId) 0)]).1 begun :=
    .cons ⟨rfl, rfl, unexpired (by decide +kernel)⟩ .nil
  have between : Run constantId 0
      (begun.perform 1 (.set firstKey firstKey 0 constantSource))
      (replay (begun.perform 1 (.set firstKey firstKey 0 constantSource))
        [(1, .set firstKey longValue 0 constantSource)]).1 edited :=
    .cons rfl .nil
  have after : Run constantId 0 (edited.perform 1 (.commit 0))
      (replay (edited.perform 1 (.commit 0)) turn).1
      (replay (edited.perform 1 (.commit 0)) turn).2 := by
    refine .cons ⟨rfl, rfl⟩ (.cons ⟨rfl, rfl, unexpired (by decide +kernel)⟩ ?_)
    exact .cons rfl (.cons rfl (.cons ⟨rfl, rfl⟩ .nil))
  refine (shared_session_updates (by decide +kernel) (fun _ => rfl) rfl).2
    _ _ 1 _ _ _ _ _ _ _ _ _ before rfl (by decide +kernel) between rfl after
    ?_ ?_ ?_
  · intro event member _ changes
    obtain rfl := List.mem_singleton.mp member
    exact absurd changes.1.1 (by decide +kernel)
  · intro event member foreign changes
    simp only [replay, turn, List.cons_append, List.nil_append, List.mem_cons,
      List.not_mem_nil, or_false] at member
    rcases member with rfl | rfl | rfl | rfl | rfl | rfl | rfl <;>
      first
      | exact foreign rfl
      | rcases changes.2 with ⟨_, _, _, impossible⟩ | impossible <;>
          cases impossible
  · intro other distinct active
    have idle : edited.phases other = .idle := by
      simp [edited, begun, perform, distinct, fresh]
    rw [idle] at active
    cases active

end Chttp.Server
