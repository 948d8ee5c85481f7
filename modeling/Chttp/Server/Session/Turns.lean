import Chttp.Lib.Slots
import Chttp.Server.Session.Store

/-!
# What a request can do to the store

Each function of the session store is a few turns: the records expire, a free
record is taken, a record which matches the context gets another identifier or
other entries or is cleared, or the context alone changes.
-/

namespace Chttp.Server

open Lib Relation

namespace SessionStore

/-- Turns of the calls which a handler makes to change its session. -/
inductive Edit :
    SessionStore × SessionContext → SessionStore × SessionContext → Prop
  | expired {store : SessionStore} {context : SessionContext} (nowMs : UInt64)
      (unbound : context.record = none) :
      Edit (store, context) (store.expire nowMs, context)
  | opened {store : SessionStore} {context : SessionContext} {index : Nat}
      {record : SessionRecord} {id : Bytes} (expiresAtMs : UInt64)
      (unbound : context.record = none)
      (present : store.records[index]? = some record)
      (unused : record.used = false) (fresh : store.idExists id = false) :
      Edit (store, context)
        ({ store.put index (record.assign id expiresAtMs store.sessions) with
            sessions := store.sessions + 1 },
          context.enter index (record.assign id expiresAtMs store.sessions))
  | renamed {store : SessionStore} {context : SessionContext} {index : Nat}
      {record : SessionRecord} {id : Bytes} (expiresAtMs : UInt64)
      (matches_ : store.matching context = some (index, record))
      (fresh : store.idExists id = false) :
      Edit (store, context)
        (store.put index (record.rename id expiresAtMs),
          context.rebind index (record.rename id expiresAtMs))
  | wrote {store : SessionStore} {context : SessionContext}
      {snapshot : SessionEntries} (bound : context.record ≠ none)
      (own : ∀ entry, some entry ∈ snapshot →
        some entry ∈ context.snapshot ∨ entry.session = context.session) :
      Edit (store, context)
        (store, { context with snapshot := snapshot, dirty := true })

/-- Turns of all calls. -/
inductive Turn :
    SessionStore × SessionContext → SessionStore × SessionContext → Prop
  | edit {before after : SessionStore × SessionContext}
      (edit : Edit before after) : Turn before after
  | loosed {store : SessionStore} {context context' : SessionContext}
      (unbound : context'.record = none) :
      Turn (store, context) (store, context')
  | found {store : SessionStore} {context : SessionContext} {index : Nat}
      {record : SessionRecord} (expiresAtMs : UInt64)
      (present : store.records[index]? = some record)
      (used : record.used = true) :
      Turn (store, context)
        (store.put index (record.renew record.entries expiresAtMs),
          context.follow index (record.renew record.entries expiresAtMs))
  | cleared {store : SessionStore} {context context' : SessionContext}
      {index : Nat} {record : SessionRecord}
      (matches_ : store.matching context = some (index, record))
      (unbound : context'.record = none) :
      Turn (store, context) (store.put index record.clear, context')
  | renewed {store : SessionStore} {context : SessionContext} {index : Nat}
      {record : SessionRecord} (expiresAtMs : UInt64)
      (matches_ : store.matching context = some (index, record)) :
      Turn (store, context)
        (store.put index
          (record.renew (context.written record.entries) expiresAtMs), context)
  | flagged {store : SessionStore} {context : SessionContext}
      (created dirty : Bool) :
      Turn (store, context)
      (store, { context with created := created, dirty := dirty })

abbrev Edits := ReflTransGen Edit

abbrev Turns := ReflTransGen Turn

theorem Edits.turns {before after : SessionStore × SessionContext}
    (edits : Edits before after) : Turns before after :=
  ReflTransGen.mono (fun _ _ => Turn.edit) _ _ edits

/-! ## The calls of a handler -/

variable {store : SessionStore} {context : SessionContext} {index : Nat}
  {record : SessionRecord}

theorem matching_spec (matches_ : store.matching context =
    some (index, record)) :
    context.record = some index ∧ store.records[index]? = some record ∧
      record.used = true ∧ record.generation = context.recordGeneration ∧
      record.id = context.id := by
  unfold matching at matches_
  split at matches_
  case h_1 => cases matches_
  case h_2 bound =>
    split at matches_
    case h_1 => cases matches_
    case h_2 present =>
      split_ifs at matches_ with same
      cases matches_
      exact ⟨bound, present, same⟩

theorem matching_of (bound : context.record = some index)
    (present : store.records[index]? = some record) (used : record.used = true)
    (generation : record.generation = context.recordGeneration)
    (id : record.id = context.id) :
    store.matching context = some (index, record) := by
  unfold matching
  simp only [bound, present, used, generation, id, and_self, if_true]

/-- The record which is found is in use and has the id. -/
theorem find_spec {id : Bytes} (found : store.find id = some (index, record)) :
    store.records[index]? = some record ∧ record.used = true ∧
      record.id = id := by
  unfold find at found
  split at found
  case h_1 => cases found
  case h_2 located =>
    obtain ⟨-, _, present, holds⟩ := getElem?_of_findIdx? located
    rw [present] at found
    cases found
    simp only [Bool.and_eq_true, beq_iff_eq] at holds
    exact ⟨present, holds⟩

theorem free_spec (found : store.free = some (index, record)) :
    store.records[index]? = some record ∧ record.used = false := by
  unfold free at found
  split at found
  case h_1 => cases found
  case h_2 located =>
    obtain ⟨-, _, present, holds⟩ := getElem?_of_findIdx? located
    rw [present] at found
    cases found
    exact ⟨present, by simpa using holds⟩

theorem generateId_fresh {random : RandomSource} {attempts : Nat} {id : Bytes}
    (generated : store.generateId random attempts = .ok id) :
    store.idExists id = false := by
  induction attempts with
  | zero => cases generated
  | succ attempts ih =>
    rw [generateId] at generated
    split_ifs at generated with failed taken
    · exact ih generated
    · cases generated
      exact Bool.eq_false_iff.mpr taken

theorem generateId_failed {random : RandomSource} {attempts : Nat}
    {status : Status}
    (failed : store.generateId random attempts = .error status) :
    status ≠ .ok := by
  induction attempts with
  | zero =>
    cases failed
    rintro ⟨⟩
  | succ attempts ih =>
    rw [generateId] at failed
    split_ifs at failed with refused taken
    · cases failed
      exact refused
    · exact ih failed

/-- A session is created in a free record, with an identifier which no other
session has; or else the records have only expired. -/
theorem create_cases (store : SessionStore) (context : SessionContext)
    (nowMs : UInt64) (random : RandomSource) :
    (∃ status, status ≠ .ok ∧ store.create context nowMs random =
        (status, store.expire nowMs, context)) ∨
      ∃ index record id expiresAtMs,
        (store.expire nowMs).records[index]? = some record ∧
          record.used = false ∧ (store.expire nowMs).idExists id = false ∧
          store.create context nowMs random =
            (.ok,
              { (store.expire nowMs).put index
                (record.assign id expiresAtMs store.sessions) with
                sessions := store.sessions + 1 },
              context.enter index
                (record.assign id expiresAtMs store.sessions)) := by
  unfold create
  dsimp only
  split
  case h_1 => exact .inl ⟨_, (fun impossible => by cases impossible), rfl⟩
  case h_2 index record found =>
    obtain ⟨present, unused⟩ := free_spec found
    split
    case h_1 status failed => exact .inl ⟨_, generateId_failed failed, rfl⟩
    case h_2 id generated =>
      exact .inr ⟨index, record, id, _, present, unused,
        generateId_fresh generated, rfl⟩

theorem create_edits (store : SessionStore) (unbound : context.record = none)
    (nowMs : UInt64)
    (random : RandomSource) :
    Edits (store, context) (store.create context nowMs random).2 := by
  have expired : Edits (store, context) (store.expire nowMs, context) :=
    .single (.expired nowMs unbound)
  rcases create_cases store context nowMs random with
    ⟨status, -, equal⟩ | ⟨index, record, id, expiresAtMs, present, unused,
      fresh, equal⟩
  · rw [equal]
    exact expired
  · rw [equal]
    exact expired.tail (.opened expiresAtMs unbound present unused fresh)

theorem put_own {entries entries' : SessionEntries} {entry : SessionEntry}
    (put : entries.put entry = some entries') {other : SessionEntry}
    (member : some other ∈ entries') :
    some other ∈ entries ∨ other = entry := by
  have replaced : ∃ index, entries' = entries.set index (some entry) := by
    unfold SessionEntries.put at put
    split at put
    · exact ⟨_, (Option.some.inj put).symm⟩
    · split at put
      · exact ⟨_, (Option.some.inj put).symm⟩
      · cases put
  obtain ⟨index, rfl⟩ := replaced
  rcases List.mem_or_eq_of_mem_set member with old | new
  · exact .inl old
  · exact .inr (Option.some.inj new)

section

variable (store : SessionStore)

theorem write_edits (bound : context.record ≠ none) (key value : CString) :
    Edits (store, context) (store.write context key value).2 := by
  unfold write
  split
  case h_1 => exact .refl
  case h_2 snapshot put =>
    refine .single (.wrote bound fun entry member => ?_)
    rcases put_own put member with old | rfl
    · exact .inl old
    · exact .inr rfl

theorem set_edits (context : SessionContext) (key value : CString)
    (nowMs : UInt64)
    (random : RandomSource) :
    Edits (store, context) (store.set context key value nowMs random).2 := by
  unfold set
  split_ifs with invalid long unbound
  · exact .refl
  · exact .refl
  · have created := create_edits store unbound nowMs random
    rcases create_cases store context nowMs random with
      ⟨status, failed, equal⟩ | ⟨index, record, id, expiresAtMs, -, -, -, equal⟩
    · rw [equal] at created ⊢
      split
      case h_1 same =>
        cases same
        exact absurd rfl failed
      case h_2 => exact created
    · rw [equal] at created ⊢
      refine created.trans (write_edits _ ?_ key value)
      rintro ⟨⟩
  · exact write_edits store unbound key value

theorem remove_edits (context : SessionContext) (key : CString) :
    Edits (store, context) (store.remove context key).2 := by
  unfold remove
  split_ifs with invalid unbound
  · exact .refl
  · exact .refl
  split
  case h_1 => exact .refl
  case h_2 snapshot dropped =>
    refine .single (.wrote unbound fun entry member => .inl ?_)
    unfold SessionEntries.drop at dropped
    split at dropped
    · cases dropped
      rcases List.mem_or_eq_of_mem_set member with old | new
      · exact old
      · cases new
    · cases dropped

theorem clear_edits (context : SessionContext) :
    Edits (store, context) (store.clear context).2 := by
  unfold clear
  split_ifs with invalid unbound
  · exact .refl
  · exact .refl
  · refine .single (.wrote unbound fun entry member => ?_)
    obtain ⟨_, _, impossible⟩ := List.mem_map.mp member
    cases impossible

theorem regenerate_edits (context : SessionContext) (nowMs : UInt64)
    (random : RandomSource) :
    Edits (store, context) (store.regenerate context nowMs random).2 := by
  unfold regenerate
  split_ifs with invalid unbound
  · exact .refl
  · exact create_edits store unbound nowMs random
  split
  case h_1 => exact .refl
  case h_2 index record matches_ =>
    split
    case h_1 => exact .refl
    case h_2 id generated =>
      exact .single (.renamed _ matches_ (generateId_fresh generated))

/-! ## The calls of the server -/

theorem requestBegin_turns (context : SessionContext) (cookie : Option Bytes)
    (nowMs : UInt64) :
    Turns (store, context) (store.requestBegin cookie nowMs) := by
  have loosed : Turns (store, context)
      (store, SessionContext.reset store.config) :=
    .single (.loosed rfl)
  have expired : Turns (store, context)
      (store.expire nowMs, SessionContext.reset store.config) :=
    loosed.tail (.edit (.expired nowMs rfl))
  unfold requestBegin
  split_ifs
  · exact loosed
  split
  case h_1 => exact loosed
  case h_2 id =>
    split_ifs
    · dsimp only
      split
      case h_1 => exact expired
      case h_2 index record found =>
        obtain ⟨present, used, -⟩ := find_spec found
        exact expired.tail
          (.found ((store.expire nowMs).config.expiry nowMs) present used)
    · exact loosed

theorem clearMatching_turns {context' : SessionContext}
    (unbound : context'.record = none) :
    Turns (store, context) (store.clearMatching context, context') := by
  unfold clearMatching
  split
  case h_1 => exact .single (.loosed unbound)
  case h_2 index record matches_ => exact .single (.cleared matches_ unbound)

theorem discardCreated_turns (context : SessionContext) :
    Turns (store, context) (store.discardCreated context) := by
  unfold discardCreated
  split_ifs
  · exact .refl
  · exact clearMatching_turns store rfl

theorem commit_turns (context : SessionContext) (nowMs : UInt64) :
    Turns (store, context) (store.commit context nowMs).2 := by
  unfold commit
  split_ifs
  · exact .refl
  · exact .refl
  · exact .refl
  · split
    case h_1 => exact .single (.loosed rfl)
    case h_2 index record matches_ => exact .single (.renewed _ matches_)

theorem publish_turns (context : SessionContext) (status : Status)
    (publication : Publication) :
    Turns (store, context) (store.publish context status publication).2 := by
  cases publication with
  | nothing | removal => exact .refl
  | identifier id =>
    unfold publish
    split_ifs
    · exact .single (.flagged false false)
    · exact discardCreated_turns store context
    · exact .refl

theorem requestAbort_turns (context : SessionContext) :
    Turns (store, context) (store.requestAbort context) := by
  unfold requestAbort
  split_ifs
  · exact .refl
  · exact (discardCreated_turns store context).tail (.loosed rfl)

end

end SessionStore

/-! ## Any number of requests -/

/-- A call of a request, with what it gets from its environment.  Finishing is
two calls, since other requests may run before the cookie is set. -/
inductive SessionCall where
  | begin (cookie : Option Bytes) (nowMs : UInt64)
  | set (key value : CString) (nowMs : UInt64) (random : RandomSource)
  | remove (key : CString)
  | clear
  | regenerate (nowMs : UInt64) (random : RandomSource)
  | invalidate
  | commit (nowMs : UInt64)
  | publish (status : Status)
  | abort

/-- A request, and the cookie it is about to set. -/
structure SessionRequest where
  context : SessionContext
  publishing : Option SessionStore.Publication
  deriving DecidableEq, Repr

/-- The store and the requests. -/
@[ext]
structure SessionWorld where
  store : SessionStore
  requests : Nat → SessionRequest

namespace SessionRequest

/-- A request which has not begun. -/
def idle (config : SessionConfig) : SessionRequest where
  context := SessionContext.reset config
  publishing := none

/-- Setting the cookie comes right after the commit. -/
def Allows (request : SessionRequest) : SessionCall → Prop
  | .publish _ => request.publishing ≠ none
  | _ => request.publishing = none

/-- The same request with another context. -/
def with_ (outcome : Status × SessionStore × SessionContext) :
    Status × SessionStore × SessionRequest :=
  (outcome.1, outcome.2.1, ⟨outcome.2.2, none⟩)

/-- A call of a request. -/
def perform (store : SessionStore) (request : SessionRequest) :
    SessionCall → Status × SessionStore × SessionRequest
  | .begin cookie nowMs => with_ (.ok, store.requestBegin cookie nowMs)
  | .set key value nowMs random =>
    with_ (store.set request.context key value nowMs random)
  | .remove key => with_ (store.remove request.context key)
  | .clear => with_ (store.clear request.context)
  | .regenerate nowMs random =>
    with_ (store.regenerate request.context nowMs random)
  | .invalidate => with_ (store.invalidate request.context)
  | .commit nowMs =>
    match store.commit request.context nowMs with
    | (publication, store, context) =>
      (.ok, store, ⟨context, some publication⟩)
  | .publish status =>
    match request.publishing with
    | none => (.einval, store, request)
    | some publication =>
      with_ (store.publish request.context status publication)
  | .abort => with_ (.ok, store.requestAbort request.context)

open SessionStore in
theorem perform_turns (store : SessionStore) (request : SessionRequest)
    (call : SessionCall) :
    Turns (store, request.context)
      ((request.perform store call).2.1,
        (request.perform store call).2.2.context) := by
  cases call with
  | begin cookie nowMs => exact requestBegin_turns store _ cookie nowMs
  | set key value nowMs random =>
    exact (set_edits store _ key value nowMs random).turns
  | remove key => exact (remove_edits store _ key).turns
  | clear => exact (clear_edits store _).turns
  | regenerate nowMs random =>
    exact (regenerate_edits store _ nowMs random).turns
  | invalidate => exact clearMatching_turns store rfl
  | commit nowMs => exact commit_turns store _ nowMs
  | publish status =>
    dsimp only [perform]
    split
    case h_1 => exact .refl
    case h_2 publication _ => exact publish_turns store _ status publication
  | abort => exact requestAbort_turns store _

end SessionRequest

namespace SessionWorld

/-- The store is new and no request has begun. -/
def init (config : SessionConfig) (sessionCapacity : Nat) : SessionWorld where
  store := SessionStore.init config sessionCapacity
  requests _ := SessionRequest.idle config

/-- One request makes a call. -/
def perform (world : SessionWorld) (number : Nat) (call : SessionCall) :
    SessionWorld where
  store := ((world.requests number).perform world.store call).2.1
  requests := Function.update world.requests number
      ((world.requests number).perform world.store call).2.2

/-- The calls of all requests, in the order in which they happen, each from a
state of some kind. -/
inductive Run (Good : SessionWorld → Prop) (start : SessionWorld) :
    List (Nat × SessionCall) → SessionWorld → Prop
  | start : Run Good start [] start
  | call {calls : List (Nat × SessionCall)} {world : SessionWorld}
      (run : Run Good start calls world) (good : Good world) (number : Nat)
      (call : SessionCall) (allowed : (world.requests number).Allows call) :
      Run Good start (calls ++ [(number, call)]) (world.perform number call)

/-- Any run at all. -/
abbrev AnyRun := Run fun _ => True

end SessionWorld

end Chttp.Server
