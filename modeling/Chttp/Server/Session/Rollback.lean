import Chttp.Server.Session.Isolation

/-!
# What is left of a request which does not complete

A request begins, its handler edits the session, and then the request fails:
the cookie cannot be set, or the request is aborted, before or after it has
finished.  The request runs alone here, so what differs afterwards is its doing.
-/

namespace Chttp.Server

open Lib Relation

/-- The calls of a handler which change its session. -/
inductive SessionEdit where
  | set (key value : CString) (nowMs : UInt64) (random : RandomSource)
  | remove (key : CString)
  | clear
  | regenerate (nowMs : UInt64) (random : RandomSource)

namespace SessionEdit

/-- The time which a call reads, if it reads the clock. -/
def clock : SessionEdit → Option UInt64
  | .set _ _ nowMs _ => some nowMs
  | .remove _ => none
  | .clear => none
  | .regenerate nowMs _ => some nowMs

/-- The call asks for another identifier. -/
def regenerates : SessionEdit → Bool
  | .regenerate _ _ => true
  | _ => false

variable (state : SessionStore × SessionContext)

/-- One call. -/
def apply : SessionEdit → SessionStore × SessionContext
  | .set key value nowMs random =>
    (state.1.set state.2 key value nowMs random).2
  | .remove key => (state.1.remove state.2 key).2
  | .clear => (state.1.clear state.2).2
  | .regenerate nowMs random => (state.1.regenerate state.2 nowMs random).2

/-- All calls of a handler. -/
def applyAll (state : SessionStore × SessionContext) :
    List SessionEdit → SessionStore × SessionContext
  | [] => state
  | edit :: edits => applyAll (edit.apply state) edits

theorem apply_edits (edit : SessionEdit) :
    SessionStore.Edits state (edit.apply state) := by
  obtain ⟨store, context⟩ := state
  cases edit with
  | set key value nowMs random =>
    exact SessionStore.set_edits store context key value nowMs random
  | remove key => exact SessionStore.remove_edits store context key
  | clear => exact SessionStore.clear_edits store context
  | regenerate nowMs random =>
    exact SessionStore.regenerate_edits store context nowMs random

theorem applyAll_edits (edits : List SessionEdit) : ∀ state :
    SessionStore × SessionContext,
    SessionStore.Edits state (applyAll state edits) := by
  induction edits with
  | nil => exact fun _ => .refl
  | cons edit edits ih =>
    exact fun state => (apply_edits state edit).trans (ih _)

end SessionEdit

/-- How a request ends: whether it finishes, at which time and with which
outcome of setting the cookie, and whether it is aborted then. -/
structure SessionEnding where
  finish : Option (UInt64 × Status)
  abort : Bool
  deriving DecidableEq, Repr

namespace SessionEnding

variable (ending : SessionEnding) (store : SessionStore)
  (context : SessionContext)

/-- What finishing returns, and the state then. -/
def finished : Status × SessionStore × SessionContext :=
  match ending.finish with
  | none => (.ok, store, context)
  | some (nowMs, status) => store.requestFinish context nowMs status

/-- The store in the end. -/
def result : SessionStore :=
  if ending.abort then
    ((ending.finished store context).2.1.requestAbort
      (ending.finished store context).2.2).1
  else
    (ending.finished store context).2.1

/-- The request does not complete. -/
def Fails : Prop :=
  (ending.finished store context).1 ≠ .ok ∨ ending.abort = true

end SessionEnding

/-! ## While the handler runs -/

/-- A record is the one it was. -/
structure SessionRecord.Same (old record : SessionRecord) : Prop where
  used : old.used = true
  changes_eq : record.changes = old.changes
  id_eq : record.id = old.id
  entries_eq : record.entries = old.entries

theorem SessionRecord.renew_used (record : SessionRecord)
    (entries : SessionEntries)
    (expiresAtMs : UInt64) :
    (record.renew entries expiresAtMs).used = record.used :=
  rfl

namespace SessionStore

/-- Only the record which the request has created or renamed is new. -/
structure Pending (before : SessionStore) (first : SessionContext)
    (store : SessionStore) (context : SessionContext) : Prop where
  same : context.created = false → context.record = first.record
  valid : context.invalidated = false
  bound : context.created = true → context.record ≠ none
  tracks : ∀ index, context.record = some index →
    ∃ record, store.matching context = some (index, record)
  old : ∀ (index : Nat) (record : SessionRecord),
    store.records[index]? = some record → record.used = true →
      (context.created = true ∧ context.record = some index) ∨
        ∃ old, before.records[index]? = some old ∧ old.Same record
  advances : Advances before store
  new : ∀ (index : Nat) (old record : SessionRecord),
    context.created = true → context.record = some index →
      before.records[index]? = some old → old.used = true →
        store.records[index]? = some record → old.changes < record.changes

variable {store before : SessionStore} {index : Nat} {record : SessionRecord}
  {first : SessionContext} {state : SessionStore × SessionContext}

theorem matching_follow (present : store.records[index]? = some record)
    (used : record.used = true) (context : SessionContext) :
    store.matching (context.follow index record) = some (index, record) :=
  matching_of rfl present used rfl rfl

theorem Pending.unbound_old {context : SessionContext}
    (pending : Pending before first store context)
    (unbound : context.record = none)
    (present : store.records[index]? = some record)
    (used : record.used = true) :
    ∃ old, before.records[index]? = some old ∧ old.Same record := by
  refine (pending.old index record present used).resolve_left fun own => ?_
  cases unbound.symm.trans own.2

/-- A record is put in place of another, and is the own one from now on. -/
theorem Pending.put {before store : SessionStore}
    {first context context' : SessionContext}
    (pending : Pending before first store context) {index : Nat}
    {record record' : SessionRecord}
    (present : store.records[index]? = some record)
    (own : ∀ index', context.record = some index' → index' = index)
    (changes : record'.changes = record.changes + 1)
    (used : record'.used = true)
    (valid : context'.invalidated = false) (created : context'.created = true)
    (bound : context'.record = some index)
    (generation : record'.generation = context'.recordGeneration)
    (id : record'.id = context'.id) :
    Pending before first (store.put index record') context' where
  same uncreated := by cases created.symm.trans uncreated
  valid := valid
  bound _ := bound ▸ Option.some_ne_none index
  tracks index' bound' := by
    cases bound.symm.trans bound'
    exact ⟨record', matching_of bound (put_self present) used generation id⟩
  old index' found present' used' := by
    rcases of_put present' with ⟨rfl, rfl⟩ | ⟨other, there⟩
    · exact .inl ⟨created, bound⟩
    · rcases pending.old index' found there used' with ⟨-, own'⟩ | same
      · exact absurd (own index' own') other
      · exact .inr same
  advances := pending.advances.trans (.put present (.of_changes changes))
  new index' old found _ bound' there used' present' := by
    cases bound.symm.trans bound'
    cases (put_self present).symm.trans present'
    obtain ⟨record'', present'', becomes⟩ := pending.advances index old there
    cases present.symm.trans present''
    have grown := becomes.changes_le
    omega

/-- An edit leaves the request pending. -/
theorem Edit.pending {state' : SessionStore × SessionContext}
    (edit : Edit state state')
    (pending : Pending before first state.1 state.2) :
    Pending before first state'.1 state'.2 := by
  cases edit with
  | @expired store context nowMs unbound =>
    have uncreated : ¬ context.created = true :=
      fun created => pending.bound created unbound
    refine ⟨pending.same, pending.valid, pending.bound, ?_, ?_,
      pending.advances.trans (.expire _ nowMs), ?_⟩
    · intro index bound
      cases unbound.symm.trans bound
    · intro index record present used
      obtain ⟨old, there, rfl | ⟨rfl, -⟩⟩ := of_expire present
      · exact .inr (pending.unbound_old unbound there used)
      · cases used
    · exact fun _ _ _ created => absurd created uncreated
  | @opened store context index record id expiresAtMs unbound present unused
      fresh =>
      have placed := @Pending.put _ _ _ _
        (context.enter index (record.assign id expiresAtMs store.sessions))
        pending index record (record.assign id expiresAtMs store.sessions)
        present (fun index' bound => by cases unbound.symm.trans bound)
        rfl rfl rfl rfl rfl rfl rfl
      exact { placed with }
  | @renamed store context index record id expiresAtMs matches_ fresh =>
    obtain ⟨bound, present, used, -⟩ := matching_spec matches_
    exact pending.put present
      (fun index' bound' => Option.some.inj (bound'.symm.trans bound))
      rfl used pending.valid rfl rfl rfl rfl
  | wrote bound own => exact { pending with }

/-- Edits leave the request pending. -/
theorem Edits.pending {state' : SessionStore × SessionContext}
    (edits : Edits state state')
    (pending : Pending before first state.1 state.2) :
    Pending before first state'.1 state'.2 := by
  induction edits with
  | refl => exact pending
  | tail _ edit ih => exact edit.pending ih

/-- A request which has just begun. -/
structure Begun (state : SessionStore × SessionContext) : Prop where
  valid : state.2.invalidated = false
  uncreated : state.2.created = false
  tracks : ∀ index, state.2.record = some index →
    ∃ record, state.1.matching state.2 = some (index, record)

theorem requestBegin_begun (start : SessionStore) (cookie : Option Bytes)
    (nowMs : UInt64) : Begun (start.requestBegin cookie nowMs) := by
  have unbound : ∀ store : SessionStore,
      Begun (store, SessionContext.reset start.config) :=
    fun store => ⟨rfl, rfl, nofun⟩
  have bound : ∀ {store : SessionStore} {index : Nat}
    {record record' : SessionRecord},
      store.records[index]? = some record → record'.used = true →
        Begun (store.put index record',
          (SessionContext.reset start.config).follow index record') := by
    intro store index record record' present used
    refine ⟨rfl, rfl, fun index' bound => ?_⟩
    cases bound
    exact ⟨record', matching_follow (put_self present) used _⟩
  unfold requestBegin
  split_ifs
  · exact unbound start
  split
  case h_1 => exact unbound start
  case h_2 id =>
    split_ifs
    · dsimp only
      split
      case h_1 => exact unbound _
      case h_2 index record found =>
        obtain ⟨present, used, -⟩ := find_spec found
        exact bound present ((record.renew_used _ _).trans used)
    · exact unbound start

/-- A request which has just begun is pending. -/
theorem Begun.pending (begun : Begun state) :
    Pending state.1 state.2 state.1 state.2 := by
  have impossible : ¬ state.2.created = true := by
    rw [begun.uncreated]
    exact Bool.false_ne_true
  refine ⟨fun _ => rfl, begun.valid, fun created => absurd created impossible,
    begun.tracks, ?_, .refl _, fun _ _ _ created => absurd created impossible⟩
  exact fun index record present used =>
    .inr ⟨record, present, used, rfl, rfl, rfl⟩

/-! ## Records which are not concerned -/

theorem create_keeps (present : store.records[index]? = some record)
    (used : record.used = true)
    (context : SessionContext) (nowMs : UInt64) (random : RandomSource) :
    (store.create context nowMs random).2.1.records[index]? = some record ∨
      record.expiresAtMs ≤ nowMs := by
  obtain ⟨found, there, rfl | ⟨rfl, -, expired⟩⟩ :=
    @expire_of _ _ _ nowMs present
  · rcases create_cases store context nowMs random with
      ⟨status, -, equal⟩ | ⟨index', record', id, expiresAtMs, present', unused,
        -, equal⟩
    · rw [equal]
      exact .inl there
    have distinct : index' ≠ index := by
      rintro rfl
      cases there.symm.trans present'
      cases used.symm.trans unused
    rw [equal]
    exact .inl ((put_other distinct).trans there)
  · exact .inr expired

end SessionStore

namespace SessionEdit

open SessionStore

/-- A call loses only expired records and the one it renames. -/
theorem apply_keeps {state : SessionStore × SessionContext} {index : Nat}
    {record : SessionRecord}
    (present : state.1.records[index]? = some record)
    (used : record.used = true) (edit : SessionEdit) :
    (edit.apply state).1.records[index]? = some record ∨
      (∃ nowMs, edit.clock = some nowMs ∧ record.expiresAtMs ≤ nowMs) ∨
      (edit.regenerates = true ∧ state.2.record = some index) := by
  obtain ⟨store, context⟩ := state
  cases edit with
  | set key value nowMs random =>
    change (store.set context key value nowMs random).2.1.records[index]? =
      some record ∨ _
    unfold SessionStore.set
    split_ifs with invalid long unbound
    · exact .inl present
    · exact .inl present
    · rcases create_keeps present used context nowMs random with kept | expired
      · refine .inl ?_
        split
        case h_1 equal =>
          rw [equal] at kept
          rw [write_store]
          exact kept
        case h_2 => exact kept
      · exact .inr (.inl ⟨nowMs, rfl, expired⟩)
    · exact .inl ((write_store store context key value).symm ▸ present)
  | remove key => exact .inl ((remove_store store context key).symm ▸ present)
  | clear => exact .inl ((clear_store store context).symm ▸ present)
  | regenerate nowMs random =>
    by_cases own : context.record = some index
    · exact .inr (.inr ⟨rfl, own⟩)
    by_cases unbound : context.record = none
    · change (store.regenerate context nowMs random).2.1.records[index]? =
        some record ∨ _
      unfold SessionStore.regenerate
      rw [if_pos unbound]
      split_ifs
      · exact .inl present
      · rcases create_keeps present used context nowMs random with
          kept | expired
        · exact .inl kept
        · exact .inr (.inl ⟨nowMs, rfl, expired⟩)
    · rcases regenerate_spares store unbound nowMs random
        index with same | ⟨found, matches_⟩
      · exact .inl (same.trans present)
      · exact absurd (matching_spec matches_).1 own

end SessionEdit

open SessionEdit (applyAll applyAll_edits)

/-! ## The end of the request -/

/-- The expired records, and the one which the request has renamed. -/
def SessionEdit.Lost (first : SessionContext) (edits : List SessionEdit)
    (index : Nat) (old : SessionRecord) : Prop :=
  (∃ edit ∈ edits, ∃ nowMs, edit.clock = some nowMs ∧ old.expiresAtMs ≤ nowMs) ∨
    (first.record = some index ∧ ∃ edit ∈ edits, edit.regenerates = true)

/-- Nothing is left of the request, and nothing else is lost. -/
structure RolledBack (before after : SessionStore)
    (Lost : Nat → SessionRecord → Prop) : Prop where
  nothing_new : ∀ (index : Nat) (record : SessionRecord),
    after.records[index]? = some record → record.used = true →
      ∃ old, before.records[index]? = some old ∧ old.Same record
  nothing_lost : ∀ (index : Nat) (old : SessionRecord),
    before.records[index]? = some old → old.used = true → ¬ Lost index old →
      ∃ record, after.records[index]? = some record ∧ record.used = true ∧
        record.changes = old.changes

namespace SessionStore

variable {index : Nat} {record : SessionRecord}

theorem applyAll_keeps {before : SessionStore} {first : SessionContext}
    {old : SessionRecord}
    (there : before.records[index]? = some old) (used : old.used = true)
    {edits : List SessionEdit} :
    ∀ {state : SessionStore × SessionContext},
      Pending before first state.1 state.2 →
      state.1.records[index]? = some old →
        (applyAll state edits).1.records[index]? = some old ∨
          SessionEdit.Lost first edits index old := by
  induction edits with
  | nil => exact fun _ present => .inl present
  | cons edit edits ih =>
    intro state pending present
    rcases SessionEdit.apply_keeps present used edit with
      kept | ⟨nowMs, clock, expired⟩ | ⟨regenerates, own⟩
    · have pending' :=
        Edits.pending (SessionEdit.apply_edits state edit) pending
      rcases ih pending' kept with kept' | lost | ⟨bound, other, member, again⟩
      · exact .inl kept'
      · obtain ⟨other, member, expired⟩ := lost
        exact .inr (.inl ⟨other, List.mem_cons_of_mem _ member, expired⟩)
      · exact .inr (.inr ⟨bound, other, List.mem_cons_of_mem _ member, again⟩)
    · exact .inr (.inl ⟨edit, List.mem_cons_self, nowMs, clock, expired⟩)
    -- A record which the request has created is not an old one.
    have uncreated : state.2.created = false := by
      refine Bool.eq_false_iff.mpr fun created => ?_
      exact absurd (pending.new index old old created own there used present)
        (lt_irrefl _)
    refine .inr (.inr ⟨?_, edit, List.mem_cons_self, regenerates⟩)
    rw [← pending.same uncreated]
    exact own

section

variable {before store : SessionStore} {first context : SessionContext}
  {Lost : Nat → SessionRecord → Prop}

/-- What the handler has kept. -/
def Keeps (before store : SessionStore) (Lost : Nat → SessionRecord → Prop) :
    Prop :=
  ∀ (index : Nat) (old : SessionRecord),
    before.records[index]? = some old → old.used = true → ¬ Lost index old →
      store.records[index]? = some old

section

variable (pending : Pending before first store context)
  (keeps : Keeps before store Lost)

include pending keeps

theorem Pending.rolledBack (uncreated : context.created = false) :
    RolledBack before store Lost where
  nothing_new index record present used := by
    refine (pending.old index record present used).resolve_left fun own => ?_
    cases uncreated.symm.trans own.1
  nothing_lost index old there used kept :=
    ⟨old, keeps index old there used kept, used, rfl⟩

theorem Pending.rolledBack_clear (created : context.created = true)
    {cleared : SessionRecord}
    (matches_ : store.matching context = some (index, record))
    (unused : cleared.used = false) :
    RolledBack before (store.put index cleared) Lost where
  nothing_new index' found present used := by
    rcases of_put present with ⟨rfl, rfl⟩ | ⟨other, present'⟩
    · cases unused.symm.trans used
    · refine (pending.old index' found present' used).resolve_left fun own => ?_
      exact other
        (Option.some.inj (own.2.symm.trans (matching_spec matches_).1))
  nothing_lost index' old there used kept := by
    have present := keeps index' old there used kept
    obtain ⟨bound, -⟩ := matching_spec matches_
    have distinct : index ≠ index' := by
      intro same
      subst same
      exact absurd (pending.new index old old created bound there used present)
        (lt_irrefl _)
    exact ⟨old, (put_other distinct).trans present, used, rfl⟩

/-- A renewed record is rolled back exactly if nothing was changed. -/
theorem Pending.rolledBack_renew_iff
    (matches_ : store.matching context = some (index, record))
    (entries : SessionEntries) (expiresAtMs : UInt64) :
    RolledBack before (store.put index (record.renew entries expiresAtMs))
      Lost ↔
      context.created = false ∧ entries = record.entries := by
  obtain ⟨bound, present, used, -⟩ := matching_spec matches_
  constructor
  · intro rolledBack
    obtain ⟨old, there, same⟩ :=
      rolledBack.nothing_new index _ (put_self present) used
    have changes : record.changes = old.changes := same.changes_eq
    have uncreated : context.created = false := by
      refine Bool.eq_false_iff.mpr fun created => ?_
      have grown :=
        pending.new index old record created bound there same.used present
      omega
    refine ⟨uncreated, ?_⟩
    obtain ⟨old', there', same'⟩ :=
      (pending.rolledBack keeps uncreated).nothing_new index record present used
    cases there.symm.trans there'
    exact (same.entries_eq : entries = _).trans same'.entries_eq.symm
  rintro ⟨uncreated, rfl⟩
  have kept := pending.rolledBack keeps uncreated
  constructor
  · intro index' found present' used'
    rcases of_put present' with ⟨rfl, rfl⟩ | ⟨-, there⟩
    · obtain ⟨old, there, same⟩ := kept.nothing_new index' record present used
      exact ⟨old, there, same.used, same.changes_eq, same.id_eq,
        same.entries_eq⟩
    · exact kept.nothing_new index' found there used'
  intro index' old there used' notLost
  by_cases same : index = index'
  · subst same
    obtain ⟨found, present', -, changes⟩ :=
      kept.nothing_lost index old there used' notLost
    cases present.symm.trans present'
    exact ⟨_, put_self present, used, changes⟩
  · obtain ⟨found, present', used'', changes⟩ :=
      kept.nothing_lost index' old there used' notLost
    exact ⟨found, (put_other same).trans present', used'', changes⟩

end

theorem records_ne_nil (matches_ : store.matching context =
    some (index, record)) :
    store.records ≠ [] :=
  List.ne_nil_of_mem (List.mem_of_getElem? (matching_spec matches_).2.1)

theorem requestFinish_unbound (valid : context.invalidated = false)
    (unbound : context.record = none) (nowMs : UInt64) (status : Status) :
    store.requestFinish context nowMs status = (.ok, store, context) := by
  have nothing : store.commit context nowMs = (.nothing, store, context) := by
    have valid' : ¬ context.invalidated = true := by
      rw [valid]
      exact Bool.false_ne_true
    rw [commit, if_neg valid', if_pos unbound]
    exact ite_self _
  rw [requestFinish, nothing]
  rfl

theorem requestFinish_bound (valid : context.invalidated = false)
    (matches_ : store.matching context = some (index, record)) (nowMs : UInt64)
    (status : Status) :
    store.requestFinish context nowMs status =
      (store.put index
        (record.renew (context.written record.entries)
          (store.config.expiry nowMs))).publish context status
        (.identifier
          (record.renew (context.written record.entries)
            (store.config.expiry nowMs)).id) := by
  have valid' : ¬ context.invalidated = true := by
    rw [valid]
    exact Bool.false_ne_true
  have bound : ¬ context.record = none := by
    rw [(matching_spec matches_).1]
    exact Option.some_ne_none index
  rw [requestFinish, commit, if_neg (records_ne_nil matches_), if_neg valid',
    if_neg bound, matches_]

theorem requestAbort_unchanged (nothing : context.created = false ∨
    context.record = none) :
    (store.requestAbort context).1 = store := by
  unfold requestAbort discardCreated
  rw [if_pos nothing]
  split_ifs <;> rfl

section

variable (created : context.created = true)
  (matches_ : store.matching context = some (index, record))

include created matches_

theorem discardCreated_created :
    store.discardCreated context =
      (store.put index record.clear,
        { context.unbind with created := false, dirty := false }) := by
  have bound : ¬ (context.created = false ∨ context.record = none) := by
    rw [created, (matching_spec matches_).1]
    exact fun either => either.elim nofun nofun
  rw [discardCreated, if_neg bound, clearMatching, matches_]

theorem requestAbort_created :
    (store.requestAbort context).1 = store.put index record.clear := by
  rw [requestAbort, if_neg (records_ne_nil matches_),
    discardCreated_created created matches_]

end

theorem put_put (index : Nat) (record record' : SessionRecord) :
    (store.put index record).put index record' = store.put index record' := by
  simp only [put, List.set_set]

end

end SessionStore

/-- The state before the end of a request which leaves nothing behind: it does
not finish, or finishing neither publishes a new session nor writes anything
that differs, or the session is new and its cookie cannot be set. -/
def SessionEnding.Reverts (ending : SessionEnding) (store : SessionStore)
    (context : SessionContext) : Prop :=
  ∀ nowMs status, ending.finish = some (nowMs, status) →
    ∀ index record, store.matching context = some (index, record) →
      (status ≠ .ok ∧ context.created = true) ∨
        (context.created = false ∧
          context.written record.entries = record.entries)

namespace SessionStore

variable {before store : SessionStore} {first context : SessionContext}
  {Lost : Nat → SessionRecord → Prop} {ending : SessionEnding}

theorem Pending.rolledBack_of_abort
    (pending : Pending before first store context)
    (keeps : Keeps before store Lost) :
    RolledBack before (store.requestAbort context).1 Lost := by
  cases created : context.created with
  | false =>
    rw [requestAbort_unchanged (.inl created)]
    exact pending.rolledBack keeps created
  | true =>
    obtain ⟨index, bound⟩ :=
      Option.ne_none_iff_exists'.mp (pending.bound created)
    obtain ⟨record, matches_⟩ := pending.tracks index bound
    rw [requestAbort_created created matches_]
    exact pending.rolledBack_clear keeps created matches_ rfl

/-- The store after a request which has finished, with or without success. -/
theorem Pending.rolledBack_of_finish
    (pending : Pending before first store context)
    (keeps : Keeps before store Lost) {status : Status} {index : Nat}
    {record : SessionRecord}
    {expiresAtMs : UInt64}
    (matches_ : store.matching context = some (index, record))
    (finished : ending.finished store context =
      (store.put index
        (record.renew (context.written record.entries) expiresAtMs)).publish
        context status
        (.identifier
          (record.renew (context.written record.entries) expiresAtMs).id))
    (fails : ending.Fails store context) :
    RolledBack before (ending.result store context) Lost ↔
      (status ≠ .ok ∧ context.created = true) ∨
        (context.created = false ∧
          context.written record.entries = record.entries) := by
  have iff := pending.rolledBack_renew_iff keeps matches_
    (context.written record.entries) expiresAtMs
  obtain ⟨bound, present, used, generation, id⟩ := matching_spec matches_
  have rematches : (store.put index (record.renew
      (context.written record.entries) expiresAtMs)).matching context =
      some (index, record.renew (context.written record.entries) expiresAtMs) :=
    matching_of bound (put_self present) used generation id
  generalize record.renew (context.written record.entries) expiresAtMs =
    renewed at finished iff rematches
  rw [SessionEnding.result, finished]
  rw [SessionEnding.Fails, finished] at fails
  by_cases published : status = .ok
  · -- The flags are cleared, so that an abort finds nothing to discard.
    have outcome : (store.put index renewed).publish context status
      (.identifier renewed.id) =
        (.ok, store.put index renewed,
          { context with created := false, dirty := false }) :=
      if_pos published
    rw [outcome] at fails ⊢
    have aborted : ending.abort = true :=
      fails.resolve_left fun failed => failed rfl
    rw [if_pos aborted, requestAbort_unchanged (.inl rfl), iff]
    exact ⟨.inr, fun either => either.resolve_left fun failed =>
      failed.1 published⟩
  cases created : context.created with
  | false =>
    have outcome : (store.put index renewed).publish context status
      (.identifier renewed.id) =
        (status, store.put index renewed, context) := by
      rw [publish, if_neg published, created]
      rfl
    have unchanged : (if ending.abort = true then
        ((store.put index renewed).requestAbort context).1
      else store.put index renewed) = store.put index renewed := by
      rw [requestAbort_unchanged (.inl created)]
      exact ite_self _
    rw [outcome, unchanged, iff, created]
    exact ⟨.inr, fun either => either.resolve_left fun failed => by
      cases failed.2⟩
  | true =>
    have outcome : (store.put index renewed).publish context status
      (.identifier renewed.id) =
        (status, store.put index renewed.clear,
          { context.unbind with created := false, dirty := false }) := by
      rw [publish, if_neg published, created, if_pos rfl,
        discardCreated_created created rematches, put_put]
    have unchanged : (if ending.abort = true then
        ((store.put index renewed.clear).requestAbort
          { context.unbind with created := false, dirty := false }).1
      else store.put index renewed.clear) = store.put index renewed.clear := by
      rw [requestAbort_unchanged (.inl rfl)]
      exact ite_self _
    rw [outcome, unchanged]
    exact ⟨fun _ => .inl ⟨published, rfl⟩, fun _ =>
      pending.rolledBack_clear keeps created matches_ rfl⟩

end SessionStore

open SessionStore in
/-- What a request which does not complete leaves behind. -/
theorem session_rolledBack_iff {start : SessionStore} {cookie : Option Bytes}
    {nowMs : UInt64} {edits : List SessionEdit} {ending : SessionEnding}
    (fails : ending.Fails (applyAll (start.requestBegin cookie nowMs) edits).1
      (applyAll (start.requestBegin cookie nowMs) edits).2) :
    RolledBack (start.requestBegin cookie nowMs).1
        (ending.result (applyAll (start.requestBegin cookie nowMs) edits).1
          (applyAll (start.requestBegin cookie nowMs) edits).2)
        (SessionEdit.Lost (start.requestBegin cookie nowMs).2 edits) ↔
      ending.Reverts (applyAll (start.requestBegin cookie nowMs) edits).1
        (applyAll (start.requestBegin cookie nowMs) edits).2 := by
  have begun := (requestBegin_begun start cookie nowMs).pending
  generalize start.requestBegin cookie nowMs = first at *
  have pending := Edits.pending (applyAll_edits edits first) begun
  have keeps : Keeps first.1 (applyAll first edits).1
      (SessionEdit.Lost first.2 edits) := by
    intro index old there used kept
    exact (applyAll_keeps there used begun there).resolve_right kept
  generalize applyAll first edits = state at *
  obtain ⟨store, context⟩ := state
  dsimp only at pending keeps fails ⊢
  have unfinished : ending.finished store context = (.ok, store, context) →
      RolledBack first.1 (ending.result store context)
        (SessionEdit.Lost first.2 edits) := by
    intro finished
    rw [SessionEnding.Fails, finished] at fails
    rw [SessionEnding.result,
      if_pos (fails.resolve_left fun failed => failed rfl), finished]
    exact pending.rolledBack_of_abort keeps
  cases finish : ending.finish with
  | none =>
    refine iff_of_true (unfinished (by rw [SessionEnding.finished, finish])) ?_
    intro nowMs status impossible
    cases finish.symm.trans impossible
  | some outcome =>
    obtain ⟨finishMs, status⟩ := outcome
    cases bound : context.record with
    | none =>
      have finished : ending.finished store context =
          (.ok, store, context) := by
        rw [SessionEnding.finished, finish]
        exact requestFinish_unbound pending.valid bound finishMs status
      refine iff_of_true (unfinished finished) fun _ _ _ index record
        matches_ => ?_
      cases bound.symm.trans (matching_spec matches_).1
    | some index =>
      obtain ⟨record, matches_⟩ := pending.tracks index bound
      have finished :=
        requestFinish_bound pending.valid matches_ finishMs status
      rw [pending.rolledBack_of_finish keeps matches_
        (by rw [SessionEnding.finished, finish]; exact finished) fails]
      constructor
      · intro condition nowMs' status' finish' index' record' matches'
        cases finish.symm.trans finish'
        cases matches_.symm.trans matches'
        exact condition
      · exact fun reverts => reverts finishMs status finish index record
          matches_

open SessionWorld

/-- A store with one session, which has an empty entry for a key. -/
def signedIn : SessionStore :=
  let created :=
    applyAll ((SessionStore.init smallConfig 1).requestBegin none 0)
      [.set shortKey CString.empty 0 constantSource]
  (created.1.requestFinish created.2 0 .ok).2.1

/-- Another random source. -/
def otherSource : RandomSource := fun _ => (.ok, Vector.replicate 16 1)

/-- The state of a request for that session after some edits. -/
def handled (edits : List SessionEdit) : SessionStore × SessionContext :=
  applyAll (signedIn.requestBegin (some constantId) 0) edits

/-- A renamed session outlives an abort after it has finished, and entries are
written though the cookie cannot be set. -/
theorem session_not_rolledBack :
    (∃ ending : SessionEnding,
      ending.Fails (handled [.regenerate 0 otherSource]).1
          (handled [.regenerate 0 otherSource]).2 ∧
        ¬ RolledBack (signedIn.requestBegin (some constantId) 0).1
          (ending.result (handled [.regenerate 0 otherSource]).1
            (handled [.regenerate 0 otherSource]).2)
          (SessionEdit.Lost (signedIn.requestBegin (some constantId) 0).2
            [.regenerate 0 otherSource])) ∧
      ∃ ending : SessionEnding,
        ending.Fails (handled [.set shortKey shortKey 0 otherSource]).1
            (handled [.set shortKey shortKey 0 otherSource]).2 ∧
          ¬ RolledBack (signedIn.requestBegin (some constantId) 0).1
            (ending.result (handled [.set shortKey shortKey 0 otherSource]).1
              (handled [.set shortKey shortKey 0 otherSource]).2)
            (SessionEdit.Lost (signedIn.requestBegin (some constantId) 0).2
              [.set shortKey shortKey 0 otherSource]) := by
  have before : (signedIn.requestBegin (some constantId) 0).1.records[0]? =
      some ⟨true, constantId, 1000, 1, [some ⟨shortKey, CString.empty, 0⟩], 0,
        1⟩ := by
    decide +kernel
  constructor
  · refine ⟨⟨some (0, .ok), true⟩, .inr rfl, fun rolledBack => ?_⟩
    obtain ⟨old, there, same⟩ := rolledBack.nothing_new 0
      ⟨true, sessionIdText (Vector.replicate 16 1), 1000, 2,
        [some ⟨shortKey, CString.empty, 0⟩], 0, 2⟩
      (by decide +kernel) rfl
    cases before.symm.trans there
    cases same.changes_eq
  refine ⟨⟨some (0, .emsgsize), true⟩, .inr rfl, fun rolledBack => ?_⟩
  obtain ⟨old, there, same⟩ := rolledBack.nothing_new 0
    ⟨true, constantId, 1000, 1, [some ⟨shortKey, shortKey, 0⟩], 0, 1⟩
    (by decide +kernel) rfl
  cases before.symm.trans there
  cases same.entries_eq

/-- A renamed session is discarded if the request is aborted before it has
finished. -/
theorem session_rolledBack_iff_abort :
    RolledBack (signedIn.requestBegin (some constantId) 0).1
    (SessionEnding.result ⟨none, true⟩
      (applyAll (signedIn.requestBegin (some constantId) 0)
        [.regenerate 0 otherSource]).1
      (applyAll (signedIn.requestBegin (some constantId) 0)
        [.regenerate 0 otherSource]).2)
    (SessionEdit.Lost (signedIn.requestBegin (some constantId) 0).2
      [.regenerate 0 otherSource]) := by
  refine (session_rolledBack_iff (.inr rfl)).mpr fun _ _ impossible => ?_
  cases impossible

end Chttp.Server
