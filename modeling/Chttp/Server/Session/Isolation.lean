import Chttp.Server.Session.Turns

/-!
# Sessions are isolated from each other

A request which is bound to a record finds out by generation and identifier
whether the record still belongs to its session.  Generations are 32 bits and
skip zero, so the check is safe as long as the record changes hands fewer than
`2 ^ 32 - 1` times while the request is bound to it.
-/

namespace Chttp.Server

open Lib Relation

/-! ## Generations -/

/-- The generation of a record which has changed hands so often. -/
def generationAt : Nat → UInt32
  | 0 => 0
  | changes + 1 => generationNext (generationAt changes)

/-- How many generations there are. -/
def generationPeriod : Nat := 2 ^ 32 - 1

theorem toNat_generationNext (generation : UInt32) :
    (generationNext generation).toNat =
    if generation.toNat = generationPeriod then 1
    else generation.toNat + 1 := by
  have bound := generation.toNat_lt
  have sum : (generation + 1).toNat = (generation.toNat + 1) % 2 ^ 32 := by
    rw [UInt32.toNat_add, UInt32.toNat_one]
  have wraps : generation + 1 = 0 ↔ generation.toNat = generationPeriod := by
    rw [← UInt32.toNat_inj, sum, UInt32.toNat_zero, generationPeriod]
    omega
  unfold generationNext
  by_cases last : generation.toNat = generationPeriod
  · rw [if_pos last, if_pos (wraps.mpr last)]
    rfl
  · rw [if_neg last, if_neg fun zero => last (wraps.mp zero), sum]
    rw [generationPeriod] at last
    omega

theorem toNat_generationAt (changes : Nat) :
    (generationAt (changes + 1)).toNat = changes % generationPeriod + 1 := by
  induction changes with
  | zero => rfl
  | succ changes ih =>
    rw [generationAt, toNat_generationNext, ih]
    unfold generationPeriod
    split_ifs <;> omega

theorem generationAt_injective {first second : Nat} (positive : 0 < first)
    (ordered : first ≤ second) (close : second < first + generationPeriod)
    (same : generationAt first = generationAt second) : first = second := by
  obtain ⟨first, rfl⟩ := Nat.exists_eq_succ_of_ne_zero positive.ne'
  obtain ⟨second, rfl⟩ :=
    Nat.exists_eq_succ_of_ne_zero (positive.trans_le ordered).ne'
  have equal := congrArg UInt32.toNat same
  rw [toNat_generationAt, toNat_generationAt] at equal
  unfold generationPeriod at equal close
  omega

/-! ## What keeps holding of the store and of a context -/

/-- What may become of a record while others use the store. -/
structure SessionRecord.Becomes (record record' : SessionRecord) : Prop where
  changes_le : record.changes ≤ record'.changes
  same : record'.changes = record.changes → record'.used = record.used ∧
    record'.id = record.id ∧
      record'.session = record.session

variable (record : SessionRecord)

namespace SessionStore

/-- The generation of a record counts how often it changed hands. -/
def Counted : Prop := record.generation = generationAt record.changes ∧
    (record.used = true → 0 < record.changes)

/-- What holds of the store in every run. -/
structure Sound (store : SessionStore) : Prop where
  distinct : ∀ {index index' : Nat} {record record' : SessionRecord},
    store.records[index]? = some record →
    store.records[index']? = some record' →
    record.used = true → record'.used = true → record.id = record'.id →
    index = index'
  counted : ∀ {index : Nat} {record : SessionRecord},
    store.records[index]? = some record → Counted record

/-- What holds of a context in every run. -/
def Follows (store : SessionStore) (context : SessionContext) : Prop :=
  ∀ index, context.record = some index →
    ∃ record, store.records[index]? = some record ∧ 0 < context.changes ∧
      context.changes ≤ record.changes ∧
      context.recordGeneration = generationAt context.changes ∧
      (record.changes = context.changes →
        record.used = true ∧ record.id = context.id ∧
          record.session = context.session)

/-- The records of one store have become those of another. -/
def Advances (store store' : SessionStore) : Prop :=
  ∀ (index : Nat) (record : SessionRecord),
    store.records[index]? = some record → ∃ record',
    store'.records[index]? = some record' ∧
        record.Becomes record'

end SessionStore

namespace SessionRecord

theorem Becomes.refl : record.Becomes record :=
  ⟨le_rfl, fun _ => ⟨rfl, rfl, rfl⟩⟩

theorem Becomes.of_changes {record record' : SessionRecord}
    (changes : record'.changes = record.changes + 1) : record.Becomes record' :=
  ⟨by omega, fun same => by omega⟩

theorem becomes_renew (entries : SessionEntries) (expiresAtMs : UInt64) :
    record.Becomes (record.renew entries expiresAtMs) :=
  ⟨le_rfl, fun _ => ⟨rfl, rfl, rfl⟩⟩

end SessionRecord

namespace SessionStore

variable {context : SessionContext} {store : SessionStore} {index : Nat}
  {record : SessionRecord}
  {before after : SessionStore × SessionContext}

section

variable {store : SessionStore} {index : Nat} {record record' : SessionRecord}

theorem put_self (present : store.records[index]? = some record) :
    (store.put index record').records[index]? = some record' := by
  obtain ⟨bound, -⟩ := List.getElem?_eq_some_iff.mp present
  exact List.getElem?_set_self bound

theorem put_other {index' : Nat} (distinct : index ≠ index') :
    (store.put index record').records[index']? = store.records[index']? :=
  List.getElem?_set_ne distinct

theorem of_put {index' : Nat} {found : SessionRecord}
    (present : (store.put index record').records[index']? = some found) :
    (index' = index ∧ found = record') ∨
      (index' ≠ index ∧ store.records[index']? = some found) := by
  by_cases same : index = index'
  · subst same
    refine .inl ⟨rfl, ?_⟩
    obtain ⟨bound, equal⟩ := List.getElem?_eq_some_iff.mp present
    exact equal.symm.trans (List.getElem_set_self _)
  · exact .inr ⟨Ne.symm same, put_other same ▸ present⟩

theorem of_expire {nowMs : UInt64} {found : SessionRecord}
    (present : (store.expire nowMs).records[index]? = some found) :
    ∃ old, store.records[index]? = some old ∧
      (found = old ∨
        (found = old.clear ∧ old.used = true ∧ old.expiresAtMs ≤ nowMs)) := by
  obtain ⟨old, before, equal⟩ :=
    Option.map_eq_some_iff.mp (List.getElem?_map ▸ present)
  refine ⟨old, before, ?_⟩
  split_ifs at equal with expired
  · exact .inr ⟨equal.symm, expired⟩
  · exact .inl equal.symm

theorem expire_of {nowMs : UInt64}
    (present : store.records[index]? = some record) :
    ∃ found, (store.expire nowMs).records[index]? = some found ∧
      (found = record ∨
        (found = record.clear ∧ record.used = true ∧
          record.expiresAtMs ≤ nowMs)) := by
  have mapped : (store.expire nowMs).records[index]? =
      store.records[index]?.map _ :=
    List.getElem?_map
  rw [present, Option.map_some] at mapped
  refine ⟨_, mapped, ?_⟩
  split_ifs with expired
  · exact .inr ⟨rfl, expired⟩
  · exact .inl rfl

theorem Advances.refl (store : SessionStore) : Advances store store :=
  fun _ record present => ⟨record, present, .refl record⟩

/-- A store advances as one of its records does. -/
theorem Advances.put (present : store.records[index]? = some record)
    (becomes : record.Becomes record') :
    Advances store (store.put index record') := by
  intro index' other before
  by_cases same : index = index'
  · subst same
    rw [present] at before
    cases before
    exact ⟨record', put_self present, becomes⟩
  · exact ⟨other, (put_other same).trans before, .refl other⟩

theorem Advances.expire (store : SessionStore) (nowMs : UInt64) :
    Advances store (store.expire nowMs) := by
  intro index record present
  obtain ⟨found, after, rfl | ⟨rfl, -⟩⟩ := expire_of present
  · exact ⟨_, after, .refl _⟩
  · exact ⟨_, after, .of_changes rfl⟩

/-- A context follows a store which advances. -/
theorem Follows.advance {store' : SessionStore}
    (follows : store.Follows context)
    (advances : Advances store store') : store'.Follows context := by
  intro index bound
  obtain ⟨record, present, positive, le, generation, same⟩ :=
    follows index bound
  obtain ⟨record', present', becomes⟩ := advances index record present
  refine ⟨record', present', positive, le.trans becomes.changes_le, generation,
    fun equal => ?_⟩
  have unchanged : record'.changes = record.changes := by
    have grown := becomes.changes_le
    omega
  obtain ⟨used, id, session⟩ := becomes.same unchanged
  obtain ⟨used', id', session'⟩ := same (unchanged.symm.trans equal)
  exact ⟨used.trans used', id.trans id', session.trans session'⟩

theorem Follows.of_unbound (unbound : context.record = none) :
    store.Follows context := by
  intro index bound
  rw [unbound] at bound
  cases bound

theorem Follows.of_bind (present : store.records[index]? = some record)
    (used : record.used = true) (counted : Counted record)
    (bound : context.record = some index)
    (changes : context.changes = record.changes)
    (generation : context.recordGeneration = record.generation)
    (id : context.id = record.id)
    (session : context.session = record.session) : store.Follows context := by
  intro index' bound'
  rw [bound] at bound'
  cases bound'
  refine ⟨record, present, changes ▸ counted.2 used, changes.le, ?_, ?_⟩
  · rw [generation, changes, counted.1]
  · exact fun _ => ⟨used, id.symm, session.symm⟩

/-- A change with the next generation is counted. -/
theorem Counted.next (counted : Counted record)
    (generation : record'.generation = generationNext record.generation)
    (changes : record'.changes = record.changes + 1) : Counted record' := by
  refine ⟨?_, fun _ => changes ▸ Nat.succ_pos _⟩
  rw [generation, changes, counted.1, generationAt]

theorem idExists_false {id : Bytes} (fresh : store.idExists id = false)
    (present : store.records[index]? = some record)
    (used : record.used = true) : record.id ≠ id := by
  intro same
  have member := List.mem_of_getElem? present
  have absent := List.any_eq_false.mp fresh record member
  exact absent (by simp [used, same])

/-- A counted record with an id of its own keeps the store sound. -/
theorem Sound.put (sound : store.Sound) (counted : Counted record')
    (alone : record'.used = true → ∀ {index' other},
      index' ≠ index → store.records[index']? = some other →
        other.used = true → other.id ≠ record'.id) :
    (store.put index record').Sound where
  distinct := by
    intro i j a b at_i at_j used used' same
    rcases of_put at_i with ⟨rfl, rfl⟩ | ⟨other_i, before_i⟩
    · rcases of_put at_j with ⟨rfl, rfl⟩ | ⟨other_j, before_j⟩
      · rfl
      · exact absurd same.symm (alone used other_j before_j used')
    · rcases of_put at_j with ⟨rfl, rfl⟩ | ⟨other_j, before_j⟩
      · exact absurd same (alone used' other_i before_i used)
      · exact sound.distinct before_i before_j used used' same
  counted := by
    intro i a at_i
    rcases of_put at_i with ⟨rfl, rfl⟩ | ⟨-, before⟩
    · exact counted
    · exact sound.counted before

/-- Expiry keeps the store sound. -/
theorem Sound.expire (sound : store.Sound) (nowMs : UInt64) :
    (store.expire nowMs).Sound where
  distinct := by
    intro i j a b at_i at_j used used' same
    obtain ⟨old, before, rfl | ⟨rfl, -⟩⟩ := of_expire at_i
    · obtain ⟨old', before', rfl | ⟨rfl, -⟩⟩ := of_expire at_j
      · exact sound.distinct before before' used used' same
      · cases used'
    · cases used
  counted := by
    intro i a at_i
    obtain ⟨old, before, rfl | ⟨rfl, -⟩⟩ := of_expire at_i
    · exact sound.counted before
    · exact (sound.counted before).next rfl rfl

end

/-! ## Every turn -/

/-- The context's record has not changed hands for a whole period. -/
def Timely (store : SessionStore) (context : SessionContext) : Prop :=
  ∀ (index : Nat) (record : SessionRecord), context.record = some index →
    store.records[index]? = some record →
      record.changes < context.changes + generationPeriod

/-- The entries come from the own session. -/
def Tagged (session : Nat) (entries : SessionEntries) : Prop :=
  ∀ entry, some entry ∈ entries → entry.session = session

/-- Entries stay in their session. -/
structure Labelled (store : SessionStore) : Prop where
  records : ∀ {index : Nat} {record : SessionRecord},
    store.records[index]? = some record → record.used = true →
      Tagged record.session record.entries

/-- The snapshot is of the own session. -/
def Owns (context : SessionContext) : Prop :=
  context.record ≠ none → Tagged context.session context.snapshot

theorem tagged_clear (session : Nat) (entries : SessionEntries) :
    Tagged session entries.clear := by
  intro entry member
  obtain ⟨_, _, impossible⟩ := List.mem_map.mp member
  cases impossible

theorem unchanged_of_matching (sound : store.Sound)
    (follows : store.Follows context)
    (timely : store.Timely context)
    (matches_ : store.matching context = some (index, record)) :
    record.changes = context.changes ∧ record.session = context.session := by
  obtain ⟨bound, present, -, generation, -⟩ := matching_spec matches_
  obtain ⟨record', present', positive, le, generation', own⟩ :=
    follows index bound
  rw [present] at present'
  cases present'
  have same : record.changes = context.changes := by
    refine (generationAt_injective positive le
      (timely index record bound present) ?_).symm
    rw [← generation', ← generation, (sound.counted present).1]
  exact ⟨same, (own same).2.2⟩

/-- One turn keeps what holds in every run. -/
theorem Turn.sound (turn : Turn before after) (sound : before.1.Sound)
    (follows : before.1.Follows before.2) :
    after.1.Sound ∧ after.1.Follows after.2 ∧ Advances before.1 after.1 := by
  cases turn with
  | edit edit =>
    cases edit with
    | expired nowMs unbound =>
      exact ⟨sound.expire nowMs, .of_unbound unbound, .expire _ nowMs⟩
    | @opened store context index record id expiresAtMs unbound present unused
        fresh =>
        have counted : Counted (record.assign id expiresAtMs store.sessions) :=
          (sound.counted present).next rfl rfl
        have placed :
            (store.put index
              (record.assign id expiresAtMs store.sessions)).Sound :=
          sound.put counted fun _ _ _ _ there used =>
            idExists_false fresh there used
        exact ⟨⟨placed.distinct, placed.counted⟩,
          .of_bind (put_self present) rfl counted rfl rfl rfl rfl rfl,
          .put present (.of_changes rfl)⟩
    | @renamed store context index record id expiresAtMs matches_ fresh =>
      obtain ⟨-, present, used, -⟩ := matching_spec matches_
      have counted : Counted (record.rename id expiresAtMs) :=
        (sound.counted present).next rfl rfl
      exact ⟨sound.put counted fun _ _ _ _ there used =>
          idExists_false fresh there used,
        .of_bind (put_self present) used counted rfl rfl rfl rfl rfl,
        .put present (.of_changes rfl)⟩
    | wrote bound own => exact ⟨sound, follows, .refl _⟩
  | loosed unbound => exact ⟨sound, .of_unbound unbound, .refl _⟩
  | @found store context index record expiresAtMs present used =>
    have old : Counted record := sound.counted present
    have counted : Counted (record.renew record.entries expiresAtMs) := old
    exact ⟨sound.put counted fun _ _ _ other there used' same =>
        other (sound.distinct there present used' used same),
      .of_bind (put_self present) used counted rfl rfl rfl rfl rfl,
      .put present (record.becomes_renew _ _)⟩
  | @cleared store context context' index record matches_ unbound =>
    obtain ⟨-, present, -⟩ := matching_spec matches_
    have counted : Counted record.clear := (sound.counted present).next rfl rfl
    refine ⟨sound.put counted fun impossible => ?_, .of_unbound unbound,
      .put present (.of_changes rfl)⟩
    cases impossible
  | @renewed store context index record expiresAtMs matches_ =>
    obtain ⟨-, present, used, -⟩ := matching_spec matches_
    have advances : Advances store (store.put index
        (record.renew (context.written record.entries) expiresAtMs)) :=
      .put present (record.becomes_renew _ _)
    have old : Counted record := sound.counted present
    have counted : Counted
      (record.renew (context.written record.entries) expiresAtMs) := old
    exact ⟨sound.put counted fun _ _ _ other there used' same =>
        other (sound.distinct there present used' used same),
      follows.advance advances, advances⟩
  | flagged created dirty => exact ⟨sound, follows, .refl _⟩

theorem Timely.of_unbound (unbound : context.record = none) :
    store.Timely context := by
  intro index record bound
  rw [unbound] at bound
  cases bound

theorem Timely.of_put {record' : SessionRecord}
    (present : store.records[index]? = some record)
    (bound : context.record = some index)
    (changes : record'.changes < context.changes + generationPeriod) :
    (store.put index record').Timely context := by
  intro index' found bound' present'
  rw [bound] at bound'
  cases bound'
  rw [put_self present] at present'
  cases present'
  exact changes

/-- A tagged record keeps the store labelled. -/
theorem Labelled.put {record' : SessionRecord} (labelled : store.Labelled)
    (tagged : record'.used = true → Tagged record'.session record'.entries) :
    (store.put index record').Labelled where
  records := by
    intro i a at_i used
    rcases of_put at_i with ⟨rfl, rfl⟩ | ⟨-, before⟩
    · exact tagged used
    · exact labelled.records before used

/-- Expiry keeps the store labelled. -/
theorem Labelled.expire (labelled : store.Labelled) (nowMs : UInt64) :
    (store.expire nowMs).Labelled where
  records := by
    intro i a at_i used
    obtain ⟨old, before, rfl | ⟨rfl, -⟩⟩ := of_expire at_i
    · exact labelled.records before used
    · cases used

/-- One turn keeps entries in their session, unless a generation repeats. -/
theorem Turn.labelled (turn : Turn before after) (sound : before.1.Sound)
    (follows : before.1.Follows before.2) (timely : before.1.Timely before.2)
    (labelled : before.1.Labelled) (owns : Owns before.2) :
    after.1.Timely after.2 ∧ after.1.Labelled ∧ Owns after.2 := by
  have positive : ∀ changes : Nat, changes < changes + generationPeriod :=
    fun changes => Nat.lt_add_of_pos_right (by decide)
  cases turn with
  | edit edit =>
    cases edit with
    | expired nowMs unbound =>
      exact ⟨.of_unbound unbound, labelled.expire nowMs, owns⟩
    | @opened store context index record id expiresAtMs unbound present unused
        fresh =>
        have placed :
            (store.put index
              (record.assign id expiresAtMs store.sessions)).Labelled :=
          labelled.put fun _ => tagged_clear _ _
        exact ⟨.of_put present rfl (positive _), ⟨placed.records⟩,
          fun _ => tagged_clear _ _⟩
    | @renamed store context index record id expiresAtMs matches_ fresh =>
      obtain ⟨bound, present, used, -⟩ := matching_spec matches_
      obtain ⟨-, session⟩ := unchanged_of_matching sound follows timely matches_
      have old : Tagged record.session record.entries :=
        labelled.records present used
      refine ⟨.of_put present rfl (positive _), labelled.put fun _ => old,
        fun _ => ?_⟩
      have tagged := owns (bound ▸ Option.some_ne_none index)
      rw [← session] at tagged
      exact tagged
    | wrote bound own =>
      refine ⟨timely, labelled, fun _ entry member => ?_⟩
      rcases own entry member with old | new
      · exact owns bound entry old
      · exact new
  | loosed unbound =>
    exact ⟨.of_unbound unbound, labelled, fun bound => absurd unbound bound⟩
  | @found store context index record expiresAtMs present used =>
    have old : Tagged record.session record.entries :=
      labelled.records present used
    exact ⟨.of_put present rfl (positive _), labelled.put fun _ => old,
      fun _ => old⟩
  | @cleared store context context' index record matches_ unbound =>
    refine ⟨.of_unbound unbound, labelled.put fun impossible => ?_,
      fun bound => absurd unbound bound⟩
    cases impossible
  | @renewed store context index record expiresAtMs matches_ =>
    obtain ⟨bound, present, used, -⟩ := matching_spec matches_
    obtain ⟨-, session⟩ := unchanged_of_matching sound follows timely matches_
    refine ⟨.of_put present bound (timely index record bound present),
      labelled.put fun _ => ?_, owns⟩
    -- The snapshot of the own session replaces its entries.
    change Tagged record.session (context.written record.entries)
    unfold SessionContext.written
    split_ifs
    · have tagged := owns (bound ▸ Option.some_ne_none index)
      rw [← session] at tagged
      exact tagged
    · exact labelled.records present used
  | flagged created dirty => exact ⟨timely, labelled, owns⟩

/-- Advances compose. -/
theorem Advances.trans {first second third : SessionStore}
    (before : Advances first second)
    (after : Advances second third) : Advances first third := by
  intro index record present
  obtain ⟨record', present', becomes⟩ := before index record present
  obtain ⟨record'', present'', becomes'⟩ := after index record' present'
  refine ⟨record'', present'', becomes.changes_le.trans becomes'.changes_le,
    fun same => ?_⟩
  have first_le := becomes.changes_le
  have second_le := becomes'.changes_le
  obtain ⟨used, id, session⟩ := becomes.same (by omega)
  obtain ⟨used', id', session'⟩ := becomes'.same (by omega)
  exact ⟨used'.trans used, id'.trans id, session'.trans session⟩

/-- Turns keep the store sound and the context on it. -/
theorem Turns.sound (turns : Turns before after) (sound : before.1.Sound)
    (follows : before.1.Follows before.2) :
    after.1.Sound ∧ after.1.Follows after.2 ∧ Advances before.1 after.1 := by
  induction turns with
  | refl => exact ⟨sound, follows, .refl _⟩
  | tail _ turn ih =>
    obtain ⟨sound', follows', advances⟩ := ih
    obtain ⟨sound'', follows'', advances'⟩ := turn.sound sound' follows'
    exact ⟨sound'', follows'', advances.trans advances'⟩

theorem Turns.labelled (turns : Turns before after) (sound : before.1.Sound)
    (follows : before.1.Follows before.2) (timely : before.1.Timely before.2)
    (labelled : before.1.Labelled) (owns : Owns before.2) :
    after.1.Timely after.2 ∧ after.1.Labelled ∧ Owns after.2 := by
  induction turns with
  | refl => exact ⟨timely, labelled, owns⟩
  | tail turns turn ih =>
    obtain ⟨sound', follows', -⟩ := Turns.sound turns sound follows
    obtain ⟨timely', labelled', owns'⟩ := ih
    exact turn.labelled sound' follows' timely' labelled' owns'

/-! ## Which records a call may touch -/

/-- All records but a matching one are as before. -/
def Spares (store : SessionStore) (context : SessionContext)
    (store' : SessionStore) : Prop :=
  ∀ index : Nat, store'.records[index]? = store.records[index]? ∨
    ∃ record, store.matching context = some (index, record)

theorem Spares.refl (store : SessionStore) (context : SessionContext) :
    store.Spares context store :=
  fun _ => .inl rfl

/-- A change of the record of a session spares the others. -/
theorem Spares.put (matches_ : store.matching context = some (index, record))
    (record' : SessionRecord) :
    store.Spares context (store.put index record') := by
  intro index'
  by_cases same : index = index'
  · exact .inr ⟨record, same ▸ matches_⟩
  · exact .inl (put_other same)

section

variable (store : SessionStore) (context : SessionContext)

theorem clearMatching_spares :
    store.Spares context (store.clearMatching context) := by
  unfold clearMatching
  split
  case h_1 => exact .refl store context
  case h_2 matches_ => exact .put matches_ _

theorem discardCreated_spares :
    store.Spares context (store.discardCreated context).1 := by
  unfold discardCreated
  split_ifs
  · exact .refl store context
  · exact clearMatching_spares store context

theorem requestAbort_spares :
    store.Spares context (store.requestAbort context).1 := by
  unfold requestAbort
  split_ifs
  · exact .refl store context
  · exact discardCreated_spares store context

theorem commit_spares (nowMs : UInt64) :
    store.Spares context (store.commit context nowMs).2.1 := by
  unfold commit
  split_ifs <;> try exact .refl store context
  split
  case h_1 => exact .refl store context
  case h_2 matches_ => exact .put matches_ _

theorem publish_spares (status : Status) (publication : Publication) :
    store.Spares context (store.publish context status publication).2.1 := by
  cases publication with
  | nothing | removal => exact .refl store context
  | identifier id =>
    unfold publish
    split_ifs
    · exact .refl store context
    · exact discardCreated_spares store context
    · exact .refl store context

theorem write_store (key value : CString) :
    (store.write context key value).2.1 = store := by
  unfold write
  split <;> rfl

theorem remove_store (key : CString) :
    (store.remove context key).2.1 = store := by
  unfold remove
  split_ifs <;> try rfl
  split <;> rfl

theorem clear_store : (store.clear context).2.1 = store := by
  unfold clear
  split_ifs <;> rfl

end

theorem set_spares (store : SessionStore) (bound : context.record ≠ none)
    (key value : CString)
    (nowMs : UInt64) (random : RandomSource) :
    store.Spares context (store.set context key value nowMs random).2.1 := by
  unfold set
  split_ifs <;> try exact .refl store context
  exact (write_store store context key value).symm ▸ .refl store context

theorem regenerate_spares (store : SessionStore) (bound : context.record ≠ none)
    (nowMs : UInt64)
    (random : RandomSource) :
    store.Spares context (store.regenerate context nowMs random).2.1 := by
  unfold regenerate
  split_ifs
  · exact .refl store context
  split
  case h_1 => exact .refl store context
  case h_2 matches_ =>
    split
    case h_1 => exact .refl store context
    case h_2 => exact .put matches_ _

end SessionStore

/-- The calls which look for a session or create one. -/
def SessionCall.opens (context : SessionContext) : SessionCall → Bool
  | .begin _ _ => true
  | .set _ _ _ _ => context.record = none
  | .regenerate _ _ => context.record = none
  | _ => false

open SessionStore in
theorem SessionRequest.perform_spares (store : SessionStore)
    (request : SessionRequest)
    {call : SessionCall} (closed : call.opens request.context = false) :
    store.Spares request.context (request.perform store call).2.1 := by
  cases call with
  | begin => cases closed
  | set key value nowMs random =>
    exact set_spares store (of_decide_eq_false closed) key value nowMs random
  | remove key => exact (remove_store store _ key).symm ▸ .refl store _
  | clear => exact (clear_store store _).symm ▸ .refl store _
  | regenerate nowMs random =>
    exact regenerate_spares store (of_decide_eq_false closed) nowMs random
  | invalidate => exact clearMatching_spares store _
  | commit nowMs => exact commit_spares store _ nowMs
  | publish status =>
    dsimp only [perform]
    split
    case h_1 => exact .refl store _
    case h_2 publication _ => exact publish_spares store _ status publication
  | abort => exact requestAbort_spares store _

/-! ## Every run -/

namespace SessionWorld

open SessionStore

/-- No record changes hands for a whole period while a request is bound to
it. -/
def Timely (world : SessionWorld) : Prop :=
  ∀ number, world.store.Timely (world.requests number).context

/-- What holds in every run. -/
structure Sound (world : SessionWorld) : Prop where
  store : world.store.Sound
  follows : ∀ number, world.store.Follows (world.requests number).context

/-- What holds in every run without a repeated generation. -/
structure Labelled (world : SessionWorld) : Prop where
  store : world.store.Labelled
  owns : ∀ number, Owns (world.requests number).context

theorem init_sound (config : SessionConfig) (sessionCapacity : Nat) :
    (init config sessionCapacity).Sound where
  store := by
    constructor
    · intro index _ record _ present _ used
      have member := List.mem_of_getElem? present
      rw [List.eq_of_mem_replicate member] at used
      cases used
    · intro index record present
      have member := List.mem_of_getElem? present
      rw [List.eq_of_mem_replicate member]
      exact ⟨rfl, nofun⟩
  follows _ := .of_unbound rfl

theorem init_labelled (config : SessionConfig) (sessionCapacity : Nat) :
    (init config sessionCapacity).Labelled where
  store := by
    constructor
    intro index record present used
    have member := List.mem_of_getElem? present
    rw [List.eq_of_mem_replicate member] at used
    cases used
  owns _ := fun bound => absurd rfl bound

variable {world : SessionWorld}

/-- A call keeps the world sound. -/
theorem Sound.perform (sound : world.Sound) (number : Nat)
    (call : SessionCall) :
    (world.perform number call).Sound := by
  obtain ⟨sound', follows', advances⟩ := Turns.sound
    ((world.requests number).perform_turns world.store call) sound.store
    (sound.follows number)
  exact ⟨sound', (Function.forall_update_iff world.requests fun _ request =>
      (world.perform number call).store.Follows request.context).mpr
    ⟨follows', fun other _ => (sound.follows other).advance advances⟩⟩

/-- A call keeps the world labelled. -/
theorem Labelled.perform (labelled : world.Labelled) (sound : world.Sound)
    (timely : world.Timely)
    (number : Nat) (call : SessionCall) :
    (world.perform number call).Labelled := by
  obtain ⟨-, labelled', owns'⟩ := Turns.labelled
    ((world.requests number).perform_turns world.store call) sound.store
    (sound.follows number) (timely number) labelled.store
    (labelled.owns number)
  exact ⟨labelled', (Function.forall_update_iff world.requests fun _ request =>
    Owns request.context).mpr ⟨owns', fun other _ => labelled.owns other⟩⟩

/-- Every run from the start ends in a sound world. -/
theorem Run.sound {Good : SessionWorld → Prop} {config : SessionConfig}
    {sessionCapacity : Nat}
    {calls : List (Nat × SessionCall)}
    (run : Run Good (init config sessionCapacity) calls world) :
    world.Sound := by
  induction run with
  | start => exact init_sound config sessionCapacity
  | call _ _ number call _ ih => exact ih.perform number call

theorem Run.labelled {config : SessionConfig} {sessionCapacity : Nat}
    {calls : List (Nat × SessionCall)}
    (run : Run Timely (init config sessionCapacity) calls world) :
    world.Labelled := by
  induction run with
  | start => exact init_labelled config sessionCapacity
  | call run timely number call _ ih =>
    exact ih.perform run.sound timely number call

end SessionWorld

open SessionStore in
/-- Sessions have different identifiers.  A request which neither begins nor
creates a session changes only a record which carries its identifier and
generation; and unless the record changes hands for a whole period while the
request is bound to it, only one which has not changed hands, and it reads
only values of its own session. -/
theorem sessions_isolated (config : SessionConfig) (sessionCapacity : Nat) :
    (∀ calls world,
      SessionWorld.AnyRun (.init config sessionCapacity) calls world →
        (∀ {index index' : Nat} {record record' : SessionRecord},
          world.store.records[index]? = some record →
          world.store.records[index']? = some record' →
          record.used = true → record'.used = true →
          record.id = record'.id → index = index') ∧
        ∀ number call, call.opens (world.requests number).context = false →
          ∀ index : Nat,
            (world.perform number call).store.records[index]? ≠
              world.store.records[index]? →
              ∃ record, world.store.records[index]? = some record ∧
                (world.requests number).context.record = some index ∧
                record.used = true ∧
                record.generation =
                  (world.requests number).context.recordGeneration ∧
                record.id = (world.requests number).context.id) ∧
      ∀ calls world,
        SessionWorld.Run SessionWorld.Timely (.init config sessionCapacity)
            calls world →
          world.Timely →
            (∀ number call, call.opens (world.requests number).context = false →
              ∀ (index : Nat) (record : SessionRecord),
                world.store.records[index]? = some record →
                (world.requests number).context.record = some index →
                record.changes ≠ (world.requests number).context.changes →
                (world.perform number call).store.records[index]? =
                  some record) ∧
            ∀ number key entry, (world.requests number).context.get key =
              some entry →
                entry.session =
                  (world.requests number).context.session := by
  refine ⟨fun calls world run => ?_, fun calls world run timely => ?_⟩
  · refine ⟨run.sound.store.distinct,
      fun number call closed index changed => ?_⟩
    rcases (world.requests number).perform_spares world.store closed index
      with same | ⟨record, matches_⟩
    · exact absurd same changed
    · obtain ⟨bound, present, used, generation, id⟩ := matching_spec matches_
      exact ⟨record, present, bound, used, generation, id⟩
  refine ⟨fun number call closed index record present _ changed => ?_,
    fun number key entry got => ?_⟩
  · rcases (world.requests number).perform_spares world.store closed index
      with same | ⟨record', matches_⟩
    · exact same.trans present
    obtain ⟨-, present', -⟩ := matching_spec matches_
    rw [present] at present'
    cases present'
    exact absurd (unchanged_of_matching run.sound.store
      (run.sound.follows number) (timely number) matches_).1 changed
  unfold SessionContext.get at got
  split_ifs at got with unbound
  have bound := fun none_ => unbound (.inl none_)
  refine run.labelled.owns number bound entry ?_
  exact List.mem_of_find?_eq_some (Option.join_eq_some_iff.mp got)

/-! ## A generation comes back -/

namespace SessionWorld

open SessionStore

/-- Runs compose. -/
theorem Run.trans {Good : SessionWorld → Prop}
    {first second third : SessionWorld}
    {calls calls' : List (Nat × SessionCall)}
    (before : Run Good first calls second)
    (after : Run Good second calls' third) :
    Run Good first (calls ++ calls') third := by
  induction after with
  | start =>
    rw [List.append_nil]
    exact before
  | call run good number call allowed ih =>
    rw [← List.append_assoc]
    exact ih.call good number call allowed

/-- One entry for a session, and a second of time. -/
def smallConfig : SessionConfig where
  sessionEntryCapacity := 1
  maxSessionKeyBytes := 1
  maxSessionValueBytes := 1
  sessionIdleTimeoutMs := 1000

/-- A random source which repeats itself. -/
def constantSource : RandomSource := fun _ => (.ok, Vector.replicate 16 0)

/-- The identifier it gives. -/
def constantId : Bytes := sessionIdText (Vector.replicate 16 0)

/-- A key of one byte. -/
def shortKey : CString where
  bytes := [97]
  unterminated := by decide

variable (rounds : Nat)

/-- The record after so many sessions in it. -/
def recycledRecord : SessionRecord where
  used := true
  id := constantId
  expiresAtMs := 1000
  generation := generationAt (2 * rounds + 1)
  entries := [none]
  session := rounds
  changes := 2 * rounds + 1

/-- The request which creates them, after it has written to the last one. -/
def recycler : SessionRequest where
  publishing := none
  context :=
    { record := some 0
      recordGeneration := generationAt (2 * rounds + 1)
      id := constantId
      snapshot := [some ⟨shortKey, shortKey, rounds⟩]
      created := true
      invalidated := false
      dirty := true
      session := rounds
      changes := 2 * rounds + 1 }

/-- A request which has been bound to the first of them ever since. -/
def sleeper : SessionRequest where
  publishing := none
  context :=
    { record := some 0
      recordGeneration := 1
      id := constantId
      snapshot := [some ⟨shortKey, shortKey, 0⟩]
      created := false
      invalidated := false
      dirty := true
      session := 0
      changes := 1 }

/-- The world after so many sessions in the record. -/
def recycled : SessionWorld where
  store := ⟨smallConfig, [recycledRecord rounds], rounds + 1⟩
  requests number :=
    if number = 1 then recycler rounds
    else if number = 0 then sleeper
    else SessionRequest.idle smallConfig

theorem run_recycled_zero :
    ∃ calls, AnyRun (init smallConfig 1) calls (recycled 0) := by
  have run :=
    ((((@Run.start (fun _ => True) (init smallConfig 1)).call trivial 1
      (.begin none 0) rfl).call trivial 1
      (.set shortKey shortKey 0 constantSource) rfl).call trivial 0
      (.begin (some constantId) 0) rfl).call trivial 0
      (.set shortKey shortKey 0 constantSource) rfl
  have reached : ((((init smallConfig 1).perform 1 (.begin none 0)).perform 1
      (.set shortKey shortKey 0 constantSource)).perform 0
      (.begin (some constantId) 0)).perform 0
      (.set shortKey shortKey 0 constantSource) = recycled 0 := by
    refine SessionWorld.ext (by decide +kernel) (funext fun number => ?_)
    match number with
    | 0 => decide +kernel
    | 1 => decide +kernel
    | _ + 2 => rfl
  exact ⟨_, reached ▸ run⟩

/-- The store after the last session has been invalidated. -/
def emptied : SessionStore :=
  ⟨smallConfig, [(recycledRecord rounds).clear], rounds + 1⟩

attribute [local irreducible] generationNext in
theorem create_emptied :
    (emptied rounds).create (SessionContext.reset smallConfig) 0
      constantSource =
    (.ok, (recycled (rounds + 1)).store,
      { (recycler (rounds + 1)).context with
        snapshot := [none]
        dirty := false }) := by
  have expired : (emptied rounds).expire 0 = emptied rounds := rfl
  have free : (emptied rounds).free = some (0, (recycledRecord rounds).clear) :=
    rfl
  have generated : (emptied rounds).generateId constantSource
      idAttempts = .ok constantId := by
    simp [idAttempts, generateId, constantSource,
      idExists, emptied, SessionRecord.clear, constantId]
  simp only [create, expired, free, generated]
  rfl

attribute [local irreducible] generationNext in
theorem set_emptied :
    (emptied rounds).set (SessionContext.reset smallConfig) shortKey shortKey 0
      constantSource =
      (.ok, (recycled (rounds + 1)).store,
        (recycler (rounds + 1)).context) := by
  have allowed : ¬ (shortKey.bytes = [] ∨
      (SessionContext.reset smallConfig).invalidated = true) := by
    decide
  have short : ¬ ((emptied rounds).config.maxSessionKeyBytes < shortKey.length ∨
      (emptied rounds).config.maxSessionValueBytes < shortKey.length) := by
    change ¬ (smallConfig.maxSessionKeyBytes < shortKey.length ∨
      smallConfig.maxSessionValueBytes < shortKey.length)
    decide
  have unbound : (SessionContext.reset smallConfig).record = none := rfl
  rw [SessionStore.set, if_neg allowed, if_neg short, if_pos unbound,
    create_emptied]
  rfl

theorem run_recycled_succ :
    ∃ calls, AnyRun (recycled rounds) calls (recycled (rounds + 1)) := by
  have run :=
    (((@Run.start (fun _ => True) (recycled rounds)).call trivial 1
      .invalidate rfl).call trivial 1 (.begin none 0) rfl).call trivial 1
      (.set shortKey shortKey 0 constantSource) rfl
  have matches_ : matching (recycled rounds).store
      (recycler rounds).context = some (0, recycledRecord rounds) := by
    simp [matching, recycled, recycler, recycledRecord]
  have invalidated : ((recycled rounds).perform 1 .invalidate).store =
      emptied rounds := by
    change clearMatching _ (recycler rounds).context = _
    rw [clearMatching, matches_]
    rfl
  have begun : ((recycled rounds).perform 1 .invalidate).perform 1
    (.begin none 0) =
      ⟨emptied rounds, Function.update
        ((recycled rounds).perform 1 .invalidate).requests 1
        (SessionRequest.idle smallConfig)⟩ := by
    rw [perform, invalidated]
    rfl
  have reached :
    (((recycled rounds).perform 1 .invalidate).perform 1
      (.begin none 0)).perform 1
      (.set shortKey shortKey 0 constantSource) = recycled (rounds + 1) := by
    rw [begun, perform]
    dsimp only
    rw [Function.update_self]
    dsimp only [SessionRequest.perform, SessionRequest.idle]
    rw [set_emptied]
    refine SessionWorld.ext rfl (funext fun number => ?_)
    match number with
    | 0 => rfl
    | 1 => rfl
    | _ + 2 => rfl
  exact ⟨_, reached ▸ run⟩

theorem run_recycled :
    ∃ calls, AnyRun (init smallConfig 1) calls (recycled rounds) := by
  induction rounds with
  | zero => exact run_recycled_zero
  | succ rounds ih =>
    obtain ⟨before, run⟩ := ih
    obtain ⟨after, run'⟩ := run_recycled_succ rounds
    exact ⟨before ++ after, run.trans run'⟩

theorem commit_recycled {rounds : Nat}
    (again : generationAt (2 * rounds + 1) = 1) :
    ((recycled rounds).perform 0 (.commit 0)).store.records[0]? ≠
      some (recycledRecord rounds) := by
  have matches_ : (recycled rounds).store.matching sleeper.context =
      some (0, recycledRecord rounds) := by
    simp [matching, recycled, recycledRecord, sleeper, again]
  have present : (recycled rounds).store.records ≠ [] := nofun
  have valid : ¬ sleeper.context.invalidated = true := nofun
  have bound : ¬ sleeper.context.record = none := nofun
  change (commit (recycled rounds).store sleeper.context 0).2.1.records[0]? ≠ _
  rw [commit, if_neg present, if_neg valid, if_neg bound, matches_]
  intro same
  have entries := congrArg SessionRecord.entries (Option.some.inj same)
  cases entries

end SessionWorld

open SessionWorld in
/-- A record which has changed hands for a whole period, to a session with the
same identifier, is changed by a request of an old session; and a request
without a session creates one when it asks for another identifier. -/
theorem sessions_mixed :
    (∃ calls world, AnyRun (init smallConfig 1) calls world ∧
      ∃ record, world.store.records[0]? = some record ∧
        (world.requests 0).context.record = some 0 ∧
        record.changes ≠ (world.requests 0).context.changes ∧
        record.session ≠ (world.requests 0).context.session ∧
        (world.requests 0).Allows (.commit 0) ∧
        (world.perform 0 (.commit 0)).store.records[0]? ≠ some record) ∧
      (init smallConfig 1).store.records[0]? ≠
          ((init smallConfig 1).perform 0
            (.regenerate 0 constantSource)).store.records[0]? ∧
        ((init smallConfig 1).requests 0).context.record = none := by
  refine ⟨?_, by decide, rfl⟩
  obtain ⟨calls, run⟩ := run_recycled generationPeriod
  have again : generationAt (2 * generationPeriod + 1) = 1 := by
    apply UInt32.toNat_inj.mp
    rw [toNat_generationAt, Nat.mul_mod_left, UInt32.toNat_one]
  have positive : 0 < generationPeriod := by decide
  refine ⟨calls, recycled generationPeriod, run,
    recycledRecord generationPeriod, rfl, rfl, ?_, ?_, rfl,
    commit_recycled again⟩
  · change 2 * generationPeriod + 1 ≠ 1
    omega
  · change generationPeriod ≠ 0
    omega

end Chttp.Server
