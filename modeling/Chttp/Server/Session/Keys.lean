import Chttp.Server.Session.Updates

/-!
# A session has one entry for a key

The loops of `chttp_session_set` and `chttp_session_remove` look for the first
entry with a key.  No two entries of a record or of a snapshot have the same
key, so the first one is the only one.
-/

namespace Chttp.Server

open Lib
open SessionEntries

namespace SessionEntries

/-- No two slots hold entries with the same key. -/
def Distinct (entries : SessionEntries) : Prop :=
  ∀ (index index' : Nat) (entry entry' : SessionEntry),
  entries[index]? = some (some entry) →
    entries[index']? = some (some entry') →
    entry.key = entry'.key → index = index'

variable {entries : SessionEntries} {key : CString} {index : Nat}

theorem distinct_of_unused (unused : ∀ entry, some entry ∉ entries) :
    entries.Distinct :=
  fun _ _ entry _ here _ _ => absurd (List.mem_of_getElem? here) (unused entry)

theorem distinct_clear (entries : SessionEntries) : entries.clear.Distinct := by
  refine distinct_of_unused fun entry member => ?_
  obtain ⟨_, _, impossible⟩ := List.mem_map.mp member
  cases impossible

/-- A slot which may take an entry for a key: no other slot has one. -/
def Takes (entries : SessionEntries) (index : Nat) (key : CString) : Prop :=
  ∀ index' entry, entries[index']? = some (some entry) → entry.key = key →
    index' = index

theorem takes_of_held (distinct : entries.Distinct)
    (found : entries.findIdx? (holdsKey key) = some index) :
    entries.Takes index key := by
  obtain ⟨bound, holds, -⟩ := List.findIdx?_eq_some_iff_getElem.mp found
  cases slot : entries[index] with
  | none =>
    rw [slot] at holds
    cases holds
  | some entry =>
    rw [slot, holdsKey_some, decide_eq_true_eq] at holds
    have present : entries[index]? = some (some entry) := by
      rw [List.getElem?_eq_getElem bound, slot]
    intro index' other there same
    exact distinct index' index other entry there present
      (same.trans holds.symm)

theorem takes_of_unused (absent : entries.findIdx? (holdsKey key) = none) :
    entries.Takes index key := by
  rw [List.findIdx?_eq_none_iff] at absent
  intro index' entry present same
  have unheld := absent _ (List.mem_of_getElem? present)
  rw [holdsKey_some, decide_eq_false_iff_not] at unheld
  exact absurd same unheld

/-- A slot which is set for its key keeps the keys distinct. -/
theorem Takes.set (takes : entries.Takes index key)
    (distinct : entries.Distinct)
    {slot : Option SessionEntry} (keyed : ∀ entry ∈ slot, entry.key = key) :
    Distinct (entries.set index slot) := by
  intro first second entry entry' one two same
  rw [List.getElem?_set] at one two
  split_ifs at one two with isFirst isSecond isSecond
  · exact isFirst.symm.trans isSecond
  · cases one
    rw [keyed entry rfl] at same
    exact absurd (takes second entry' two same.symm).symm isSecond
  · cases two
    rw [keyed entry' rfl] at same
    exact absurd (takes first entry one same).symm isFirst
  · exact distinct first second entry entry' one two same

/-- An entry which is stored keeps the keys distinct. -/
theorem Distinct.put {entries' : SessionEntries} {entry : SessionEntry}
    (distinct : entries.Distinct) (stored : entries.put entry = some entries') :
    entries'.Distinct := by
  have keyed : ∀ other ∈ some entry, other.key = entry.key := by
    rintro other ⟨⟩
    rfl
  unfold SessionEntries.put at stored
  split at stored
  case h_1 index found =>
    cases stored
    exact (takes_of_held distinct found).set distinct keyed
  case h_2 absent =>
    split at stored
    case h_1 index found =>
      cases stored
      exact (takes_of_unused absent).set distinct keyed
    case h_2 => cases stored

/-- Only the first entry with a key is dropped, but there is no other. -/
theorem Distinct.drop {entries' : SessionEntries} (distinct : entries.Distinct)
    (dropped : entries.drop key = some entries') :
    entries'.Distinct ∧ entries'.value =
      Function.update entries.value key none := by
  have rest := value_drop dropped
  unfold SessionEntries.drop at dropped
  split at dropped
  case h_2 => cases dropped
  case h_1 index found =>
    cases dropped
    have takes := takes_of_held distinct found
    have gone : value (entries.set index none) key = none := by
      unfold value get
      rw [List.find?_eq_none.mpr]
      · rfl
      intro slot member holds
      obtain ⟨index', here⟩ := List.mem_iff_getElem?.mp member
      rw [List.getElem?_set] at here
      split_ifs at here with same
      · cases here
        cases holds
      · cases slot with
        | none => cases holds
        | some entry =>
          exact same (takes index' entry here (of_decide_eq_true holds)).symm
    rw [gone] at rest
    refine ⟨takes.set distinct ?_, rest⟩
    rintro other ⟨⟩

theorem value_of_drop_none (absent : entries.drop key = none) :
    Function.update entries.value key none = entries.value := by
  unfold SessionEntries.drop at absent
  split at absent
  case h_1 => cases absent
  case h_2 nowhere =>
    rw [List.findIdx?_eq_none_iff] at nowhere
    have missing : entries.value key = none := by
      unfold value get
      rw [List.find?_eq_none.mpr]
      · rfl
      · exact fun slot member => Bool.eq_false_iff.mp (nowhere slot member)
    rw [← missing, Function.update_eq_self]

end SessionEntries

/-! ## Every run -/

namespace SessionStore

/-- The entries of every record have keys of their own. -/
def Tidy (store : SessionStore) : Prop :=
  ∀ (index : Nat) (record : SessionRecord),
    store.records[index]? = some record → record.entries.Distinct

variable {store : SessionStore} {context : SessionContext}

/-- A record with distinct keys keeps the store tidy. -/
theorem Tidy.put (tidy : store.Tidy) {index : Nat} {record : SessionRecord}
    (distinct : record.entries.Distinct) : (store.put index record).Tidy := by
  intro index' record' present
  change (store.records.set index record)[index']? = _ at present
  rw [List.getElem?_set] at present
  split_ifs at present
  · cases present
    exact distinct
  · exact tidy index' record' present

/-- Expiry keeps the store tidy. -/
theorem Tidy.expire (tidy : store.Tidy) (nowMs : UInt64) :
    (store.expire nowMs).Tidy := by
  intro index record present
  change (store.records.map _)[index]? = _ at present
  rw [List.getElem?_map] at present
  obtain ⟨old, there, rfl⟩ := Option.map_eq_some_iff.mp present
  split_ifs
  · exact distinct_clear _
  · exact tidy index old there

/-- The store and the snapshot of a context are tidy. -/
structure TidyPair (pair : SessionStore × SessionContext) : Prop where
  store : pair.1.Tidy
  snapshot : pair.2.snapshot.Distinct

section

variable (tidy : TidyPair (store, context))

include tidy

theorem create_tidy (nowMs : UInt64) (random : RandomSource) :
    TidyPair (store.create context nowMs random).2 := by
  rcases create_cases store context nowMs random with
    ⟨status, -, equal⟩ | ⟨index, record, id, expiresAtMs, -, -, -, equal⟩
  · rw [equal]
    exact ⟨tidy.store.expire nowMs, tidy.snapshot⟩
  · rw [equal]
    exact ⟨(tidy.store.expire nowMs).put (distinct_clear _),
      distinct_clear _⟩

theorem write_tidy (key value : CString) :
    TidyPair (store.write context key value).2 := by
  unfold write
  split
  · exact tidy
  · rename_i snapshot stored
    exact ⟨tidy.store, tidy.snapshot.put stored⟩

theorem set_tidy (key value : CString) (nowMs : UInt64)
    (random : RandomSource) :
    TidyPair (store.set context key value nowMs random).2 := by
  unfold set
  split_ifs
  · exact tidy
  · exact tidy
  · have created := create_tidy tidy nowMs random
    split
    · rename_i same
      rw [same] at created
      exact write_tidy created key value
    · exact created
  · exact write_tidy tidy key value

theorem remove_tidy (key : CString) :
    TidyPair (store.remove context key).2 := by
  unfold remove
  split_ifs
  · exact tidy
  · exact tidy
  · split
    · exact tidy
    · rename_i snapshot dropped
      exact ⟨tidy.store, (tidy.snapshot.drop dropped).1⟩

theorem clear_tidy : TidyPair (store.clear context).2 := by
  unfold clear
  split_ifs
  · exact tidy
  · exact tidy
  · exact ⟨tidy.store, distinct_clear _⟩

theorem regenerate_tidy (nowMs : UInt64) (random : RandomSource) :
    TidyPair (store.regenerate context nowMs random).2 := by
  unfold regenerate
  split_ifs
  · exact tidy
  · exact create_tidy tidy nowMs random
  split
  · exact tidy
  rename_i index record matches_
  obtain ⟨-, present, -⟩ := matching_spec matches_
  split
  · exact tidy
  · exact ⟨tidy.store.put (tidy.store index record present), tidy.snapshot⟩

end

theorem clearMatching_tidy (tidy : store.Tidy) :
    (store.clearMatching context).Tidy := by
  unfold clearMatching
  split
  · exact tidy
  · exact tidy.put (distinct_clear _)

theorem discardCreated_tidy (tidy : TidyPair (store, context)) :
    TidyPair (store.discardCreated context) := by
  unfold discardCreated
  split_ifs
  · exact tidy
  · exact ⟨clearMatching_tidy tidy.store, tidy.snapshot⟩

theorem requestBegin_tidy (tidy : store.Tidy) (cookie : Option Bytes)
    (nowMs : UInt64) :
    TidyPair (store.requestBegin cookie nowMs) := by
  have unused : (SessionContext.reset store.config).snapshot.Distinct := by
    refine distinct_of_unused fun entry member => ?_
    cases List.eq_of_mem_replicate member
  unfold requestBegin
  dsimp only
  split_ifs
  · exact ⟨tidy, unused⟩
  split
  · exact ⟨tidy, unused⟩
  split_ifs
  · split
    · exact ⟨tidy.expire nowMs, unused⟩
    · rename_i index record found
      have entries := tidy.expire nowMs index record (find_spec found).1
      exact ⟨(tidy.expire nowMs).put entries, entries⟩
  · exact ⟨tidy, unused⟩

theorem commit_tidy (tidy : TidyPair (store, context)) (nowMs : UInt64) :
    TidyPair (store.commit context nowMs).2 := by
  unfold commit
  split_ifs
  · exact tidy
  · exact tidy
  · exact tidy
  split
  · exact ⟨tidy.store, tidy.snapshot⟩
  rename_i index record matches_
  obtain ⟨-, present, -⟩ := matching_spec matches_
  refine ⟨tidy.store.put ?_, tidy.snapshot⟩
  change (context.written record.entries).Distinct
  unfold SessionContext.written
  split_ifs
  · exact tidy.snapshot
  · exact tidy.store index record present

theorem publish_tidy (tidy : TidyPair (store, context)) (status : Status)
    (publication : Publication) :
    TidyPair (store.publish context status publication).2 := by
  cases publication with
  | nothing | removal => exact tidy
  | identifier id =>
    unfold publish
    split_ifs
    · exact ⟨tidy.store, tidy.snapshot⟩
    · exact discardCreated_tidy tidy
    · exact tidy

theorem requestAbort_tidy (tidy : TidyPair (store, context)) :
    TidyPair (store.requestAbort context) := by
  have discarded := discardCreated_tidy tidy
  unfold requestAbort
  split_ifs
  · exact tidy
  · exact ⟨discarded.store, discarded.snapshot⟩

end SessionStore

open SessionStore in
theorem SessionRequest.perform_tidy {store : SessionStore}
    {request : SessionRequest}
    (tidy : TidyPair (store, request.context)) (call : SessionCall) :
    TidyPair ((request.perform store call).2.1,
      (request.perform store call).2.2.context) := by
  cases call with
  | begin cookie nowMs => exact requestBegin_tidy tidy.store cookie nowMs
  | set key value nowMs random => exact set_tidy tidy key value nowMs random
  | remove key => exact remove_tidy tidy key
  | clear => exact clear_tidy tidy
  | regenerate nowMs random => exact regenerate_tidy tidy nowMs random
  | invalidate =>
    exact ⟨clearMatching_tidy tidy.store, distinct_clear _⟩
  | commit nowMs => exact commit_tidy tidy nowMs
  | publish status =>
    dsimp only [perform]
    split
    · exact tidy
    · exact publish_tidy tidy status _
  | abort => exact requestAbort_tidy tidy

namespace SessionWorld

/-- The store and every snapshot are tidy. -/
def Tidy (world : SessionWorld) : Prop :=
  ∀ number, SessionStore.TidyPair (world.store, (world.requests number).context)

theorem init_tidy (config : SessionConfig) (sessionCapacity : Nat) :
    (init config sessionCapacity).Tidy := by
  intro number
  constructor
  · intro index record present
    have member := List.mem_of_getElem? present
    rw [List.eq_of_mem_replicate member]
    refine distinct_of_unused fun entry among => ?_
    cases List.eq_of_mem_replicate among
  · refine distinct_of_unused fun entry among => ?_
    cases List.eq_of_mem_replicate among

/-- A call keeps the world tidy. -/
theorem Tidy.perform {world : SessionWorld} (tidy : world.Tidy) (number : Nat)
    (call : SessionCall) : (world.perform number call).Tidy := by
  have performed := SessionRequest.perform_tidy (tidy number) call
  exact fun other => ⟨performed.store,
    (Function.forall_update_iff world.requests
    fun _ request => request.context.snapshot.Distinct).mpr
      ⟨performed.snapshot, fun other _ => (tidy other).snapshot⟩ other⟩

theorem Run.tidy {Good : SessionWorld → Prop} {start world : SessionWorld}
    {calls : List (Nat × SessionCall)} (tidy : start.Tidy)
    (run : Run Good start calls world) : world.Tidy := by
  induction run with
  | start => exact tidy
  | call _ _ number call _ ih => exact ih.perform number call

end SessionWorld

end Chttp.Server
