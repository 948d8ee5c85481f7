import Chttp.Lib.Bytes
import Chttp.Lib.Eviction

/-!
# The HPACK dynamic table

`hpack_dyn_table_t` keeps its newest entry first.  An insertion first grows
the entry array, up to `max_entries = max_dynamic_table_bytes / 32`, then
inserts, and only then evicts; an entry larger than the whole table leaves the
table alone.  The table is compared with the one RFC 7541 section 4.4
describes, which evicts first and is emptied by an oversized entry.
-/

namespace Chttp.Hpack

open Lib
open Lib.Eviction

/-- `SIZE_MAX` of a 64-bit target. -/
def sizeMax : Nat := 2 ^ 64 - 1

/-- `UINT32_MAX`. -/
def uint32Max : Nat := 2 ^ 32 - 1

/-- `hpack_entry_t`, and also the header field a caller passes. -/
structure Entry where
  name : Bytes
  value : Bytes
deriving DecidableEq

/-- The size of an entry as RFC 7541 section 4.1 counts it. -/
def Entry.size (entry : Entry) : Nat :=
  entry.name.length + entry.value.length + 32

/-- `hpack_dyn_table_t`. -/
structure DynTable where
  entries : List Entry
  capacity : Nat
  maxEntries : Nat
  size : Nat
  maxSize : Nat
deriving DecidableEq

/-! ## Operations -/

/-- The table as `chttp_h2_hpack_create` leaves it. -/
def dynTableCreate (maxDynamicTableBytes : Nat) : DynTable where
  entries := []
  capacity := 0
  maxEntries := maxDynamicTableBytes / 32
  size := 0
  maxSize := maxDynamicTableBytes

/-- The loop of `dyn_table_evict`, one round for each entry at most. -/
def dynTableEvictLoop : Nat → DynTable → DynTable
  | 0, table => table
  | rounds + 1, table =>
    if table.maxSize < table.size then
      match table.entries.getLast? with
      | none => table
      | some last =>
        dynTableEvictLoop rounds
          { table with
            entries := table.entries.dropLast, size := table.size - last.size }
    else
      table

/-- `dyn_table_evict`. -/
def dynTableEvict (table : DynTable) : DynTable :=
  dynTableEvictLoop table.entries.length table

/-- The growth of the entry array at the start of `dyn_table_add`. -/
def dynTableGrow (table : DynTable) : Option DynTable :=
  if table.capacity ≤ table.entries.length then
    if table.maxEntries ≤ table.entries.length then
      none
    else
      let doubled := if table.capacity = 0 then 8 else table.capacity * 2
      let newCapacity :=
        if table.maxEntries < doubled then table.maxEntries else doubled
      -- An entry of the array takes 40 bytes on a 64-bit target.
      if newCapacity ≤ table.capacity ∨ sizeMax / 40 < newCapacity then
        none
      else
        some { table with capacity := newCapacity }
  else
    some table

/-- `dyn_table_add`; `none` is the return value `-1`. -/
def dynTableAdd (table : DynTable) (name value : Bytes) : Option DynTable :=
  if sizeMax - value.length < name.length ∨
    sizeMax - 32 < name.length + value.length then
    none
  else
    let entry : Entry := { name, value }
    if table.maxSize < entry.size then
      some table
    else
      match dynTableGrow table with
      | none => none
      | some table =>
        some (dynTableEvict
          { table with
            entries := entry :: table.entries,
            size := table.size + entry.size })

/-- A new size limit followed by eviction, as every limit change does it. -/
def dynTableSetMaxSize (table : DynTable) (maxSize : Nat) : DynTable :=
  dynTableEvict { table with maxSize }

/-- `dyn_table_find`: `62` plus the position of the first match, or zero. -/
def dynTableFind (table : DynTable) (name value : Bytes) (nameOnly : Bool) :
    Nat :=
  match
    table.entries.findIdx? fun entry =>
      entry.name == name && (nameOnly || entry.value == value)
  with
  | none => 0
  | some index => (62 + index) % 2 ^ 32

/-! ## Eviction keeps the longest prefix which fits -/

/-- What eviction does to a table whose size is the sum of its entries. -/
theorem dynTableEvictLoop_eq {rounds : Nat} {table : DynTable}
    (enough : table.entries.length ≤ rounds)
    (sizeEq : table.size = total Entry.size table.entries) :
    dynTableEvictLoop rounds table =
      { table with
        entries := keep Entry.size table.maxSize table.entries
        size := total Entry.size
          (keep Entry.size table.maxSize table.entries) } := by
  induction rounds generalizing table with
  | zero =>
    have empty : table.entries = [] :=
      List.length_eq_zero_iff.mp (Nat.le_zero.mp enough)
    rw [dynTableEvictLoop]
    cases table
    simp_all
  | succ rounds induction =>
    rw [dynTableEvictLoop]
    by_cases exceeds : table.maxSize < table.size
    · rw [if_pos exceeds]
      rcases List.eq_nil_or_concat table.entries with empty | split
      · simp [empty] at sizeEq
        omega
      obtain ⟨older, last, entriesEq⟩ := split
      rw [List.concat_eq_append] at entriesEq
      have overweight : table.maxSize < total Entry.size (older ++ [last]) := by
        rw [← entriesEq, ← sizeEq]
        exact exceeds
      have kept := keep_append_singleton_of_exceeds Entry.size overweight
      have lastEq : table.entries.getLast? = some last := by
        simp [entriesEq]
      have restSize : table.size - last.size = total Entry.size older := by
        rw [sizeEq, entriesEq]
        simp
      rw [lastEq]
      simp only [entriesEq, List.dropLast_concat, restSize]
      rw [induction (by simp [entriesEq] at enough; simpa using enough)
        rfl]
      simp only [kept]
    · have fits : total Entry.size table.entries ≤ table.maxSize := by
        omega
      rw [if_neg exceeds, keep_of_fits Entry.size fits, ← sizeEq]

theorem dynTableEvict_eq {table : DynTable}
    (sizeEq : table.size = total Entry.size table.entries) :
    dynTableEvict table =
      { table with
        entries := keep Entry.size table.maxSize table.entries
        size := total Entry.size
          (keep Entry.size table.maxSize table.entries) } :=
  dynTableEvictLoop_eq (Nat.le_refl _) sizeEq

/-! ## The table invariant -/

/-- What holds of every table of a context with the given byte limit. -/
structure DynTable.Valid (maxDynamicTableBytes : Nat) (table : DynTable) :
    Prop where
  size_eq : table.size = total Entry.size table.entries
  size_le : table.size ≤ table.maxSize
  maxSize_le : table.maxSize ≤ maxDynamicTableBytes
  limit_le : maxDynamicTableBytes ≤ uint32Max
  maxEntries_eq : table.maxEntries = maxDynamicTableBytes / 32
  length_le : table.entries.length ≤ table.capacity
  capacity_le : table.capacity ≤ table.maxEntries

namespace DynTable.Valid

variable {maxDynamicTableBytes : Nat} {table : DynTable}

/-- A new table is valid. -/
theorem create (limit : maxDynamicTableBytes ≤ uint32Max) :
    (dynTableCreate maxDynamicTableBytes).Valid maxDynamicTableBytes where
  size_eq := rfl
  size_le := Nat.zero_le _
  maxSize_le := Nat.le_refl _
  limit_le := limit
  maxEntries_eq := rfl
  length_le := Nat.le_refl _
  capacity_le := Nat.zero_le _

section

variable (valid : table.Valid maxDynamicTableBytes)

include valid

theorem grow_eq :
    (table.entries.length < table.maxEntries →
      ∃ capacity, dynTableGrow table = some { table with capacity } ∧
          table.entries.length < capacity ∧
          capacity ≤ table.maxEntries) ∧
      (table.maxEntries ≤ table.entries.length →
        dynTableGrow table = none) := by
  have lengthLe := valid.length_le
  have capacityLe := valid.capacity_le
  have entriesEq := valid.maxEntries_eq
  have limit := valid.limit_le
  simp only [uint32Max] at limit
  constructor
  · intro below
    rw [dynTableGrow]
    by_cases full : table.capacity ≤ table.entries.length
    · rw [if_pos full, if_neg (by omega)]
      simp only [sizeMax]
      split <;> split
      · rw [if_neg (by omega)]
        exact ⟨_, rfl, by omega, by omega⟩
      · rw [if_neg (by omega)]
        exact ⟨_, rfl, by omega, by omega⟩
      · rw [if_neg (by omega)]
        exact ⟨_, rfl, by omega, by omega⟩
      · rw [if_neg (by omega)]
        exact ⟨_, rfl, by omega, by omega⟩
    · rw [if_neg full]
      exact ⟨table.capacity, rfl, by omega, capacityLe⟩
  · intro full
    rw [dynTableGrow, if_pos (by omega), if_pos full]

theorem setMaxSize_eq (maxSize : Nat) :
    dynTableSetMaxSize table maxSize =
      { table with
        maxSize
        entries := keep Entry.size maxSize table.entries
        size := total Entry.size (keep Entry.size maxSize table.entries) } := by
  rw [dynTableSetMaxSize, dynTableEvict_eq]
  exact valid.size_eq

theorem setMaxSize {maxSize : Nat} (allowed : maxSize ≤ maxDynamicTableBytes) :
    (dynTableSetMaxSize table maxSize).Valid maxDynamicTableBytes := by
  rw [valid.setMaxSize_eq]
  exact
    { valid with
      size_eq := rfl
      size_le := total_keep_le Entry.size maxSize table.entries
      maxSize_le := allowed
      length_le :=
        (length_keep_le Entry.size maxSize table.entries).trans
          valid.length_le }

/-- An entry which fits the table and finds a free place in the array. -/
theorem add_eq_of_fits {name value : Bytes}
    (fits : Entry.size { name, value } ≤ table.maxSize)
    (below : table.entries.length < table.maxEntries) :
    ∃ capacity, dynTableAdd table name value = some
            { table with
              capacity
              entries :=
                { name, value } :: keep Entry.size
                  (table.maxSize - Entry.size { name, value })
                    table.entries
              size := total Entry.size
                  ({ name, value } :: keep Entry.size
                    (table.maxSize - Entry.size { name, value })
                      table.entries) } ∧
        table.entries.length < capacity ∧
        capacity ≤ table.maxEntries := by
  obtain ⟨capacity, grown, roomy, bounded⟩ := valid.grow_eq.1 below
  have limit := valid.limit_le
  have maxSizeLe := valid.maxSize_le
  have small : ¬ (sizeMax - value.length < name.length ∨
      sizeMax - 32 < name.length + value.length) := by
    simp only [sizeMax, uint32Max, Entry.size] at *
    omega
  have grownSize : table.size + Entry.size { name, value } =
      total Entry.size ({ name, value } :: table.entries) := by
    rw [total_cons, valid.size_eq, Nat.add_comm]
  refine ⟨capacity, ?_, roomy, bounded⟩
  rw [dynTableAdd, if_neg small]
  simp only [if_neg (Nat.not_lt.mpr fits), grown]
  rw [dynTableEvict_eq grownSize]
  simp only [keep_cons_of_fits Entry.size fits]

end

theorem add_eq_of_exceeds {name value : Bytes}
    (sized : Entry.size { name, value } ≤ sizeMax)
    (exceeds : table.maxSize < Entry.size { name, value }) :
    dynTableAdd table name value = some table := by
  have small : ¬ (sizeMax - value.length < name.length ∨
      sizeMax - 32 < name.length + value.length) := by
    simp only [sizeMax, Entry.size] at *
    omega
  rw [dynTableAdd, if_neg small, if_pos exceeds]

section

variable (valid : table.Valid maxDynamicTableBytes)

include valid

theorem add_eq_none_of_full {name value : Bytes}
    (fits : Entry.size { name, value } ≤ table.maxSize)
    (full : table.maxEntries ≤ table.entries.length) :
    dynTableAdd table name value = none := by
  have grown := valid.grow_eq.2 full
  rw [dynTableAdd]
  split
  · rfl
  · simp only [if_neg (Nat.not_lt.mpr fits), grown]

/-- A table stays valid when an entry is added. -/
theorem add {name value : Bytes} {added : DynTable}
    (equal : dynTableAdd table name value = some added) :
    added.Valid maxDynamicTableBytes := by
  by_cases fits : Entry.size { name, value } ≤ table.maxSize
  · rcases Nat.lt_or_ge table.entries.length table.maxEntries with
      below | full
    · obtain ⟨capacity, addEq, roomy, bounded⟩ :=
        valid.add_eq_of_fits fits below
      have kept := total_keep_le Entry.size
          (table.maxSize - Entry.size { name, value }) table.entries
      have fewer := length_keep_le Entry.size
          (table.maxSize - Entry.size { name, value }) table.entries
      rw [addEq, Option.some.injEq] at equal
      subst equal
      exact
        { valid with
          size_eq := rfl
          size_le := by
            simp only [total_cons]
            omega
          length_le := by
            simp only [List.length_cons]
            omega
          capacity_le := bounded }
    · rw [valid.add_eq_none_of_full fits full] at equal
      cases equal
  have unchanged : added = table := by
    rw [dynTableAdd] at equal
    split at equal
    · cases equal
    · rw [if_pos (Nat.lt_of_not_le fits)] at equal
      exact (Option.some.inj equal).symm
  rw [unchanged]
  exact valid

theorem index_lt {index : Nat} (inside : index < table.entries.length) :
    62 + index < 2 ^ 32 := by
  have lengthLe := valid.length_le
  have capacityLe := valid.capacity_le
  have entriesEq := valid.maxEntries_eq
  have limit := valid.limit_le
  simp only [uint32Max] at limit
  omega

end

end DynTable.Valid

/-! ## Comparison with RFC 7541 section 4.4 -/

/--
The entries RFC 7541 section 4.4 prescribes: evict the oldest entries until
the new one fits and insert it, or end with an empty table if it never fits.
-/
def referenceAdd (maxSize : Nat) (entries : List Entry) (entry : Entry) :
    List Entry :=
  if entry.size ≤ maxSize then
    entry :: evict Entry.size (maxSize - entry.size) entries
  else
    []

/-- The tables reached by insertions and limit changes. -/
inductive DynTable.Reachable (maxDynamicTableBytes : Nat) :
    DynTable → Prop where
  | create (limit : maxDynamicTableBytes ≤ uint32Max) :
      Reachable maxDynamicTableBytes (dynTableCreate maxDynamicTableBytes)
  | add
      (before : Reachable maxDynamicTableBytes table)
      (equal : dynTableAdd table name value = some added) :
      Reachable maxDynamicTableBytes added
  | setMaxSize
      (before : Reachable maxDynamicTableBytes table)
      (allowed : newMaxSize ≤ maxDynamicTableBytes) :
      Reachable maxDynamicTableBytes (dynTableSetMaxSize table newMaxSize)

/-- Every reachable table is valid. -/
theorem DynTable.Reachable.valid {maxDynamicTableBytes : Nat} {table : DynTable}
    (reachable : table.Reachable maxDynamicTableBytes) :
    table.Valid maxDynamicTableBytes := by
  induction reachable with
  | create limit => exact DynTable.Valid.create limit
  | add _ equal valid => exact valid.add equal
  | setMaxSize _ allowed valid => exact valid.setMaxSize allowed

/-- An insertion which succeeds with the table of RFC 7541 section 4.4. -/
def AddsAsReference (table : DynTable) (name value : Bytes) : Prop := ∃ added,
    dynTableAdd table name value = some added ∧ added.entries =
        referenceAdd table.maxSize table.entries { name, value } ∧
      added.size = total Entry.size added.entries ∧
      added.size ≤ added.maxSize ∧
      added.maxSize = table.maxSize

/--
The size of every reachable table is the sum of its entries and within its
limit.  An insertion yields the table of RFC 7541 section 4.4 exactly if the
entry fits and the array holds fewer than `max_dynamic_table_bytes / 32`
entries, or the entry does not fit and the table is already empty.
-/
theorem addsAsReference_iff {maxDynamicTableBytes : Nat} {table : DynTable}
    (reachable : table.Reachable maxDynamicTableBytes) (name value : Bytes) :
    table.size = total Entry.size table.entries ∧
      table.size ≤ table.maxSize ∧
      (AddsAsReference table name value ↔
        Entry.size { name, value } ≤ table.maxSize ∧
            table.entries.length < maxDynamicTableBytes / 32 ∨
          table.maxSize < Entry.size { name, value } ∧
            Entry.size { name, value } ≤ sizeMax ∧
            table.entries = []) := by
  have valid := reachable.valid
  refine ⟨valid.size_eq, valid.size_le, ?_⟩
  rw [← valid.maxEntries_eq]
  by_cases fits : Entry.size { name, value } ≤ table.maxSize
  · have notExceeds := Nat.not_lt.mpr fits
    rcases Nat.lt_or_ge table.entries.length table.maxEntries with
      below | full
    · obtain ⟨capacity, addEq, _, _⟩ := valid.add_eq_of_fits fits below
      have added := valid.add addEq
      refine iff_of_true ?_ (.inl ⟨fits, below⟩)
      refine ⟨_, addEq, ?_, rfl, added.size_le, rfl⟩
      simp only [referenceAdd, if_pos fits, evict_eq_keep]
    refine iff_of_false ?_ ?_
    · rintro ⟨added, addEq, _⟩
      rw [valid.add_eq_none_of_full fits full] at addEq
      cases addEq
    · rintro (⟨_, below⟩ | ⟨exceeds, _⟩)
      · omega
      · exact notExceeds exceeds
  have exceeds := Nat.lt_of_not_le fits
  by_cases sized : Entry.size { name, value } ≤ sizeMax
  · have addEq := DynTable.Valid.add_eq_of_exceeds sized exceeds
    constructor
    · rintro ⟨added, equal, entriesEq, _⟩
      rw [addEq, Option.some.injEq] at equal
      subst equal
      rw [referenceAdd, if_neg fits] at entriesEq
      exact .inr ⟨exceeds, sized, entriesEq⟩
    · rintro (⟨fits', _⟩ | ⟨_, _, empty⟩)
      · exact (fits fits').elim
      · refine ⟨table, addEq, ?_, valid.size_eq, valid.size_le, rfl⟩
        rw [referenceAdd, if_neg fits, empty]
  refine iff_of_false ?_ ?_
  · rintro ⟨added, equal, _⟩
    have overflow : sizeMax - value.length < name.length ∨
        sizeMax - 32 < name.length + value.length := by
      simp only [sizeMax, Entry.size] at *
      omega
    rw [dynTableAdd, if_pos overflow] at equal
    cases equal
  · rintro (⟨fits', _⟩ | ⟨_, sized', _⟩)
    · exact fits fits'
    · exact sized sized'

/-- A table of 64 bytes which holds the single field `a: b`. -/
def shortTable : DynTable where
  entries := [{ name := ascii "a", value := ascii "b" }]
  capacity := 2
  maxEntries := 2
  size := 34
  maxSize := 64

theorem shortTable_reachable : shortTable.Reachable 64 := by
  have limit : 64 ≤ uint32Max := by decide
  have added : dynTableAdd (dynTableCreate 64) (ascii "a") (ascii "b") =
      some shortTable := by
    decide
  exact .add (.create limit) added

/-- A table of 64 bytes filled with two fields of the least size. -/
def fullTable : DynTable where
  entries := [{ name := [], value := [] }, { name := [], value := [] }]
  capacity := 2
  maxEntries := 2
  size := 64
  maxSize := 64

theorem fullTable_reachable : fullTable.Reachable 64 := by
  have limit : 64 ≤ uint32Max := by decide
  have first : dynTableAdd (dynTableCreate 64) [] [] = some
        { entries := [{ name := [], value := [] }]
          capacity := 2
          maxEntries := 2
          size := 32
          maxSize := 64 } := by
    decide
  have second : dynTableAdd
        { entries := [{ name := [], value := [] }]
          capacity := 2
          maxEntries := 2
          size := 32
          maxSize := 64 }
        [] [] =
      some fullTable := by
    decide
  exact .add (.add (.create limit) first) second

/--
An oversized field leaves the table alone instead of emptying it, and a field
for a table filled with least-size entries is refused instead of evicting.
-/
theorem not_addsAsReference :
    (shortTable.Reachable 64 ∧
      ¬ AddsAsReference shortTable (List.replicate 33 97) []) ∧
      (fullTable.Reachable 64 ∧ ¬ AddsAsReference fullTable [] []) := by
  refine ⟨⟨shortTable_reachable, ?_⟩, fullTable_reachable, ?_⟩
  · rintro ⟨added, addEq, entriesEq, _⟩
    have unchanged : dynTableAdd shortTable (List.replicate 33 97) [] =
        some shortTable := by
      decide
    rw [unchanged, Option.some.injEq] at addEq
    subst addEq
    revert entriesEq
    decide
  rintro ⟨added, addEq, _⟩
  have refused : dynTableAdd fullTable [] [] = none := by
    decide
  rw [refused] at addEq
  cases addEq

/-- A field which fits evicts the older one, as the reference does. -/
theorem shortTable_addsAsReference : shortTable.Reachable 64 ∧
    AddsAsReference shortTable (ascii "c") (ascii "d") :=
  ⟨shortTable_reachable, (addsAsReference_iff shortTable_reachable _ _).2.2.mpr
      (.inl (by decide))⟩

end Chttp.Hpack
