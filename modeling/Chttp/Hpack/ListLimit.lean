import Chttp.Hpack.Lockstep

/-!
# The header list limit

A list which outgrows the limit is still decoded to its end, so that the
dynamic table stays that of the peer; only the callback is no longer called.
A block is decoded here with and without the limit, and the two runs are
compared: what the limited one has to show is `hidden` of what the other has
recorded.
-/

namespace Chttp.Hpack

open Lib
open Lib.Eviction

/-- The state of a limited run, from what an unlimited one has recorded. -/
def hidden (limit : Nat) (hpack : HpackContext) (fields : List Entry) :
    DecodeState Recording where
  world := (hpack, keep Entry.size limit fields)
  listBytes := total Entry.size (keep Entry.size limit fields)
  tooLarge := limit < total Entry.size fields

section

variable {limit : Nat} (positive : 0 < limit) (bounded : limit ≤ sizeMax)

include positive bounded

theorem deliverField_hidden (hpack : HpackContext) (fields : List Entry)
    (field : Entry) :
    deliverField recordField limit (hidden limit hpack fields) field =
      (hidden limit hpack (fields ++ [field]), true) := by
  have size : field.size = field.name.length + field.value.length + 32 := rfl
  have sum : total Entry.size (fields ++ [field]) =
      total Entry.size fields + field.size := by
    simp
  by_cases full : limit < total Entry.size fields
  · have exceeds : limit < total Entry.size (fields ++ [field]) := by omega
    simp [-total_append, deliverField, hidden, full, exceeds,
      keep_append_singleton_of_exceeds _ exceeds]
  have all := keep_of_fits Entry.size (Nat.le_of_not_lt full)
  by_cases exceeds : limit < total Entry.size (fields ++ [field])
  · have counted : addHeaderListSize (total Entry.size fields) field.name.length
        field.value.length limit = none := by
      rw [addHeaderListSize, if_neg (by omega)]
      split
      · rfl
      · rw [if_pos (by omega)]
    simp [-total_append, deliverField, hidden, full, exceeds, all, counted,
      keep_append_singleton_of_exceeds _ exceeds]
  · have counted : addHeaderListSize (total Entry.size fields) field.name.length
        field.value.length limit =
          some (total Entry.size (fields ++ [field])) := by
      rw [addHeaderListSize, if_neg (by omega), if_neg (by omega),
        if_neg (by omega), sum, size]
    simp [-total_append, deliverField, hidden, full, exceeds, all, counted,
      recordField,
      keep_of_fits _ (Nat.le_of_not_lt exceeds)]

theorem hidden_decodesAlong :
    DecodesAlong recordingContext recordingContext recordField recordField limit
      0
      (fun left right => ∃ hpack fields, left = hidden limit hpack fields ∧
        right = recordedState hpack fields) False := by
  constructor
  · rintro _ _ ⟨hpack, fields, rfl, rfl⟩
    exact ⟨rfl, rfl, rfl, rfl⟩
  · rintro _ _ decoder ⟨hpack, fields, rfl, rfl⟩
    exact ⟨{ hpack with decoder }, fields, rfl, rfl⟩
  · rintro _ _ field ⟨hpack, fields, rfl, rfl⟩
    rw [deliverField_hidden positive bounded, deliverField_record]
    exact ⟨⟨hpack, fields ++ [field], rfl, rfl⟩, rfl, by simp⟩

end

/--
Decoding with a list limit leaves the table which decoding without one leaves.
It fails on the same blocks, reads as much of the others, and tells a list
within the limit from a larger one.  The fields delivered are the longest front
of the list within the limit.
-/
theorem decode_within_limit (hpack : HpackContext) (block : Bytes) {limit : Nat}
    (positive : 0 < limit) (bounded : limit ≤ sizeMax) :
    let free := decode recordingContext recordField 0 (hpack, []) block
    let within := decode recordingContext recordField limit (hpack, []) block
    within.1.1 = free.1.1 ∧ (free.2.1 = .malformed → within.2.1 = .malformed) ∧
      (free.2.1 ≠ .malformed → free.2.1 = .ok ∧ within.2.2 = free.2.2 ∧
        within.2.1 =
          (if total Entry.size free.1.2 ≤ limit then .ok else .listTooLarge) ∧
        ∀ front, front <+: within.1.2 ↔
          front <+: free.1.2 ∧ total Entry.size front ≤ limit) := by
  have start : hidden limit hpack [] = recordedState hpack [] := by
    simp [hidden, recordedState]
  intro free within
  obtain ⟨_, _, ⟨hpack', fields, rfl, rfl⟩, decoded⟩ :=
    (hidden_decodesAlong positive bounded).decode
      ⟨hpack, [], start.symm, rfl⟩ block
  rcases decoded with ⟨_, rfl | ⟨-, never⟩, withinEq, freeEq⟩ | ⟨withinEq,
    freeEq⟩
  · simp [free, within, withinEq, freeEq, hidden, recordedState]
  · exact never.elim
  · by_cases fits : total Entry.size fields ≤ limit
    · simp [free, within, withinEq, freeEq, hidden, recordedState,
        DecodeState.verdict, fits,
        Nat.not_lt.mpr fits, prefix_keep_iff]
    · simp [free, within, withinEq, freeEq, hidden, recordedState,
        DecodeState.verdict, fits,
        Nat.lt_of_not_le fits, prefix_keep_iff]

/-- Of two fields of the static table, 42 octets leave the first. -/
theorem decode_within_limit_twoFields :
    ∃ hpack, HpackContext.create smallConfig = some hpack ∧
    let free := decode recordingContext recordField 0 (hpack, []) [0x82, 0x84]
    let within := decode recordingContext recordField 42
      (hpack, []) [0x82, 0x84]
    free.2 = (.ok, 2) ∧ within.2.2 = 2 ∧ within.2.1 = .listTooLarge ∧
      within.1.2 = free.1.2.take 1 := by
  refine ⟨_, rfl, ?_⟩
  have compared := decode_within_limit
    ((HpackContext.create smallConfig).get rfl) [0x82, 0x84]
    (show 0 < 42 by decide) (by decide)
  obtain ⟨-, read, verdict, -⟩ := compared.2.2 (by decide)
  exact ⟨rfl, read, verdict, rfl⟩

end Chttp.Hpack
