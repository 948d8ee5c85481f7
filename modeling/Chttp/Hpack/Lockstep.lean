import Chttp.Lib.Slots
import Chttp.Hpack.Context

/-!
# Encoder and decoder stay in lock-step

Two contexts are created from one configuration.  The first is used to encode
and to change the encoder's table limit; every block it produces is decoded by
the second.  `InStep` relates the sender's table to the receiver's: they are
equal, unless limit changes are still to be announced, in which case the
sender's entries are what the smallest announced limit keeps of the
receiver's.

One field keeps aligned tables aligned (`encodeField_decodes`), hence so does a
block (`encode_decodes`), and hence every run is in step.
-/

namespace Chttp.Hpack

open Lib
open Lib.Eviction

/-! ## Table lookups -/

theorem length_staticTable : staticTable.length = 61 := by
  decide

variable {name value input : Bytes}
  {hpack sender receiver sender' : HpackContext}
  {out written middle out' : Buffer} {field : Entry}
    {state : DecodeState Recording} {octet : UInt8}

theorem tableGet_staticFindFull (found : staticFindFull name value ≠ 0)
    (hpack : HpackContext) :
    staticFindFull name value < 2 ^ 32 ∧
      tableGet hpack (staticFindFull name value) =
        some { name, value } := by
  revert found
  rw [staticFindFull]
  split
  · exact fun found => (found rfl).elim
  rename_i index indexEq
  intro _
  obtain ⟨inside, entry, entryEq, hit⟩ := getElem?_of_findIdx? indexEq
  rw [length_staticTable] at inside
  simp only [Bool.and_eq_true, beq_iff_eq] at hit
  refine ⟨by omega, ?_⟩
  rw [tableGet, if_neg (by omega), if_pos (by omega), Nat.add_sub_cancel,
    entryEq, ← hit.1, ← hit.2]

theorem tableGet_staticFindName (found : staticFindName name ≠ 0)
    (hpack : HpackContext) :
    staticFindName name < 2 ^ 32 ∧ ∃ entry,
      tableGet hpack (staticFindName name) = some entry ∧
          entry.name = name := by
  revert found
  rw [staticFindName]
  split
  · exact fun found => (found rfl).elim
  rename_i index indexEq
  intro _
  obtain ⟨inside, entry, entryEq, hit⟩ := getElem?_of_findIdx? indexEq
  rw [length_staticTable] at inside
  refine ⟨by omega, entry, ?_, beq_iff_eq.mp hit⟩
  rw [tableGet, if_neg (by omega), if_pos (by omega), Nat.add_sub_cancel,
    entryEq]

theorem tableGet_dynTableFind {limit : Nat} {table : DynTable}
    (valid : table.Valid limit)
    {nameOnly : Bool} (found : dynTableFind table name value nameOnly ≠ 0)
    (same : table.entries = hpack.decoder.entries) :
    dynTableFind table name value nameOnly < 2 ^ 32 ∧ ∃ entry,
        tableGet hpack (dynTableFind table name value nameOnly) = some entry ∧
          entry.name = name ∧
          (nameOnly = false → entry.value = value) := by
  revert found
  rw [dynTableFind]
  split
  · exact fun found => (found rfl).elim
  rename_i index indexEq
  intro _
  obtain ⟨inside, entry, entryEq, hit⟩ := getElem?_of_findIdx? indexEq
  have bound := valid.index_lt inside
  simp only [Bool.and_eq_true, beq_iff_eq, Bool.or_eq_true] at hit
  rw [Nat.mod_eq_of_lt bound]
  refine ⟨bound, entry, ?_, hit.1, ?_⟩
  · rw [tableGet, if_neg (by omega), if_neg (by omega), ← same,
      Nat.add_sub_cancel_left, entryEq]
  intro full
  rcases hit.2 with impossible | valueEq
  · rw [full] at impossible
    cases impossible
  · exact valueEq

/-! ## The representations -/

theorem putFlaggedInteger_eq {value prefixBits : Nat} {flag : UInt8}
    (equal : putFlaggedInteger out value prefixBits flag = some written)
    {first : UInt8}
    {tail : Bytes} (octets : integerOctets value prefixBits = first :: tail) :
    written.data = out.data ++ (first ||| flag) :: tail ∧
      written.maxCapacity = out.maxCapacity := by
  rw [putFlaggedInteger, integerEncode] at equal
  split at equal
  · cases equal
  rename_i plain plainEq
  split at plainEq
  · cases plainEq
  · rw [octets] at plainEq
    cases equal
    exact ⟨Buffer.orByte_data_of_write plainEq,
      (Buffer.write_eq_some_iff.mp plainEq).2⟩

theorem putLiteralStrings_eq {nameIndex : Nat}
    (equal : putLiteralStrings out nameIndex field = some written) :
    (nameIndex = 0 → field.name.length ≤ 0x7fffffff) ∧
      field.value.length ≤ 0x7fffffff ∧
      written.data =
        out.data ++
          ((if nameIndex = 0 then stringOctets field.name else []) ++
            stringOctets field.value) ∧
      written.maxCapacity = out.maxCapacity := by
  rw [putLiteralStrings] at equal
  by_cases named : nameIndex = 0
  · rw [if_pos named] at equal
    split at equal
    · cases equal
    rename_i middle nameEq
    obtain ⟨nameShort, nameWritten⟩ := putString_plain_iff.mp nameEq
    obtain ⟨valueShort, valueWritten⟩ := putString_plain_iff.mp equal
    have first := Buffer.write_eq_some_iff.mp nameWritten
    have second := Buffer.write_eq_some_iff.mp valueWritten
    refine ⟨fun _ => nameShort, valueShort, ?_, ?_⟩
    · rw [if_pos named, second.1, first.1, List.append_assoc]
    · rw [second.2, first.2]
  · rw [if_neg named] at equal
    obtain ⟨valueShort, valueWritten⟩ := putString_plain_iff.mp equal
    have written := Buffer.write_eq_some_iff.mp valueWritten
    exact ⟨fun zero => (named zero).elim,
      valueShort, by simpa [named] using written.1, written.2⟩

/-- The context accepts both strings and finds the name under its index. -/
structure Readable (hpack : HpackContext) (nameIndex : Nat) (field : Entry) :
    Prop where
  name_le : field.name.length ≤ hpack.maxStringBytes
  value_le : field.value.length ≤ hpack.maxStringBytes
  named : nameIndex ≠ 0 → ∃ entry, tableGet hpack nameIndex = some entry ∧
    entry.name = field.name

theorem getLiteral_octets {nameIndex : Nat}
    (readable : Readable hpack nameIndex field)
    (nameShort : nameIndex = 0 → field.name.length ≤ 0x7fffffff)
    (valueShort : field.value.length ≤ 0x7fffffff) (rest : Bytes) :
    getLiteral hpack nameIndex
        (((if nameIndex = 0 then stringOctets field.name else []) ++
          stringOctets field.value) ++ rest) =
      some (field, rest) := by
  have valueRead := getString_stringOctets valueShort readable.value_le rest
  rw [getLiteral]
  by_cases zero : nameIndex = 0
  · have nameRead := getString_stringOctets (nameShort zero) readable.name_le
        (stringOctets field.value ++ rest)
    simp only [if_pos zero, List.append_assoc, nameRead, valueRead]
  · obtain ⟨entry, entryEq, nameEq⟩ := readable.named zero
    simp only [if_neg zero, List.nil_append, entryEq, valueRead, nameEq]

/-! ## Recording what a block delivers -/

/-- A context together with the fields delivered so far. -/
abbrev Recording := HpackContext × List Entry

/-- The context inside a recording. -/
def recordingContext : ContextIn Recording where
  get := Prod.fst
  set recording hpack := (hpack, recording.2)

/-- The callback which records every field and returns zero. -/
def recordField : FieldCallback Recording := fun recording field =>
  ((recording.1, recording.2 ++ [field]), 0)

/-- Decode a block without a list limit, recording its fields. -/
def decodeRecording (hpack : HpackContext) (block : Bytes) :
    Recording × DecodeStatus × Nat :=
  decode recordingContext recordField 0 (hpack, []) block

/-- The decoder state in which a number of fields has been recorded. -/
def recordedState (hpack : HpackContext) (fields : List Entry) :
    DecodeState Recording where
  world := (hpack, fields)
  listBytes := 0
  tooLarge := false

theorem deliverField_record (hpack : HpackContext) (fields : List Entry)
    (field : Entry) :
    deliverField recordField 0 (recordedState hpack fields) field =
      (recordedState hpack (fields ++ [field]), true) := by
  simp [deliverField, recordedState, addHeaderListSize, recordField]

/-- One round of the decoder on a non-empty input. -/
def decodeRound (state : DecodeState Recording) : Bytes → DecodeStep Recording
  | [] => .stop state.world .malformed
  | octet :: input =>
    decodeOne recordingContext recordField 0 state octet (octet :: input)

theorem mask_set {value : Nat} (mask position : Nat)
    (single : mask = 2 ^ position)
    (odd : value / 2 ^ position % 2 = 1) : value &&& mask ≠ 0 := by
  intro clear
  rw [single, and_bit_eq_zero_iff, odd] at clear
  cases clear

theorem mask_clear {value : Nat} (mask position : Nat)
    (single : mask = 2 ^ position)
    (even : value / 2 ^ position % 2 = 0) : ¬ (value &&& mask ≠ 0) := by
  rw [not_not, single, and_bit_eq_zero_iff, even]

theorem decodeRound_indexed (flagged : octet.toNat / 2 ^ 7 = 1) :
    decodeRound state (octet :: input) =
      decodeIndexed recordingContext recordField 0 state
        (octet :: input) := by
  rw [decodeRound, decodeOne, if_pos (mask_set 0x80 7 rfl (by omega))]

theorem decodeRound_incremental (flagged : octet.toNat / 2 ^ 6 = 1) :
    decodeRound state (octet :: input) =
      decodeIncremental recordingContext recordField 0 state
        (octet :: input) := by
  rw [decodeRound, decodeOne, if_neg (mask_clear 0x80 7 rfl (by omega)),
    if_pos (mask_set 0x40 6 rfl (by omega))]

theorem decodeRound_sizeUpdate (flagged : octet.toNat / 2 ^ 5 = 1) :
    decodeRound state (octet :: input) =
      decodeSizeUpdate recordingContext state (octet :: input) := by
  rw [decodeRound, decodeOne, if_neg (mask_clear 0x80 7 rfl (by omega)),
    if_neg (mask_clear 0x40 6 rfl (by omega)),
      if_pos (mask_set 0x20 5 rfl (by omega))]

theorem decodeRound_literal (flagged : octet.toNat / 2 ^ 4 = 0) :
    decodeRound state (octet :: input) =
      decodeLiteral recordingContext recordField 0 state
        (octet :: input) := by
  rw [decodeRound, decodeOne, if_neg (mask_clear 0x80 7 rfl (by omega)),
    if_neg (mask_clear 0x40 6 rfl (by omega)),
      if_neg (mask_clear 0x20 5 rfl (by omega))]

/-! ## One field -/

/-- The sender's encoder table equals the receiver's decoder table. -/
structure Aligned (sender receiver : HpackContext) : Prop where
  senderValid : sender.encoder.Valid sender.maxDynamicTableBytes
  receiverValid : receiver.decoder.Valid sender.maxDynamicTableBytes
  entries_eq : sender.encoder.entries = receiver.decoder.entries
  maxSize_eq : sender.encoder.maxSize = receiver.decoder.maxSize
  maxStringBytes_eq : sender.maxStringBytes = receiver.maxStringBytes

theorem Aligned.tableGet_fieldIndex (aligned : Aligned sender receiver)
    (indexed : fieldIndex sender field ≠ 0) :
    fieldIndex sender field < 2 ^ 32 ∧
      tableGet receiver (fieldIndex sender field) = some field := by
  rw [fieldIndex] at indexed ⊢
  by_cases missing : staticFindFull field.name field.value = 0
  · rw [if_pos missing] at indexed ⊢
    obtain ⟨index32, entry, entryEq, nameEq, valueEq⟩ :=
      tableGet_dynTableFind aligned.senderValid indexed aligned.entries_eq
    refine ⟨index32, entryEq.trans ?_⟩
    cases entry
    cases field
    simp_all
  · rw [if_neg missing]
    exact tableGet_staticFindFull missing receiver

theorem Aligned.tableGet_nameIndex (aligned : Aligned sender receiver)
    (name : Bytes) :
    nameIndex sender name < 2 ^ 32 ∧
      (nameIndex sender name ≠ 0 → ∃ entry,
        tableGet receiver (nameIndex sender name) = some entry ∧
            entry.name = name) := by
  rw [nameIndex]
  by_cases missing : staticFindName name = 0
  · rw [if_pos missing]
    by_cases absent : dynTableFind sender.encoder name [] true = 0
    · rw [absent]
      exact ⟨by decide, fun impossible => (impossible rfl).elim⟩
    · obtain ⟨index32, entry, entryEq, nameEq, _⟩ :=
        tableGet_dynTableFind aligned.senderValid absent aligned.entries_eq
      exact ⟨index32, fun _ => ⟨entry, entryEq, nameEq⟩⟩
  · rw [if_neg missing]
    have static := tableGet_staticFindName missing receiver
    exact ⟨static.1, fun _ => static.2⟩

theorem dynTableAdd_congr {limit : Nat} {left right leftAdded : DynTable}
    (leftValid : left.Valid limit) (rightValid : right.Valid limit)
    (entriesEq : left.entries = right.entries)
    (maxSizeEq : left.maxSize = right.maxSize)
    (equal : dynTableAdd left name value = some leftAdded) :
    ∃ rightAdded, dynTableAdd right name value = some rightAdded ∧
        leftAdded.entries = rightAdded.entries ∧
        leftAdded.maxSize = rightAdded.maxSize := by
  by_cases fits : Entry.size { name, value } ≤ left.maxSize
  · have rightFits : Entry.size { name, value } ≤ right.maxSize :=
      maxSizeEq ▸ fits
    rcases Nat.lt_or_ge left.entries.length left.maxEntries with
      below | full
    · have rightBelow : right.entries.length < right.maxEntries := by
        rw [← entriesEq, rightValid.maxEntries_eq, ← leftValid.maxEntries_eq]
        exact below
      obtain ⟨_, leftEq, _⟩ := leftValid.add_eq_of_fits fits below
      obtain ⟨_, rightEq, _⟩ := rightValid.add_eq_of_fits rightFits rightBelow
      rw [leftEq, Option.some.injEq] at equal
      subst equal
      refine ⟨_, rightEq, ?_, maxSizeEq⟩
      simp only [entriesEq, maxSizeEq]
    · rw [leftValid.add_eq_none_of_full fits full] at equal
      cases equal
  have exceeds := Nat.lt_of_not_le fits
  have rightExceeds : right.maxSize < Entry.size { name, value } :=
    maxSizeEq ▸ exceeds
  rw [dynTableAdd] at equal
  split at equal
  · cases equal
  rename_i small
  rw [if_pos exceeds, Option.some.injEq] at equal
  subst equal
  refine ⟨right, ?_, entriesEq, maxSizeEq⟩
  rw [dynTableAdd, if_neg small, if_pos rightExceeds]

/-- One round reads what was appended, as a representation that delivers
`added`. -/
def ReadBack (receiver receiver' : HpackContext) (added : List Entry)
    (out written : Buffer) :
    Prop :=
  ∃ octets, octets ≠ [] ∧ written.data = out.data ++ octets ∧
    written.maxCapacity = out.maxCapacity ∧
    ∀ rest fields, decodeRound (recordedState receiver fields)
      (octets ++ rest) =
      .next (recordedState receiver' (fields ++ added)) rest

theorem decodeRound_flaggedIndex {index : Nat} (index32 : index < 2 ^ 32)
    (found : tableGet receiver index = some field)
    (equal : putFlaggedInteger out index 7 0x80 = some written) :
    ReadBack receiver receiver [field] out written := by
  obtain ⟨first, tail, octets⟩ := exists_integerOctets index 7
  obtain ⟨dataEq, capacityEq⟩ := putFlaggedInteger_eq equal octets
  refine ⟨(first ||| 0x80) :: tail, by simp, dataEq, capacityEq, ?_⟩
  intro rest fields
  obtain ⟨flagged, read⟩ := getInt_flagged (by decide) (by decide) index32
      (by decide : (0x80 : UInt8).toNat = 2 ^ 7 * 1) octets rest
  rw [List.cons_append, decodeRound_indexed flagged, decodeIndexed, read]
  simp only [recordedState, recordingContext, found]
  have delivered := deliverField_record receiver fields field
  simp only [recordedState] at delivered
  simp only [delivered, if_true]

/--
The octets of a literal: its flagged name index, read back from the first
octets, and the strings, read back to the field.
-/
theorem literal_octets {nameIndex prefixBits flag : Nat}
    (positive : 1 ≤ prefixBits)
    (atMost : prefixBits ≤ 8) (index32 : nameIndex < 2 ^ 32) {mask : UInt8}
    (flagValue : mask.toNat = 2 ^ prefixBits * flag)
    (indexEq : ∀ first tail, integerOctets nameIndex prefixBits =
      first :: tail →
      middle.data = out.data ++ (first ||| mask) :: tail ∧
        middle.maxCapacity = out.maxCapacity)
    (stringsEq : putLiteralStrings middle nameIndex field = some written)
    (readable : Readable receiver nameIndex field) :
    ∃ octet tail strings, octet.toNat / 2 ^ prefixBits = flag ∧
      written.data = out.data ++ octet :: (tail ++ strings) ∧
      written.maxCapacity = out.maxCapacity ∧
      ∀ rest, getInt prefixBits (octet :: (tail ++ (strings ++ rest))) =
          some (nameIndex, strings ++ rest) ∧
        getLiteral receiver nameIndex (strings ++ rest) =
          some (field, rest) := by
  obtain ⟨first, tail, octets⟩ := exists_integerOctets nameIndex prefixBits
  obtain ⟨nameShort, valueShort, stringsData, stringsCapacity⟩ :=
    putLiteralStrings_eq stringsEq
  obtain ⟨indexData, indexCapacity⟩ := indexEq first tail octets
  have read := getInt_flagged positive atMost index32 flagValue octets
  refine ⟨first ||| mask, tail, _, (read []).1, ?_, ?_, fun rest => ⟨(read _).2,
    getLiteral_octets readable nameShort valueShort rest⟩⟩
  · rw [stringsData, indexData, List.append_assoc, List.cons_append]
  · rw [stringsCapacity, indexCapacity]

theorem decodeRound_plainLiteral {nameIndex : Nat}
    (index32 : nameIndex < 2 ^ 32)
    (indexEq : integerEncode out nameIndex 4 = some middle)
    (stringsEq : putLiteralStrings middle nameIndex field = some written)
    (readable : Readable receiver nameIndex field) :
    ReadBack receiver receiver [field] out written := by
  rw [integerEncode, if_neg (by decide)] at indexEq
  obtain ⟨octet, tail, strings, flagged, dataEq, capacityEq, read⟩ :=
    literal_octets (by decide) (by decide) index32
      (by decide : (0 : UInt8).toNat = 2 ^ 4 * 0)
      (fun first tail octets => by
        rw [octets] at indexEq
        rw [UInt8.or_zero]
        exact Buffer.write_eq_some_iff.mp indexEq)
      stringsEq readable
  refine ⟨_, List.cons_ne_nil _ _, dataEq, capacityEq, fun rest fields => ?_⟩
  have delivered := deliverField_record receiver fields field
  rw [List.cons_append, decodeRound_literal flagged, decodeLiteral,
    List.append_assoc,
    (read rest).1]
  simp only [recordedState, recordingContext, (read rest).2] at delivered ⊢
  simp only [delivered, if_true]

/-- A literal with incremental indexing is read back and then inserted. -/
theorem decodeRound_incrementalLiteral {nameIndex : Nat}
    (index32 : nameIndex < 2 ^ 32)
    (indexEq : putFlaggedInteger out nameIndex 6 0x40 = some middle)
    (stringsEq : putLiteralStrings middle nameIndex field = some written)
    (readable : Readable receiver nameIndex field) {decoder : DynTable}
    (added : dynTableAdd receiver.decoder field.name field.value =
      some decoder) :
    ReadBack receiver { receiver with decoder } [field] out written := by
  obtain ⟨octet, tail, strings, flagged, dataEq, capacityEq, read⟩ :=
    literal_octets (by decide) (by decide) index32
      (by decide : (0x40 : UInt8).toNat = 2 ^ 6 * 1)
      (fun _ _ octets => putFlaggedInteger_eq indexEq octets)
      stringsEq readable
  refine ⟨_, List.cons_ne_nil _ _, dataEq, capacityEq, fun rest fields => ?_⟩
  have delivered := deliverField_record receiver fields field
  rw [List.cons_append, decodeRound_incremental flagged, decodeIncremental,
    List.append_assoc,
    (read rest).1]
  simp only [recordedState, recordingContext, (read rest).2] at delivered ⊢
  simp only [delivered, if_true, added]

/--
One encoded field: its octets are decoded to the field in one round, and the
tables stay aligned.
-/
theorem encodeField_decodes (aligned : Aligned sender receiver)
    (equal : encodeField sender out field = some (sender', out')) :
    ∃ encoder decoder, sender' = { sender with encoder } ∧
        Aligned sender' { receiver with decoder } ∧
        ReadBack receiver { receiver with decoder } [field] out out' := by
  rw [encodeField] at equal
  split at equal
  · cases equal
  rename_i short
  split at equal
  · rename_i indexed
    split at equal
    · cases equal
    rename_i written writtenEq
    cases equal
    have found := aligned.tableGet_fieldIndex indexed
    exact ⟨sender.encoder, receiver.decoder, rfl, aligned,
      decodeRound_flaggedIndex found.1 found.2 writtenEq⟩
  have found := aligned.tableGet_nameIndex field.name
  have bound := aligned.maxStringBytes_eq
  have readable : Readable receiver (nameIndex sender field.name) field :=
    ⟨by omega, by omega, found.2⟩
  split at equal
  · split at equal
    · cases equal
    rename_i middle indexEq
    split at equal
    · cases equal
    rename_i written stringsEq
    cases equal
    exact ⟨sender.encoder, receiver.decoder, rfl, aligned,
      decodeRound_plainLiteral found.1 indexEq stringsEq readable⟩
  split at equal
  · cases equal
  rename_i middle indexEq
  split at equal
  · cases equal
  rename_i written stringsEq
  split at equal
  · cases equal
  rename_i encoder encoderEq
  cases equal
  obtain ⟨decoder, decoderEq, entriesEq, maxSizeEq⟩ :=
    dynTableAdd_congr aligned.senderValid aligned.receiverValid
      aligned.entries_eq aligned.maxSize_eq encoderEq
  exact ⟨encoder, decoder, rfl, ⟨aligned.senderValid.add encoderEq,
    aligned.receiverValid.add decoderEq, entriesEq, maxSizeEq,
    aligned.maxStringBytes_eq⟩,
    decodeRound_incrementalLiteral found.1 indexEq stringsEq readable decoderEq⟩

/-! ## A block -/

/-- Decode the rest of a block from a state with recorded fields. -/
abbrev decodeRest (rounds : Nat) (hpack : HpackContext)
    (delivered : List Entry) (input : Bytes) : Recording × DecodeStatus :=
  decodeLoop recordingContext recordField 0 rounds
    (recordedState hpack delivered) input

theorem decodeRest_round {receiver' : HpackContext}
    {delivered delivered' : List Entry}
    {octets : Bytes} (nonempty : octets ≠ []) {rest : Bytes}
    (round : decodeRound (recordedState receiver delivered) (octets ++ rest) =
      .next (recordedState receiver' delivered') rest) {rounds : Nat}
    (enough : (octets ++ rest).length ≤ rounds) :
    ∃ fewer, rest.length ≤ fewer ∧
      decodeRest rounds receiver delivered (octets ++ rest) =
          decodeRest fewer receiver' delivered' rest := by
  obtain ⟨octet, tail, rfl⟩ := List.exists_cons_of_ne_nil nonempty
  simp only [List.cons_append, List.length_cons, List.length_append] at *
  cases rounds with
  | zero => omega
  | succ rounds =>
    refine ⟨rounds, by omega, ?_⟩
    rw [decodeRound] at round
    rw [decodeRest, decodeLoop, round]

theorem encodeFields_decodes {fields : List Entry}
    (aligned : Aligned sender receiver)
    (equal : encodeFields sender out fields = (sender', some out')) :
    ∃ octets encoder decoder, sender' = { sender with encoder } ∧
        Aligned sender' { receiver with decoder } ∧
        out'.data = out.data ++ octets ∧
        out'.maxCapacity = out.maxCapacity ∧
        ∀ rounds delivered, octets.length ≤ rounds →
          decodeRest rounds receiver delivered octets =
              (({ receiver with decoder }, delivered ++ fields), .ok) := by
  induction fields generalizing sender receiver out with
  | nil =>
    rw [encodeFields] at equal
    obtain ⟨rfl, rfl⟩ : sender = sender' ∧ out = out' := by
      simpa using equal
    refine ⟨[], sender.encoder, receiver.decoder, rfl, aligned, by simp,
      rfl, ?_⟩
    intro rounds delivered _
    simp [decodeRest, decodeLoop, recordedState]
  | cons field fields induction =>
    rw [encodeFields] at equal
    split at equal
    · cases equal
    rename_i middle middleOut fieldEq
    obtain ⟨encoder, decoder, rfl, aligned', octets, nonempty, dataEq,
      capacityEq, decodes⟩ := encodeField_decodes aligned fieldEq
    obtain ⟨octets', encoder', decoder', senderEq, aligned'', dataEq',
      capacityEq', decodes'⟩ := induction aligned' equal
    refine ⟨octets ++ octets', encoder', decoder', senderEq, aligned'', ?_, ?_,
      ?_⟩
    · rw [dataEq', dataEq, List.append_assoc]
    · rw [capacityEq', capacityEq]
    intro rounds delivered enough
    obtain ⟨fewer, enough', roundEq⟩ :=
      decodeRest_round nonempty (decodes octets' delivered) enough
    rw [roundEq, decodes' fewer (delivered ++ [field]) enough',
      List.append_assoc, List.singleton_append]

theorem putTableSizeUpdate_decodes {newSize : Nat}
    (allowed : newSize ≤ receiver.decoderMaxSize)
    (size32 : newSize < 2 ^ 32)
    (equal : putTableSizeUpdate out newSize = some written) :
    ReadBack receiver
      { receiver with decoder := dynTableSetMaxSize receiver.decoder newSize }
      [] out written := by
  obtain ⟨first, tail, octets⟩ := exists_integerOctets newSize 5
  rw [putTableSizeUpdate, Nat.mod_eq_of_lt size32] at equal
  obtain ⟨dataEq, capacityEq⟩ := putFlaggedInteger_eq equal octets
  refine ⟨(first ||| 0x20) :: tail, by simp, dataEq, capacityEq, ?_⟩
  intro rest delivered
  obtain ⟨flagged, read⟩ := getInt_flagged (by decide) (by decide) size32
      (by decide : (0x20 : UInt8).toNat = 2 ^ 5 * 1) octets rest
  have applied : decoderTableSizeUpdate receiver newSize = some
        { receiver with
          decoder := dynTableSetMaxSize receiver.decoder newSize } := by
    rw [decoderTableSizeUpdate, if_neg (Nat.not_lt.mpr allowed)]
  rw [List.cons_append, decodeRound_sizeUpdate flagged, decodeSizeUpdate, read]
  simp only [recordedState, recordingContext, applied, List.append_nil]

/--
The relation between a sender and the receiver of its blocks.  While limit
changes are pending, the sender's entries are those of the receiver which the
smallest pending limit keeps.
-/
structure InStep (sender receiver : HpackContext) : Prop where
  senderValid : sender.encoder.Valid sender.maxDynamicTableBytes
  receiverValid : receiver.decoder.Valid sender.maxDynamicTableBytes
  receiverLimit : receiver.decoderMaxSize = sender.maxDynamicTableBytes
  maxStringBytes_eq : sender.maxStringBytes = receiver.maxStringBytes
  maxHeaderBlockBytes_eq : sender.maxHeaderBlockBytes =
    receiver.maxHeaderBlockBytes
  settled : sender.encoderSizeUpdatePending = false →
    sender.encoder.entries = receiver.decoder.entries ∧
      sender.encoder.maxSize = receiver.decoder.maxSize
  pending : sender.encoderSizeUpdatePending = true → sender.encoder.entries =
        keep Entry.size sender.encoderPendingMinSize receiver.decoder.entries ∧
      sender.encoder.maxSize = sender.encoderPendingFinalSize ∧
      sender.encoderPendingMinSize ≤ sender.encoderPendingFinalSize

/-- A new context is in step with its copy. -/
theorem InStep.start {config : HpackConfig}
    (created : HpackContext.create config = some hpack) :
    InStep hpack hpack := by
  rw [HpackContext.create] at created
  split at created
  · cases created
  rename_i allowed
  cases created
  have limit : config.maxDynamicTableBytes ≤ uint32Max := by
    omega
  exact ⟨.create limit, .create limit, rfl, rfl, rfl, fun _ => ⟨rfl, rfl⟩,
    nofun⟩

/-- A new size at the sender keeps it in step with the receiver. -/
theorem InStep.setMaxSize (inStep : InStep sender receiver) {maxSize : Nat}
    (equal : encoderSetMaxSize sender maxSize = some sender') :
    InStep sender' receiver := by
  rw [encoderSetMaxSize] at equal
  split at equal
  · cases equal
  rename_i allowed
  have allowed' : maxSize ≤ sender.maxDynamicTableBytes := by omega
  have valid := inStep.senderValid.setMaxSize allowed'
  have tableEq := inStep.senderValid.setMaxSize_eq maxSize
  have senderSize := inStep.senderValid.size_le
  rw [inStep.senderValid.size_eq] at senderSize
  by_cases changed : maxSize ≠ sender.encoder.maxSize
  · simp only [if_pos changed, Option.some.injEq] at equal
    subst equal
    refine { inStep with
             senderValid := valid, settled := nofun, pending := fun _ => ?_ }
    simp only [tableEq, true_and]
    cases status : sender.encoderSizeUpdatePending with
    | false =>
      simp [(inStep.settled status).1]
    | true =>
      obtain ⟨entriesEq, maxSizeEq, smaller⟩ := inStep.pending status
      rw [entriesEq, keep_keep]
      by_cases least : maxSize < sender.encoderPendingMinSize
      · simp [least, Nat.min_eq_right least.le]
      · have least' : sender.encoderPendingMinSize ≤ maxSize := by
          omega
        simp [least, least']
  have same : maxSize = sender.encoder.maxSize := not_not.mp changed
  simp only [if_neg changed, Option.some.injEq] at equal
  have unchanged : dynTableSetMaxSize sender.encoder maxSize =
      sender.encoder := by
    rw [tableEq, same, keep_of_fits Entry.size senderSize,
      ← inStep.senderValid.size_eq]
  rw [unchanged] at equal
  subst equal
  exact inStep

/-- The announcements at the start of a block align the tables. -/
theorem putPendingUpdates_decodes (inStep : InStep sender receiver)
    (equal : putPendingUpdates sender out = some out') :
    ∃ octets decoder, Aligned { sender with encoderSizeUpdatePending := false }
          { receiver with decoder } ∧
        out'.data = out.data ++ octets ∧
        out'.maxCapacity = out.maxCapacity ∧
        ∀ rounds delivered rest, (octets ++ rest).length ≤ rounds → ∃ fewer,
        rest.length ≤ fewer ∧
                decodeRest rounds receiver delivered (octets ++ rest) =
                  decodeRest fewer { receiver with decoder } delivered
                    rest := by
  cases status : sender.encoderSizeUpdatePending with
  | false =>
    obtain ⟨entriesEq, maxSizeEq⟩ := inStep.settled status
    rw [putPendingUpdates, status] at equal
    cases equal
    refine ⟨[], receiver.decoder,
      ⟨inStep.senderValid, inStep.receiverValid, entriesEq,
      maxSizeEq, inStep.maxStringBytes_eq⟩, by simp, rfl, ?_⟩
    intro rounds delivered rest enough
    exact ⟨rounds, by simpa using enough, rfl⟩
  | true =>
    obtain ⟨entriesEq, maxSizeEq, smaller⟩ := inStep.pending status
    have limit := inStep.senderValid.limit_le
    have finalLe := inStep.senderValid.maxSize_le
    rw [maxSizeEq] at finalLe
    simp only [uint32Max] at limit
    have senderSize := inStep.senderValid.size_eq
    have minAllowed : sender.encoderPendingMinSize ≤
        receiver.decoderMaxSize := by
      rw [inStep.receiverLimit]
      omega
    have minValid := inStep.receiverValid.setMaxSize (smaller.trans finalLe)
    have minEq :=
      inStep.receiverValid.setMaxSize_eq sender.encoderPendingMinSize
    rw [putPendingUpdates, status] at equal
    simp only [if_true] at equal
    split at equal
    · cases equal
    rename_i middle middleEq
    obtain ⟨octets, nonempty, dataEq, capacityEq, decodes⟩ :=
      putTableSizeUpdate_decodes minAllowed (by omega) middleEq
    split at equal
    · -- The final limit differs from the smallest one and follows it.
      obtain ⟨octets', nonempty', dataEq', capacityEq', decodes'⟩ :=
        putTableSizeUpdate_decodes
          (show sender.encoderPendingFinalSize ≤ HpackContext.decoderMaxSize
                { receiver with
                  decoder :=
                    dynTableSetMaxSize receiver.decoder
                      sender.encoderPendingMinSize } by
            simpa [inStep.receiverLimit] using finalLe)
          (by omega) equal
      have finalValid := minValid.setMaxSize finalLe
      have finalEq := minValid.setMaxSize_eq sender.encoderPendingFinalSize
      refine ⟨octets ++ octets', dynTableSetMaxSize
          (dynTableSetMaxSize receiver.decoder sender.encoderPendingMinSize)
          sender.encoderPendingFinalSize,
        ?_, ?_, ?_, ?_⟩
      · refine ⟨inStep.senderValid, finalValid, ?_, ?_,
          inStep.maxStringBytes_eq⟩
        · rw [finalEq]
          simp only [minEq, keep_keep, min_eq_left smaller, entriesEq]
        · simp only [finalEq, maxSizeEq]
      · rw [dataEq', dataEq, List.append_assoc]
      · rw [capacityEq', capacityEq]
      intro rounds delivered rest enough
      rw [List.append_assoc] at enough ⊢
      obtain ⟨fewer, enough', first⟩ := decodeRest_round nonempty
          (decodes (octets' ++ rest) delivered) enough
      obtain ⟨fewest, enough'', second⟩ :=
        decodeRest_round nonempty' (decodes' rest delivered) enough'
      rw [List.append_nil] at first second
      exact ⟨fewest, enough'', first.trans second⟩
    rename_i sameSize
    cases equal
    have finalIsMin : sender.encoderPendingFinalSize =
        sender.encoderPendingMinSize :=
      not_not.mp sameSize
    refine ⟨octets,
      dynTableSetMaxSize receiver.decoder sender.encoderPendingMinSize,
      ?_, dataEq, capacityEq, ?_⟩
    · refine ⟨inStep.senderValid, minValid, ?_, ?_, inStep.maxStringBytes_eq⟩
      · simp only [minEq, entriesEq]
      · simp only [minEq, maxSizeEq, finalIsMin]
    · intro rounds delivered rest enough
      simpa only [List.append_nil] using decodeRest_round nonempty
        (decodes rest delivered) enough

theorem Aligned.inStep (aligned : Aligned sender receiver)
    (settled : sender.encoderSizeUpdatePending = false)
    (limit : receiver.decoderMaxSize = sender.maxDynamicTableBytes)
    (blockLimit : sender.maxHeaderBlockBytes = receiver.maxHeaderBlockBytes) :
    InStep sender receiver :=
  { aligned with
    receiverLimit := limit
    maxHeaderBlockBytes_eq := blockLimit
    settled := fun _ => ⟨aligned.entries_eq, aligned.maxSize_eq⟩
    pending := fun impossible => by
      rw [settled] at impossible
      cases impossible }

/-- What one successful call of the encoder does to a receiver in step. -/
theorem InStep.encode (inStep : InStep sender receiver) {fields : List Entry}
    (equal : encode sender out fields = (sender', some out')) :
    ∃ decoder, decodeRecording receiver (out'.data.drop out.size) =
          (({ receiver with decoder }, fields), .ok,
            (out'.data.drop out.size).length) ∧
        Aligned sender' { receiver with decoder } ∧
        InStep sender' { receiver with decoder } := by
  rw [Hpack.encode] at equal
  split at equal
  · cases equal
  rename_i blockLimit
  split at equal
  · cases equal
  rename_i middle pendingEq
  obtain ⟨updates, middleDecoder, middleAligned, middleData, middleCapacity,
      updatesDecode⟩ :=
      putPendingUpdates_decodes inStep pendingEq
  obtain ⟨octets, encoder, decoder, rfl, aligned, dataEq, capacityEq,
    fieldsDecode⟩ := encodeFields_decodes middleAligned equal
  have blockEq : out'.data.drop out.size = updates ++ octets := by
    rw [dataEq, middleData, List.append_assoc, Buffer.size, List.drop_left]
  have blockLength : (updates ++ octets).length ≤
      receiver.maxHeaderBlockBytes := by
    have bounded := out'.bounded
    rw [dataEq, middleData, capacityEq, middleCapacity,
      List.append_assoc, List.length_append] at bounded
    rw [← inStep.maxHeaderBlockBytes_eq]
    omega
  obtain ⟨fewer, enough, updatesEq⟩ :=
    updatesDecode (updates ++ octets).length [] octets le_rfl
  have loopEq : decodeRest (updates ++ octets).length receiver []
    (updates ++ octets) =
      (({ receiver with decoder }, fields), .ok) :=
    updatesEq.trans (fieldsDecode fewer [] enough)
  refine ⟨decoder, ?_, aligned, ?_⟩
  · have fits : ¬(recordingContext.get (receiver, [])).maxHeaderBlockBytes <
        (updates ++ octets).length :=
      Nat.not_lt.mpr blockLength
    rw [blockEq, decodeRecording, decode, if_neg fits]
    simp only [decodeRest, recordedState] at loopEq
    rw [loopEq]
  · exact aligned.inStep rfl inStep.receiverLimit inStep.maxHeaderBlockBytes_eq

/-! ## Runs of two contexts -/

/--
The pairs of contexts reached from two contexts of one configuration when the
first one encodes, possibly after changes of its table limit, and the second
one decodes what each call appended.
-/
inductive Paired (config : HpackConfig) :
    HpackContext → HpackContext → Prop where
  | start {hpack : HpackContext} :
      HpackContext.create config = some hpack → Paired config hpack hpack
  | setMaxSize {sender sender' receiver : HpackContext} {maxSize : Nat} :
      Paired config sender receiver →
        encoderSetMaxSize sender maxSize = some sender' →
        Paired config sender' receiver
  | block {sender sender' receiver : HpackContext} {out out' : Buffer}
      {fields : List Entry} :
      Paired config sender receiver →
        encode sender out fields = (sender', some out') →
        Paired config sender'
          (decodeRecording receiver (out'.data.drop out.size)).1.1

theorem Paired.inStep {config : HpackConfig}
    (paired : Paired config sender receiver) :
    InStep sender receiver := by
  induction paired with
  | start created => exact InStep.start created
  | setMaxSize _ equal induction => exact induction.setMaxSize equal
  | block _ equal induction =>
    obtain ⟨decoder, decoded, -, inStep⟩ := induction.encode equal
    rw [decoded]
    exact inStep

/--
The encoder and the decoder stay in lock-step: after any run, what a successful
call of the encoder appends is decoded completely, to the encoded fields in
their order, and leaves equal tables.
-/
theorem encode_decode_lockstep {config : HpackConfig}
    {sender sender' receiver : HpackContext}
    (paired : Paired config sender receiver) {out out' : Buffer}
    {fields : List Entry}
    (equal : encode sender out fields = (sender', some out')) :
    ∃ receiver', decodeRecording receiver (out'.data.drop out.size) =
          ((receiver', fields), .ok, (out'.data.drop out.size).length) ∧
        receiver'.decoder.entries = sender'.encoder.entries ∧
        receiver'.decoder.size = sender'.encoder.size ∧
        receiver'.decoder.maxSize = sender'.encoder.maxSize := by
  obtain ⟨decoder, decoded, aligned, -⟩ := paired.inStep.encode equal
  refine ⟨{ receiver with decoder }, decoded, aligned.entries_eq.symm, ?_,
    aligned.maxSize_eq.symm⟩
  rw [aligned.senderValid.size_eq, aligned.receiverValid.size_eq,
    aligned.entries_eq]

/-- A configuration of a few octets. -/
def smallConfig : HpackConfig :=
  { maxDynamicTableBytes := 64, maxHeaderBlockBytes := 32,
    maxStringBytes := 16 }

/-- An empty block buffer for `smallConfig`. -/
def smallBuffer : Buffer :=
  { data := []
    maxCapacity := 32
    bounded := by decide }

/-- The second block of a run refers to the table which the first one left. -/
theorem encode_decode_lockstep_secondBlock : ∃ sender sender' receiver out',
    Paired smallConfig sender receiver ∧
      sender.encoder.entries = [⟨ascii "a", ascii "b"⟩] ∧
      encode sender smallBuffer [⟨ascii "a", ascii "b"⟩] =
        (sender', some out') ∧
      out'.data = [0xBE] ∧
      ∃ receiver', decodeRecording receiver (out'.data.drop smallBuffer.size) =
            ((receiver', [⟨ascii "a", ascii "b"⟩]), .ok,
              (out'.data.drop smallBuffer.size).length) ∧
          receiver'.decoder.entries = sender'.encoder.entries ∧
          receiver'.decoder.size = sender'.encoder.size ∧
          receiver'.decoder.maxSize = sender'.encoder.maxSize := by
  have started : Paired smallConfig _ _ := Paired.start rfl
  have resized : Paired smallConfig _ _ :=
    started.setMaxSize (rfl : encoderSetMaxSize _ 40 = some _)
  have first : Paired smallConfig _ _ := resized.block
      (rfl : encode _ smallBuffer [⟨ascii "a", ascii "b"⟩] = (_, some _))
  exact ⟨_, _, _, _, first, rfl, rfl, rfl, encode_decode_lockstep first rfl⟩

end Chttp.Hpack
