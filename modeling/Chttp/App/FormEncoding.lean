import Chttp.App.Form
import Chttp.Lib.Segments

/-!
# What a form stands for

The parser of a form takes exactly the encodings of the pairs which fit in the
storage, and its pairs are those which were encoded.
-/

namespace Chttp.App

open Lib Server

/-- A segment which stands for a pair: its name in front of the first separator
and its value behind it, if there is one. -/
def FormPair.Encoded (pair : FormPair) (segment : Bytes) : Prop :=
  ∃ name rest, segment = name ++ rest ∧ equalsSign ∉ name ∧
    (rest = [] ∨ rest.head? = some equalsSign) ∧
      PercentDecoded true name pair.name ∧
    PercentDecoded true (rest.drop 1) pair.value

/-- The encodings of pairs with names, one or more. -/
inductive FormEncoded : List FormPair → Bytes → Prop where
  | last {pair : FormPair} {segment : Bytes} (named : pair.name ≠ [])
      (encoded : pair.Encoded segment) (clean : ampersand ∉ segment) :
      FormEncoded [pair] segment
  | cons {pair : FormPair} {pairs : List FormPair} {segment rest : Bytes}
      (named : pair.name ≠ []) (encoded : pair.Encoded segment)
      (clean : ampersand ∉ segment) (others : FormEncoded pairs rest) :
      FormEncoded (pair :: pairs) (segment ++ ampersand :: rest)

/-- The octets of pairs. -/
def FormPair.total (pairs : List FormPair) : Nat :=
  (pairs.map fun pair => pair.name.length + pair.value.length).sum

@[simp]
theorem FormPair.total_cons (pair : FormPair) (pairs : List FormPair) :
    total (pair :: pairs) = pair.name.length + pair.value.length +
      total pairs := by
  simp [total]

/-- The pairs which the storage holds. -/
def FormOptions.slots (options : FormOptions) : Nat :=
  min options.maxPairs options.pairCapacity

/-- The octets which the storage holds. -/
def FormOptions.room (options : FormOptions) : Nat :=
  min options.maxDecodedBytes options.byteCapacity

namespace WebForm

variable {options : FormOptions} {position used : Nat}
  {source text segment input : Bytes}
  {pair : FormPair} {pairs : List FormPair}

@[simp]
theorem percentDecoded_nil : PercentDecoded true [] text ↔ text = [] := by
  constructor
  · rintro ⟨⟩
    rfl
  · rintro rfl
    exact .nil

@[simp]
theorem percentDecoded_to_nil :
    PercentDecoded true source [] ↔ source = [] := by
  constructor
  · rintro ⟨⟩
    rfl
  · rintro rfl
    exact .nil

theorem percentDecoded_cons (position : Nat) (value : UInt8) (rest : Bytes) :
    PercentDecoded true (value :: rest) text ↔ ∃ decoded rest' others,
      octet position value rest = .ok (decoded, rest') ∧
        PercentDecoded true rest' others ∧ text = decoded :: others := by
  constructor
  · intro decoded
    cases decoded with
    | plain other decoded =>
      refine ⟨_, _, _, ?_, decoded, rfl⟩
      by_cases plus : value = 43 <;> simp [octet, plus, other]
    | escape firstValue secondValue decoded =>
      refine ⟨_, _, _, ?_, decoded, rfl⟩
      simp [octet, percentSign, hexValue, firstValue, secondValue]
  · rintro ⟨decoded, rest', others, read, behind, rfl⟩
    unfold octet at read
    split_ifs at read with plus percent
    · cases read
      simpa [plus] using @PercentDecoded.plain true 43 _ _ (by decide) behind
    · subst percent
      split at read
      · split at read
        · rename_i firstValue secondValue
          cases read
          exact .escape firstValue secondValue behind
        · cases read
      · cases read
    · cases read
      simpa [plus] using @PercentDecoded.plain true _ _ _ percent behind

theorem decodeComponent_iff :
    decodeComponent options position used source = .ok text ↔
    PercentDecoded true source text ∧
      used + text.length ≤ max used options.room := by
  fun_induction decodeComponent options position used source
    generalizing text with
  | case1 => simp +contextual [eq_comm]
  | case2 position used value rest error read =>
    simp [percentDecoded_cons position, read]
  | case3 position used value rest decoded rest' read full =>
    simp only [percentDecoded_cons position, read, FormOptions.room,
      reduceCtorEq, false_iff]
    rintro ⟨⟨_, _, _, -, -, rfl⟩, room⟩
    rw [List.length_cons] at room
    omega
  | case4 position used value rest decoded rest' read _ room error failed =>
    rename_i ih
    simp only [percentDecoded_cons position, read, failed, FormOptions.room,
      reduceCtorEq,
      false_iff] at ih ⊢
    rintro ⟨⟨_, _, others, same, behind, rfl⟩, held⟩
    cases same
    rw [List.length_cons] at held
    exact ih ⟨behind, by omega⟩
  | case5 position used value rest decoded rest' read _ room others behind =>
    rename_i ih
    simp only [percentDecoded_cons position, read, behind, FormOptions.room,
      Except.ok.injEq,
      Prod.mk.injEq] at ih ⊢
    constructor
    · rintro rfl
      obtain ⟨percent, held⟩ := ih.mp rfl
      refine ⟨⟨_, _, _, ⟨rfl, rfl⟩, percent, rfl⟩, ?_⟩
      rw [List.length_cons]
      omega
    · rintro ⟨⟨_, _, others', ⟨rfl, rfl⟩, percent, rfl⟩, held⟩
      rw [List.length_cons] at held
      rw [ih.mpr ⟨percent, by omega⟩]

theorem encoded_iff : pair.Encoded segment ↔
    PercentDecoded true (segment.takeWhile (· ≠ equalsSign)) pair.name ∧
      PercentDecoded true
        (segment.drop ((segment.takeWhile (· ≠ equalsSign)).length + 1))
          pair.value := by
  constructor
  · rintro ⟨name, rest, rfl, clean, ends, named, valued⟩
    rw [takeWhile_part clean ends, List.drop_length_add_append]
    exact ⟨named, valued⟩
  · rintro ⟨named, valued⟩
    obtain ⟨name, rest, rfl, clean, ends, taken⟩ :=
      exists_part equalsSign segment
    rw [← taken, List.drop_length_add_append] at valued
    exact ⟨name, rest, rfl, clean, ends, taken ▸ named, valued⟩

theorem parsePair_iff : parsePair options position used segment = .ok pair ↔
    pair.name ≠ [] ∧ pair.Encoded segment ∧
      used + (pair.name.length + pair.value.length) ≤ options.room := by
  rw [encoded_iff]
  unfold parsePair
  dsimp only
  constructor
  · intro read
    split_ifs at read with none
    split at read
    · cases read
    rename_i name named
    split at read
    · cases read
    rename_i value valued
    cases read
    obtain ⟨decodedName, roomName⟩ := decodeComponent_iff.mp named
    obtain ⟨decodedValue, roomValue⟩ := decodeComponent_iff.mp valued
    have some : name ≠ [] := by
      rintro rfl
      exact none (percentDecoded_to_nil.mp decodedName)
    have positive := List.length_pos_iff.mpr some
    exact ⟨some, ⟨decodedName, decodedValue⟩, by dsimp only; omega⟩
  · rintro ⟨some, ⟨named, valued⟩, room⟩
    have source : segment.takeWhile (· ≠ equalsSign) ≠ [] := by
      intro none
      rw [none] at named
      exact some (percentDecoded_nil.mp named)
    rw [if_neg source, decodeComponent_iff.mpr ⟨named, by omega⟩]
    dsimp only
    rw [decodeComponent_iff.mpr ⟨valued, by omega⟩]

theorem encoded_ne_nil (named : pair.name ≠ [])
    (encoded : pair.Encoded segment) :
    segment ≠ [] := by
  rintro rfl
  exact named (by simpa using (encoded_iff.mp encoded).1)

theorem formEncoded_ne_nil (encoded : FormEncoded pairs input) :
    input ≠ [] := by
  cases encoded with
  | last named encoded => exact encoded_ne_nil named encoded
  | cons => simp

/-- The loop reads an encoding. -/
theorem parseLoop_encoded {more : List FormPair}
    (encoded : FormEncoded more input)
    (slots : pairs.length + more.length ≤ options.slots)
    (room : used + FormPair.total more ≤ options.room) :
    parseLoop options position used pairs input =
      .ok ⟨pairs ++ more, used + FormPair.total more⟩ := by
  have free : options.slots ≤ options.maxPairs ∧
      options.slots ≤ options.pairCapacity :=
    ⟨min_le_left _ _, min_le_right _ _⟩
  induction encoded generalizing position used pairs with
  | @last pair segment named encoded clean =>
    have taken := takeWhile_part clean (.inl rfl)
    have behind : segment.drop segment.length = [] := List.drop_length
    rw [FormPair.total_cons] at room
    rw [List.length_singleton] at slots
    rw [List.append_nil] at taken
    rw [parseLoop]
    dsimp only
    rw [taken, if_neg (encoded_ne_nil named encoded), if_neg (by omega),
      parsePair_iff.mpr ⟨named, encoded, by omega⟩]
    dsimp only
    split <;> simp_all [FormPair.total, Nat.add_assoc]
  | @cons pair more segment rest named encoded clean others ih =>
    have taken := @takeWhile_part _ _ ampersand segment
      (ampersand :: rest) clean (.inr rfl)
    have behind : (segment ++ ampersand :: rest).drop segment.length =
        ampersand :: rest :=
      List.drop_left
    have some := formEncoded_ne_nil others
    rw [FormPair.total_cons] at room
    rw [List.length_cons] at slots
    rw [parseLoop]
    dsimp only
    rw [taken, if_neg (encoded_ne_nil named encoded), if_neg (by omega),
      parsePair_iff.mpr ⟨named, encoded, by omega⟩]
    dsimp only
    split
    · simp_all
    · simp_all
    · rename_i dropped
      rw [behind] at dropped
      rw [← (List.cons.inj dropped).2, ih (by simp; omega) (by omega)]
      simp [Nat.add_assoc]

/-- The loop reads nothing but encodings. -/
theorem exists_of_parseLoop {form : WebForm}
    (read : parseLoop options position used pairs input = .ok form) :
    ∃ more, FormEncoded more input ∧
      pairs.length + more.length ≤ options.slots ∧
      used + FormPair.total more ≤ options.room ∧
      form = ⟨pairs ++ more, used + FormPair.total more⟩ := by
  fun_induction parseLoop options position used pairs input with
  | case4 position used pairs input segment some free pair parsed pairs' used'
      behind =>
    cases read
    obtain ⟨named, encoded, room⟩ := parsePair_iff.mp parsed
    obtain ⟨part, rest, rfl, clean, ends, taken⟩ := exists_part ampersand input
    have same : segment = part := taken.symm
    clear_value segment
    subst same
    rw [List.drop_left] at behind
    subst behind
    rw [List.append_nil]
    refine ⟨[pair], .last named encoded clean,
      ?_, by simpa [FormPair.total] using room, ?_⟩
    · rw [List.length_singleton, FormOptions.slots]
      omega
    · simp [FormPair.total, pairs', used', Nat.add_assoc]
  | case6 position used pairs input segment some free pair parsed pairs' used' _
      rest _ behind ih =>
    obtain ⟨more, others, slots, room, rfl⟩ := ih read
    obtain ⟨named, encoded, -⟩ := parsePair_iff.mp parsed
    obtain ⟨part, rest', rfl, clean, ends, taken⟩ := exists_part ampersand input
    have same : segment = part := taken.symm
    clear_value segment
    subst same
    rw [List.drop_left] at behind
    subst behind
    cases Option.some.inj (ends.resolve_left (List.cons_ne_nil _ _))
    rw [List.length_append, List.length_singleton] at slots
    refine ⟨pair :: more, .cons named encoded clean others, ?_, ?_, ?_⟩
    · rw [List.length_cons]
      omega
    · rw [FormPair.total_cons]
      omega
    · simp [pairs', used', Nat.add_assoc]
  | _ => cases read

end WebForm

/-- **Forms are decoded.**  A form is read exactly if it is an encoding of pairs
which fit in the storage, these pairs are then its pairs, in order, and if it is
not read the form of the caller is empty, whatever was in it.  Nothing is the
encoding of no pairs. -/
theorem form_parse_inverts_encoding (options : FormOptions) (input : Bytes) :
    (∀ form, WebForm.parse options input = .ok form ↔
      (form.pairs = [] ∧ input = [] ∨ FormEncoded form.pairs input) ∧
        form.decodedBytes = FormPair.total form.pairs ∧
        input.length ≤ options.maxInputBytes ∧
        form.pairs.length ≤ options.slots ∧
        form.decodedBytes ≤ options.room) ∧
      ∀ outForm,
        (∀ form, WebForm.parse options input = .ok form ↔
          WebForm.parseInto options input outForm = (none, form)) ∧
        ((WebForm.parseInto options input outForm).1 ≠ none →
          (WebForm.parseInto options input outForm).2 = ⟨[], 0⟩) := by
  constructor
  · rintro ⟨pairs, octets⟩
    unfold WebForm.parse
    split_ifs with long none storage
    · simp only [false_iff]
      omega
    · subst none
      have nothing : ¬ FormEncoded pairs [] :=
        fun encoded => WebForm.formEncoded_ne_nil encoded rfl
      simp only [nothing, and_true, or_false, Except.ok.injEq, WebForm.mk.injEq]
      constructor
      · rintro ⟨rfl, rfl⟩
        exact ⟨rfl, rfl, Nat.zero_le _, Nat.zero_le _, Nat.zero_le _⟩
      · rintro ⟨rfl, rfl, -⟩
        exact ⟨rfl, rfl⟩
    · simp only [none, and_false, false_or, false_iff, FormOptions.slots,
        FormOptions.room]
      rintro ⟨encoded, rfl, -, slots, room⟩
      have named : 0 < pairs.length ∧ 0 < FormPair.total pairs := by
        cases encoded with
        | last named => simp [List.length_pos_iff.mpr named]
        | cons named => simp [List.length_pos_iff.mpr named]
      omega
    · simp only [none, and_false, false_or]
      constructor
      · intro read
        obtain ⟨more, encoded, slots, room, same⟩ :=
          WebForm.exists_of_parseLoop read
        cases same
        simp only [List.length_nil, List.nil_append, Nat.zero_add]
          at slots room ⊢
        exact ⟨encoded, trivial, Nat.not_lt.mp long, slots, room⟩
      · rintro ⟨encoded, rfl, -, slots, room⟩
        rw [WebForm.parseLoop_encoded encoded (by simpa using slots)
          (by simpa using room)]
        simp
  · intro outForm
    unfold WebForm.parseInto
    cases WebForm.parse options input with
    | error error => exact ⟨fun form => ⟨nofun, nofun⟩, fun _ => rfl⟩
    | ok read =>
      refine ⟨fun form => ⟨?_, ?_⟩, fun failed => absurd rfl failed⟩
      · rintro ⟨⟩
        rfl
      · rintro ⟨⟩
        rfl

end Chttp.App
