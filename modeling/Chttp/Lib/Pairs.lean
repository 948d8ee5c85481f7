import Chttp.Lib.Segments
import Mathlib.Data.List.DropRight

/-!
# Names and values in a text

The value of a cookie field and the query of a target are lists of pairs.  They
are described by where the text is cut; a scan of the text which meets the pairs
in their order finds the first value of a name.
-/

namespace Chttp.Lib

/-! ## The first value of a name -/

/-- The value of the first pair with a name. -/
def firstValue (pairs : List (Bytes × Bytes)) (name : Bytes) : Option Bytes :=
  (pairs.find? fun pair => pair.1 = name).map (·.2)

section

variable (pairs others : List (Bytes × Bytes)) (name : Bytes)

theorem firstValue_append :
    firstValue (pairs ++ others) name =
      (firstValue pairs name).or (firstValue others name) := by
  unfold firstValue
  rw [List.find?_append]
  cases pairs.find? fun pair => pair.1 = name with
  | none => rfl
  | some pair => rfl

theorem firstValue_cons (pair : Bytes × Bytes) :
    firstValue (pair :: pairs) name =
      if pair.1 = name then some pair.2 else firstValue pairs name := by
  unfold firstValue
  rw [List.find?_cons]
  by_cases same : pair.1 = name
  · simp [same]
  · simp [same]

theorem firstValue_toList (pair : Option (Bytes × Bytes)) :
    firstValue pair.toList name =
      (pair.filter fun pair => pair.1 = name).map (·.2) := by
  cases pair with
  | none => rfl
  | some pair => simp [firstValue, Option.filter]

variable {pairs name}

/-- There is no first value where no pair has the name. -/
theorem firstValue_eq_none_iff :
    firstValue pairs name = none ↔ ∀ pair ∈ pairs, pair.1 ≠ name := by
  unfold firstValue
  rw [Option.map_eq_none_iff, List.find?_eq_none]
  simp only [decide_eq_true_eq, ne_eq]

end

/-- The first of several fields has the name if any has it. -/
def FirstHas {Field : Type*} (pairs : Field → List (Bytes × Bytes))
    (fields : List Field) (name : Bytes) : Prop :=
  (∃ field ∈ fields, ∃ pair ∈ pairs field, pair.1 = name) →
    ∃ field ∈ fields.head?, ∃ pair ∈ pairs field, pair.1 = name

instance {Field : Type*} (pairs : Field → List (Bytes × Bytes))
    (fields : List Field) (name : Bytes) :
    Decidable (FirstHas pairs fields name) :=
  inferInstanceAs (Decidable (_ → _))

section

variable {Field : Type*} {pairs : Field → List (Bytes × Bytes)}
  {fields : List Field} {name : Bytes}

/-- Where the first field has the name, it has the first value of it; where
another has it only, the first field has none. -/
theorem firstValue_head?_eq [Decidable (FirstHas pairs fields name)] :
    (fields.head?.bind fun field => firstValue (pairs field) name) =
      if FirstHas pairs fields name then
        firstValue (fields.flatMap pairs) name
      else none := by
  cases fields with
  | nil =>
    rw [if_pos]
    · rfl
    rintro ⟨field, member, -⟩
    cases member
  | cons first others =>
    rw [List.flatMap_cons, firstValue_append]
    show firstValue (pairs first) name = _
    cases value : firstValue (pairs first) name with
    | some value' =>
      rw [if_pos]
      · rfl
      refine fun _ => ⟨first, rfl, ?_⟩
      by_contra absent
      rw [firstValue_eq_none_iff.mpr] at value
      · cases value
      · exact fun pair member same => absent ⟨pair, member, same⟩
    | none =>
      rw [Option.none_or]
      have absent := firstValue_eq_none_iff.mp value
      split_ifs with has
      · symm
        rw [firstValue_eq_none_iff]
        intro pair member same
        obtain ⟨field, among, inside⟩ := List.mem_flatMap.mp member
        obtain ⟨_, ⟨⟩, pair', member', same'⟩ :=
          has ⟨field, List.mem_cons_of_mem _ among, pair, inside, same⟩
        exact absent pair' member' same'
      · rfl

/-- Looking at the first field only finds the first value of a name exactly if
that field has the name or none has. -/
theorem firstValue_head?_iff :
    (fields.head?.bind fun field => firstValue (pairs field) name) =
        firstValue (fields.flatMap pairs) name ↔
      FirstHas pairs fields name := by
  classical
  rw [firstValue_head?_eq]
  split_ifs with has
  · exact iff_of_true rfl has
  refine iff_of_false (fun absent => has ?_) has
  rintro ⟨field, among, pair, member, same⟩
  have none_ := firstValue_eq_none_iff.mp absent.symm pair
  exact absurd same (none_ (List.mem_flatMap.mpr ⟨field, among, member⟩))

end

/-! ## Cookies -/

/-- A text without blanks at its ends. -/
def trim (text : Bytes) : Bytes := (text.dropWhile blank).rdropWhile blank

/-- The pair which a part of a cookie is. -/
def cookiePair (part : Bytes) : Option (Bytes × Bytes) :=
  if 61 ∈ part then
    some (trim (part.takeWhile (· ≠ 61)),
      trim ((part.dropWhile (· ≠ 61)).drop 1))
  else none

/-- The pairs of the value of a field. -/
def cookiePairs (cookie : Bytes) : List (Bytes × Bytes) :=
  (cookie.splitOn 59).filterMap cookiePair

/-- What may stand in front of the name of a pair. -/
def cookieSkipped (value : UInt8) : Bool :=
  value == 32 || value == 9 || value == 59

variable {octet : UInt8} {part name : Bytes}

theorem trim_cons (isBlank : blank octet = true) (text : Bytes) :
    trim (octet :: text) = trim text := by
  unfold trim
  rw [List.dropWhile_cons_of_pos isBlank]

theorem cookiePair_cons (isBlank : blank octet = true) (part : Bytes) :
    cookiePair (octet :: part) = cookiePair part := by
  have other : octet ≠ 61 := by
    rintro rfl
    cases isBlank
  have same : (61 ∈ octet :: part) = (61 ∈ part) := by
    rw [List.mem_cons, eq_false other.symm, false_or]
  unfold cookiePair
  simp only [same, List.takeWhile_cons, List.dropWhile_cons, ne_eq, other,
    not_false_eq_true, decide_true, if_true, trim_cons isBlank]

/-- Blanks and separators in front of a cookie are in no pair. -/
theorem cookiePairs_cons (skipped : cookieSkipped octet = true)
    (cookie : Bytes) :
    cookiePairs (octet :: cookie) = cookiePairs cookie := by
  unfold cookiePairs List.splitOn
  rw [List.splitOnP_cons_eq_if_modifyHead]
  split_ifs with separator
  · rfl
  have isBlank : blank octet = true := by
    unfold cookieSkipped at skipped
    rw [Bool.or_eq_true] at skipped
    exact skipped.resolve_right separator
  obtain ⟨first, others, split⟩ := List.exists_cons_of_ne_nil
    (List.splitOnP_ne_nil (· == 59) cookie)
  rw [split, List.modifyHead_cons, List.filterMap_cons, List.filterMap_cons,
    cookiePair_cons isBlank]

theorem cookiePairs_dropWhile (cookie : Bytes) :
    cookiePairs (cookie.dropWhile cookieSkipped) = cookiePairs cookie := by
  induction cookie with
  | nil => rfl
  | cons octet cookie ih =>
    by_cases skipped : cookieSkipped octet = true
    · rw [List.dropWhile_cons_of_pos skipped, ih, cookiePairs_cons skipped]
    · rw [List.dropWhile_cons_of_neg skipped]

theorem filterMap_cons_toList (part : Bytes) (parts : List Bytes) :
    (part :: parts).filterMap cookiePair =
      (cookiePair part).toList ++ parts.filterMap cookiePair := by
  rw [List.filterMap_cons]
  cases cookiePair part with
  | none => rfl
  | some pair => rfl

/-- A text without separators is one part. -/
theorem cookiePairs_single (clean : 59 ∉ part) :
    cookiePairs part = (cookiePair part).toList := by
  unfold cookiePairs
  rw [splitOn_of_notMem clean, filterMap_cons_toList, List.filterMap_nil,
    List.append_nil]

/-- A part ends at the first separator. -/
theorem cookiePairs_cut (clean : 59 ∉ part) (rest : Bytes) :
    cookiePairs (part ++ 59 :: rest) =
      (cookiePair part).toList ++ cookiePairs rest := by
  unfold cookiePairs
  rw [splitOn_append_cons clean, filterMap_cons_toList]

/-- The pairs of a cookie are that of its first part and those behind it. -/
theorem cookiePairs_step (cookie : Bytes) :
    cookiePairs cookie = (cookiePair (cookie.takeWhile (· ≠ 59))).toList ++
      cookiePairs (cookie.drop ((cookie.takeWhile (· ≠ 59)).length + 1)) := by
  obtain ⟨part, rest, rfl, clean, ends, taken⟩ := exists_part 59 cookie
  rw [← taken, List.drop_length_add_append]
  rcases ends with rfl | first
  · rw [List.append_nil, cookiePairs_single clean]
    exact (List.append_nil _).symm
  · obtain ⟨others, rfl⟩ := List.head?_eq_some_iff.mp first
    exact cookiePairs_cut clean others

theorem cookiePair_of_equals (clean : 61 ∉ name) (value : Bytes) :
    cookiePair (name ++ 61 :: value) = some (trim name, trim value) := by
  have other : ∀ octet ∈ name, decide (octet ≠ 61) = true := by
    intro octet member
    refine decide_eq_true ?_
    rintro rfl
    exact clean member
  unfold cookiePair
  rw [if_pos (List.mem_append_right _ List.mem_cons_self),
    List.takeWhile_append_of_pos other, List.dropWhile_append_of_pos other]
  simp

/-- Behind what is skipped, only the end of a name has to be trimmed. -/
theorem rdropWhile_take (cookie : Bytes) (count : Nat) :
    ((cookie.dropWhile cookieSkipped).take count).rdropWhile blank =
      trim ((cookie.dropWhile cookieSkipped).take count) := by
  unfold trim
  cases count with
  | zero => rfl
  | succ count =>
    cases rest : cookie.dropWhile cookieSkipped with
    | nil => rfl
    | cons octet text =>
      have nonempty : cookie.dropWhile cookieSkipped ≠ [] := by
        rw [rest]
        exact List.cons_ne_nil _ _
      have first := List.head_dropWhile_not cookieSkipped nonempty
      simp only [rest, List.head_cons, cookieSkipped, Bool.or_eq_false_iff]
        at first
      have solid : ¬ blank octet = true := by
        unfold blank
        rw [first.1.1, first.1.2]
        exact Bool.false_ne_true
      rw [List.take_succ_cons, List.dropWhile_cons_of_neg solid]

/-! ## Queries -/

/-- Parts without the last one if that is empty. -/
def withoutEmptyLast (parts : List Bytes) : List Bytes :=
  if parts.getLast? = some [] then parts.dropLast else parts

/-- The parts of a query: a separator at the end begins no part, and a part
which begins with a number sign ends the query. -/
def queryParts (query : Bytes) : List Bytes :=
  (withoutEmptyLast (query.splitOn 38)).takeWhile
    fun part => part.head? ≠ some 35

/-- The name and the value of a part. -/
def queryPair (part : Bytes) : Bytes × Bytes :=
  (part.takeWhile (· ≠ 61), (part.dropWhile (· ≠ 61)).drop 1)

/-- The pairs of a query. -/
def queryPairs (query : Bytes) : List (Bytes × Bytes) :=
  (queryParts query).map queryPair

theorem withoutEmptyLast_cons {parts : List Bytes}
    (more : part ≠ [] ∨ parts ≠ []) :
    withoutEmptyLast (part :: parts) = part :: withoutEmptyLast parts := by
  unfold withoutEmptyLast
  cases parts with
  | nil =>
    have filled : part ≠ [] := more.resolve_right (not_not.mpr rfl)
    rw [List.getLast?_singleton,
      if_neg (fun same => filled (Option.some.inj same))]
    rfl
  | cons second parts =>
    rw [List.getLast?_cons_cons, List.dropLast_cons_cons]
    split_ifs <;> rfl

/-- A query which begins with a number sign has no pairs. -/
theorem queryPairs_numberSign (rest : Bytes) :
    queryPairs (35 :: rest) = [] := by
  obtain ⟨first, others, split⟩ := List.exists_cons_of_ne_nil
    (List.splitOnP_ne_nil (· == (38 : UInt8)) rest)
  have parts : (35 :: rest).splitOn 38 = (35 :: first) :: others := by
    unfold List.splitOn
    rw [List.splitOnP_cons_eq_if_modifyHead, if_neg (by decide), split,
      List.modifyHead_cons]
  rw [queryPairs, queryParts, parts,
    withoutEmptyLast_cons (.inl (List.cons_ne_nil _ _)),
    List.takeWhile_cons_of_neg (by simp)]
  rfl

/-- A part which begins with no number sign is in front of those behind it. -/
theorem map_takeWhile_cons (inside : part.head? ≠ some 35)
    (parts : List Bytes) :
    ((part :: parts).takeWhile fun part => part.head? ≠ some 35).map
        queryPair =
      queryPair part ::
        (parts.takeWhile fun part => part.head? ≠ some 35).map queryPair := by
  rw [List.takeWhile_cons, if_pos (decide_eq_true inside), List.map_cons]

/-- The pairs of a query are that of its first part and those behind it. -/
theorem queryPairs_step {query : Bytes} (filled : query ≠ [])
    (inside : query.head? ≠ some 35) :
    queryPairs query = queryPair (query.takeWhile (· ≠ 38)) ::
      queryPairs (query.drop ((query.takeWhile (· ≠ 38)).length + 1)) := by
  obtain ⟨part, rest, rfl, clean, ends, taken⟩ := exists_part 38 query
  have notSign : part.head? ≠ some 35 := by
    intro sign
    obtain ⟨others, rfl⟩ := List.head?_eq_some_iff.mp sign
    exact inside rfl
  rw [← taken, List.drop_length_add_append]
  rcases ends with rfl | first
  · rw [List.append_nil] at filled ⊢
    rw [queryPairs, queryParts, splitOn_of_notMem clean,
      withoutEmptyLast_cons (.inl filled), map_takeWhile_cons notSign]
    rfl
  · obtain ⟨others, rfl⟩ := List.head?_eq_some_iff.mp first
    have more : others.splitOn 38 ≠ [] := List.splitOnP_ne_nil _ others
    rw [queryPairs, queryParts, splitOn_append_cons clean,
      withoutEmptyLast_cons (.inr more), map_takeWhile_cons notSign]
    rfl

end Chttp.Lib
