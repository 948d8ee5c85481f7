import Chttp.Lib.Bytes
import Mathlib.Data.List.TakeWhile

/-!
# Text cut at a separator
-/

namespace Chttp.Lib

variable {α : Type*}

theorem intercalate_concat {separator : α} {parts : List (List α)}
    (some : parts ≠ []) (part : List α) :
    [separator].intercalate (parts ++ [part]) =
      [separator].intercalate parts ++ separator :: part := by
  induction parts with
  | nil => exact absurd rfl some
  | cons first others ih =>
    by_cases last : others = []
    · subst last
      simp [List.intercalate]
    · rw [List.cons_append, List.intercalate_cons_of_ne_nil
          (List.append_ne_nil_of_left_ne_nil last _), ih last,
        List.intercalate_cons_of_ne_nil last]
      simp only [List.append_assoc]

theorem intercalate_cons {separator : α} {parts : List (List α)}
    (some : parts ≠ []) (part : List α) :
    [separator].intercalate (part :: parts) =
      part ++ separator :: [separator].intercalate parts := by
  rw [List.intercalate_cons_of_ne_nil some, List.append_assoc]
  rfl

/-- A part ends where the first value behind it does not belong to it. -/
theorem span_append {inside : α → Bool} {part rest : List α}
    (all : ∀ value ∈ part, inside value = true)
    (ends : ∀ value, rest.head? = some value → inside value = false) :
    (part ++ rest).takeWhile inside = part ∧
      (part ++ rest).dropWhile inside = rest := by
  have behind : rest.takeWhile inside = [] ∧ rest.dropWhile inside = rest := by
    cases rest with
    | nil => exact ⟨rfl, rfl⟩
    | cons value rest => simp [ends value rfl]
  rw [List.takeWhile_append_of_pos all, List.dropWhile_append_of_pos all,
    behind.1, behind.2,
    List.append_nil]
  exact ⟨rfl, rfl⟩

variable [DecidableEq α]

theorem takeWhile_part {separator : α} {part rest : List α}
    (clean : separator ∉ part)
    (ends : rest = [] ∨ rest.head? = some separator) :
    (part ++ rest).takeWhile (· ≠ separator) = part := by
  refine (span_append ?_ ?_).1
  · rintro value member
    exact decide_eq_true fun same => clean (same ▸ member)
  · rintro value first
    rcases ends with rfl | stops
    · cases first
    · rw [first] at stops
      simp [Option.some.inj stops]

theorem exists_part (separator : α) (text : List α) :
    ∃ part rest, text = part ++ rest ∧ separator ∉ part ∧
      (rest = [] ∨ rest.head? = some separator) ∧
      part = text.takeWhile (· ≠ separator) := by
  refine ⟨_, _, (List.takeWhile_append_dropWhile (p := (· ≠ separator))).symm,
    ?_, ?_, rfl⟩
  · intro member
    have held := List.mem_takeWhile_imp member
    exact of_decide_eq_true held rfl
  cases behind : text.dropWhile (· ≠ separator) with
  | nil => exact .inl rfl
  | cons value rest =>
    right
    have stops := List.head?_dropWhile_not (· ≠ separator) text
    rw [behind] at stops
    have same : value = separator :=
      Classical.not_not.mp fun other => by simp [other] at stops
    rw [same]
    rfl

theorem unlike_of_notMem {separator : α} {part : List α}
    (clean : separator ∉ part) :
    ∀ value ∈ part, (value == separator) = false := by
  intro value member
  refine beq_eq_false_iff_ne.mpr ?_
  rintro rfl
  exact clean member

/-- A text without separators is one part. -/
theorem splitOn_of_notMem {separator : α} {part : List α}
    (clean : separator ∉ part) : part.splitOn separator = [part] :=
  List.splitOnP_eq_singleton (unlike_of_notMem clean)

/-- The first part ends at the first separator. -/
theorem splitOn_append_cons {separator : α} {part : List α}
    (clean : separator ∉ part) (rest : List α) :
    (part ++ separator :: rest).splitOn separator =
      part :: rest.splitOn separator :=
  List.splitOnP_append_cons_of_forall_mem (unlike_of_notMem clean) separator
    (beq_self_eq_true separator) rest

/-- What stands behind the first separator. -/
theorem drop_dropWhile (separator : α) (text : List α) :
    (text.dropWhile (· ≠ separator)).drop 1 =
      text.drop ((text.takeWhile (· ≠ separator)).length + 1) := by
  have whole := List.takeWhile_append_dropWhile (p := (· ≠ separator))
    (l := text)
  generalize text.takeWhile (· ≠ separator) = part,
    text.dropWhile (· ≠ separator) = rest at whole ⊢
  rw [← whole, List.drop_length_add_append]

/-- A text has a separator exactly if its first part is shorter. -/
theorem length_takeWhile_lt_iff (separator : α) (text : List α) :
    (text.takeWhile (· ≠ separator)).length < text.length ↔
      separator ∈ text := by
  obtain ⟨part, rest, whole, clean, ends, taken⟩ := exists_part separator text
  rw [← taken, whole, List.length_append]
  rcases ends with rfl | first
  · rw [List.append_nil, List.length_nil, Nat.add_zero]
    exact iff_of_false (lt_irrefl _) clean
  · refine iff_of_true ?_
      (List.mem_append_right _ (List.mem_of_mem_head? first))
    exact Nat.lt_add_of_pos_right
      (List.length_pos_of_mem (List.mem_of_mem_head? first))

theorem not_mem_of_mem_splitOn {separator : α} {text part : List α}
    (member : part ∈ text.splitOn separator) : separator ∉ part := by
  induction text generalizing part with
  | nil =>
    rw [List.splitOn_nil, List.mem_singleton] at member
    subst member
    exact List.not_mem_nil
  | cons value text ih =>
    unfold List.splitOn at member ih
    rw [List.splitOnP_cons_eq_if_modifyHead] at member
    split_ifs at member with same
    · rcases List.mem_cons.mp member with rfl | among
      · exact List.not_mem_nil
      · exact ih among
    obtain ⟨first, others, parts⟩ :=
      List.exists_cons_of_ne_nil (List.splitOnP_ne_nil (· == separator) text)
    rw [parts] at member ih
    rcases List.mem_cons.mp member with rfl | among
    · intro inside
      rcases List.mem_cons.mp inside with here | there
      · exact same (beq_iff_eq.mpr here.symm)
      · exact ih List.mem_cons_self there
    · exact ih (List.mem_cons_of_mem _ among)

end Chttp.Lib
