import Chttp.Lib.Bytes
import Mathlib.Data.List.DropRight

/-!
# Where a URL reference leads

A browser which resolves a reference against an `http` or `https` base removes
controls and spaces at both ends and every tab and line break, looks for a
scheme, and otherwise reads the reference relative to its base: two slashes in
front, of either kind, begin another authority, and everything else keeps the
origin of the base.  What an authority or another scheme leads to is a
parameter.
-/

namespace Chttp.Lib.UrlReference

variable (value : UInt8)

/-- A letter. -/
def letter : Bool := (65 ≤ value && value ≤ 90) || (97 ≤ value && value ≤ 122)

/-- A character behind the first one of a scheme. -/
def schemeTail : Bool :=
  letter value || (48 ≤ value && value ≤ 57) || value == 43 || value == 45 ||
    value == 46

/-- The character in lower case. -/
def lower : UInt8 :=
  if 65 ≤ value ∧ value ≤ 90 then value + 32 else value

/-- A control or a space. -/
def blank : Bool := value ≤ 32

/-- A tab or a line break. -/
def broken : Bool := value == 9 || value == 10 || value == 13

/-- A slash of either kind; in a URL with one of these schemes they are the
same. -/
def slashLike : Bool := value == 47 || value == 92

/-- The reference as it is parsed. -/
def prepared (input : Bytes) : Bytes :=
  ((input.dropWhile blank).rdropWhile blank).filter fun value => !broken value

/-- The scheme in front of a reference, and what is behind its colon. -/
def scheme : Bytes → Option (Bytes × Bytes)
  | [] => none
  | first :: rest =>
    if letter first then
      match rest.dropWhile schemeTail with
      | 58 :: behind =>
        some ((first :: rest.takeWhile schemeTail).map lower, behind)
      | _ => none
    else none

/-- What the rest of a parser makes of a scheme or of an authority. -/
structure Rules (Origin : Type*) where
  absolute : Bytes → Bytes → Option Origin
  authority : Bytes → Bytes → Option Origin

/-- A base with one of the schemes `http` and `https`. -/
structure Base (Origin : Type*) where
  secure : Bool
  origin : Origin

/-- The scheme of a base. -/
def Base.scheme {Origin : Type*} (base : Base Origin) : Bytes :=
  if base.secure then ascii "https" else ascii "http"

variable {Origin : Type*} (rules : Rules Origin) (base : Base Origin)

/-- A reference without a scheme. -/
def relative : Bytes → Option Origin
  | first :: second :: rest =>
    if slashLike first && slashLike second then
      rules.authority base.scheme (rest.dropWhile slashLike)
    else some base.origin
  | _ => some base.origin

/-- The origin of a reference. -/
def resolve (input : Bytes) : Option Origin :=
  match scheme (prepared input) with
  | none => relative rules base (prepared input)
  | some (name, rest) =>
    if name = base.scheme then
      match rest with
      | 47 :: 47 :: rest =>
        rules.authority base.scheme (rest.dropWhile slashLike)
      | _ => relative rules base rest
    else rules.absolute name rest

/-- A path which begins with one slash and has neither controls nor backslashes
stays with its base. -/
theorem resolve_path {rest : Bytes} (single : rest.head? ≠ some 47)
    (clean : ∀ value ∈ rest, ¬ value < 32 ∧ value ≠ 92) :
    resolve rules base (47 :: rest) = some base.origin := by
  have front : (47 :: rest).dropWhile blank = 47 :: rest :=
    List.dropWhile_cons_of_neg (by decide)
  -- spaces behind are cut off, and a slash is left in front
  obtain ⟨text, cut, inside⟩ : ∃ text, prepared (47 :: rest) = 47 :: text ∧
      text <+: rest := by
    unfold prepared
    rw [front]
    have whole : ((47 :: rest).rdropWhile blank).filter
        (fun value => !broken value) = (47 :: rest).rdropWhile blank := by
      rw [List.filter_eq_self]
      intro value member
      have among :=
        (List.rdropWhile_prefix blank (l := 47 :: rest)).subset member
      rcases List.mem_cons.mp among with rfl | behind
      · decide
      have low := (clean value behind).1
      unfold broken
      simp only [Bool.not_eq_true', Bool.or_eq_false_iff, beq_eq_false_iff_ne]
      refine ⟨⟨?_, ?_⟩, ?_⟩
      all_goals
        rintro rfl
        exact low (by decide)
    rw [whole]
    have nonempty : (47 :: rest).rdropWhile blank ≠ [] := by
      rw [ne_eq, List.rdropWhile_eq_nil_iff]
      intro all
      exact absurd (all 47 List.mem_cons_self) (by decide)
    obtain ⟨first, text, kept⟩ := List.exists_cons_of_ne_nil nonempty
    have inside := List.rdropWhile_prefix blank (l := 47 :: rest)
    rw [kept, List.cons_prefix_cons] at inside
    rw [kept, inside.1]
    exact ⟨text, rfl, inside.2⟩
  have plain : scheme (47 :: text) = none := by
    unfold scheme
    dsimp only
    rw [if_neg (by decide)]
  unfold resolve
  rw [cut, plain]
  cases text with
  | nil => rfl
  | cons second text =>
    have first : rest.head? = some second := by
      obtain ⟨behind, rfl⟩ := inside
      rfl
    have member : second ∈ rest := inside.subset List.mem_cons_self
    have other : slashLike second = false := by
      unfold slashLike
      rw [Bool.or_eq_false_iff, beq_eq_false_iff_ne, beq_eq_false_iff_ne]
      exact ⟨fun same => single (same ▸ first), (clean second member).2⟩
    change (if slashLike 47 && slashLike second then _ else _) = _
    rw [other, Bool.and_false, if_neg Bool.false_ne_true]

end Chttp.Lib.UrlReference
