import Chttp.Server.H2.Fields
import Mathlib.Data.List.TakeWhile

/-!
# Conditions on entity tags

A request for a file can name entity tags, and the server scans its header
fields octet by octet.  The tags which it compares are those of the comma lists,
and what is not a list is refused.
-/

namespace Chttp.Server

open Lib

/-- `file_skip_space`. -/
def fileSkipSpace (value : Bytes) : Bytes := value.dropWhile blank

/-- `strncmp(tag, "W/", 2) == 0`. -/
def weakPrefix (tag : Bytes) : Bool := tag.take 2 == [87, 47]

/-- A tag from its quote on. -/
def quotedPart (tag : Bytes) : Bytes :=
  if weakPrefix tag then tag.drop 2 else tag

/-- The loop of `file_tag_end`. -/
def fileTagLoop : Bytes → Option Bytes
  | [] => none
  | value :: rest =>
    if value = 34 then some rest
    else if value < 0x21 ∨ value = 0x7f then none
    else fileTagLoop rest

/-- `file_tag_end`: what is behind a tag. -/
def fileTagEnd (tag : Bytes) : Option Bytes :=
  match quotedPart tag with
  | [] => none
  | value :: rest => if value = 34 then fileTagLoop rest else none

/-! ## Entity tags -/

/-- An entity tag: whether it is weak, and the octets between its quotes. -/
structure EntityTag where
  weak : Bool
  octets : Bytes
  valid : ∀ value ∈ octets, 0x21 ≤ value ∧ value ≠ 34 ∧ value ≠ 0x7f

variable (tag : EntityTag)

namespace EntityTag

/-- The octets of a tag. -/
def text : Bytes :=
  (if tag.weak then [87, 47] else []) ++ 34 :: (tag.octets ++ [34])

/-- The strong comparison, or the weak one. -/
def agrees (strong : Bool) (tag other : EntityTag) : Bool :=
  (!strong || (!tag.weak && !other.weak)) && tag.octets == other.octets

end EntityTag

/-- Spaces and tabs. -/
def Blank (text : Bytes) : Prop := ∀ value ∈ text, blank value = true

/-- A comma list with its tags: a member has one tag or none, and blanks around
it. -/
inductive TagList : Bytes → List EntityTag → Prop
  | empty {before : Bytes} : Blank before → TagList before []
  | last {before behind : Bytes} (tag : EntityTag) :
      Blank before → Blank behind → TagList (before ++ (tag.text ++ behind))
      [tag]
  | skip {before rest : Bytes} {tags : List EntityTag} :
      Blank before → TagList rest tags → TagList (before ++ 44 :: rest) tags
  | cons {before behind rest : Bytes} {tags : List EntityTag}
      (tag : EntityTag) :
      Blank before → Blank behind → TagList rest tags →
        TagList (before ++ (tag.text ++ (behind ++ 44 :: rest))) (tag :: tags)

/-- A field which is a star. -/
def Wildcard (field : Bytes) : Prop :=
  ∃ before behind, Blank before ∧ Blank behind ∧ field = before ++ 42 :: behind

variable {text rest before behind field : Bytes} {tags : List EntityTag}

theorem fileTagLoop_text (rest : Bytes) :
    fileTagLoop (tag.octets ++ 34 :: rest) = some rest := by
  obtain ⟨-, octets, valid⟩ := tag
  induction octets with
  | nil => rfl
  | cons value octets ih =>
    obtain ⟨⟨printable, quote, delete⟩, valid⟩ := List.forall_mem_cons.mp valid
    have allowed := not_or.mpr ⟨UInt8.not_lt.mpr printable, delete⟩
    simp only [List.cons_append, fileTagLoop, if_neg quote, if_neg allowed]
    exact ih valid

theorem exists_of_fileTagLoop (weak : Bool)
    (found : fileTagLoop text = some rest) :
    ∃ tag : EntityTag, tag.weak = weak ∧ text = tag.octets ++ 34 :: rest := by
  induction text with
  | nil => cases found
  | cons value text ih =>
    rw [fileTagLoop] at found
    split_ifs at found with quote refused
    · cases found
      exact ⟨⟨weak, [], nofun⟩, rfl, by rw [quote]; rfl⟩
    · obtain ⟨tag, rfl, rfl⟩ := ih found
      rw [not_or, UInt8.not_lt] at refused
      exact ⟨⟨tag.weak, value :: tag.octets, List.forall_mem_cons.mpr
        ⟨⟨refused.1, quote, refused.2⟩, tag.valid⟩⟩, rfl, rfl⟩

theorem quotedPart_text (behind : Bytes) :
    weakPrefix (tag.text ++ behind) = tag.weak ∧
      quotedPart (tag.text ++ behind) = 34 :: (tag.octets ++ 34 :: behind) := by
  cases weak : tag.weak <;> simp [quotedPart, weakPrefix, EntityTag.text, weak]

theorem fileTagEnd_text (behind : Bytes) :
    fileTagEnd (tag.text ++ behind) = some behind := by
  rw [fileTagEnd, (quotedPart_text tag behind).2]
  exact fileTagLoop_text tag behind

theorem exists_of_fileTagEnd (found : fileTagEnd text = some behind) :
    ∃ tag : EntityTag, text = tag.text ++ behind := by
  have split : text = (if weakPrefix text then [87, 47] else []) ++
      quotedPart text := by
    unfold quotedPart
    split_ifs with weak
    · rw [← beq_iff_eq.mp weak, List.take_append_drop]
    · rfl
  unfold fileTagEnd at found
  split at found
  · cases found
  rename_i value rest opened
  split_ifs at found with quote
  obtain ⟨tag, weak, rfl⟩ := exists_of_fileTagLoop (weakPrefix text) found
  rw [opened, quote, ← weak] at split
  exact ⟨tag, by simpa [EntityTag.text] using split⟩

/-! ## The scanner -/

/-- The loop of `file_tag_matches`.  The octets from the candidate to the end of
the tag are those of the current tag. -/
def fileTagScan (etag : Bytes) (strong matched : Bool) : Bytes → Int
  | [] => if matched then 1 else 0
  | value :: rest =>
    if value = 44 then fileTagScan etag strong matched (fileSkipSpace rest)
    else
      match found : fileTagEnd (value :: rest) with
      | none => -1
      | some behind =>
        let matched := matched ||
          ((!strong || (!weakPrefix (value :: rest) && !weakPrefix etag)) &&
            quotedPart (value :: rest) == quotedPart etag ++ behind)
        match skipped : fileSkipSpace behind with
        | [] => if matched then 1 else 0
        | next :: others =>
          if next = 44 then fileTagScan etag strong matched
            (fileSkipSpace others) else -1
termination_by field => field.length
decreasing_by
  · exact Nat.lt_succ_of_le (List.dropWhile_suffix _).length_le
  · obtain ⟨tag, same⟩ := exists_of_fileTagEnd found
    have first := (List.dropWhile_suffix (l := behind) blank).length_le
    have second := (List.dropWhile_suffix (l := others) blank).length_le
    rw [show behind.dropWhile _ = _ from skipped] at first
    rw [same, List.length_append]
    exact Nat.lt_of_lt_of_le (Nat.lt_of_le_of_lt second first)
      (Nat.le_add_left _ _)

/-- `file_tag_matches`. -/
def fileTagMatches (field etag : Bytes) (strong : Bool) : Int :=
  if (fileSkipSpace field).head? = some 42 then
    if fileSkipSpace (fileSkipSpace field).tail = [] then 1 else -1
  else fileTagScan etag strong false (fileSkipSpace field)

/-- The result of the fields so far and of one more; the first stands for
itself. -/
def joinResults (result found : Int) : Int :=
  if result < 0 then found else if result ≠ 0 ∨ found ≠ 0 then 1 else 0

/-- The loop of `file_request_tags` over the fields with its name. -/
def fileTagsLoop (etag : Bytes) (strong : Bool) (result : Int) (count : Nat)
    (wildcard : Bool) :
    List Bytes → Int
  | [] => result
  | value :: fields =>
    let wildcard := wildcard || (fileSkipSpace value).head? = some 42
    let found := fileTagMatches value etag strong
    if found < 0 ∨ (1 < count + 1 ∧ wildcard) then -1
    else fileTagsLoop etag strong (joinResults result found)
      (count + 1) wildcard fields

variable (headers : List (CString × CString))

/-- The values of the fields with a name. -/
def namedFields (name : Bytes) : List Bytes :=
  (headers.filter fun field => H2.asciiEqual field.1.bytes name).map (·.2.bytes)

/-- `file_request_tags`. -/
def fileRequestTags (name etag : Bytes) (strong : Bool) : Int :=
  fileTagsLoop etag strong (-2) 0 false (namedFields headers name)

theorem skip_blank (blanks : Blank before) (text : Bytes) :
    fileSkipSpace (before ++ text) = fileSkipSpace text :=
  List.dropWhile_append_of_pos blanks

theorem skip_eq_nil (blanks : Blank behind) : fileSkipSpace behind = [] :=
  List.dropWhile_eq_nil_iff.mpr blanks

theorem skip_text (behind : Bytes) :
    fileSkipSpace (tag.text ++ behind) = tag.text ++ behind := by
  cases weak : tag.weak <;> simp [fileSkipSpace, EntityTag.text, weak, blank]

theorem exists_blank (text : Bytes) :
    ∃ before, Blank before ∧ text = before ++ fileSkipSpace text :=
  ⟨text.takeWhile blank, fun _ => List.mem_takeWhile_imp,
    List.takeWhile_append_dropWhile.symm⟩

variable {etag : EntityTag} {strong matched : Bool}

theorem fileTagScan_text (behind : Bytes) :
    fileTagScan etag.text strong matched (tag.text ++ behind) =
      match fileSkipSpace behind with
      | [] => if matched || tag.agrees strong etag then 1 else 0
      | next :: others =>
        if next = 44 then
          fileTagScan etag.text strong (matched || tag.agrees strong etag)
          (fileSkipSpace others)
        else -1 := by
  obtain ⟨weak, quoted⟩ := quotedPart_text tag behind
  obtain ⟨etagWeak, etagQuoted⟩ := quotedPart_text etag []
  have ends := fileTagEnd_text tag behind
  have agree : tag.agrees strong etag =
    ((!strong || (!tag.weak && !etag.weak)) &&
      34 :: (tag.octets ++ 34 :: behind) == 34 :: (etag.octets ++ [34]) ++
        behind) := by
    rw [Bool.eq_iff_iff]
    simp [EntityTag.agrees]
  rw [List.append_nil] at etagWeak etagQuoted
  obtain ⟨value, rest, same, other⟩ : ∃ value rest,
    tag.text ++ behind = value :: rest ∧
      value ≠ 44 := by
    cases isWeak : tag.weak <;> simp [EntityTag.text, isWeak]
  rw [same] at weak quoted ends ⊢
  rw [fileTagScan, if_neg other]
  split
  · rename_i missing
    cases ends.symm.trans missing
  rename_i found
  cases ends.symm.trans found
  simp only [weak, quoted, etagWeak, etagQuoted, ← agree]
  split <;> rename_i skipped <;> simp only [skipped]

/-- What a list says is what the scanner finds. -/
theorem fileTagScan_list (list : TagList field tags) :
    fileTagScan etag.text strong matched (fileSkipSpace field) =
      if matched || tags.any (·.agrees strong etag) then 1 else 0 := by
  induction list generalizing matched with
  | empty blanks => simp [skip_eq_nil blanks, fileTagScan]
  | last tag before behind =>
    simp [skip_blank before, skip_text, fileTagScan_text, skip_eq_nil behind]
  | skip blanks _ ih =>
    rw [skip_blank blanks]
    change fileTagScan _ _ _ (44 :: _) = _
    rw [fileTagScan, if_pos rfl, ih]
  | cons tag before behind _ ih =>
    rw [skip_blank before, skip_text, fileTagScan_text, skip_blank behind]
    change (if (44 : UInt8) = 44 then _ else _) = _
    rw [if_pos rfl, ih, List.any_cons, Bool.or_assoc]

theorem TagList.of_skip (list : TagList (fileSkipSpace text) tags) :
    TagList text tags := by
  obtain ⟨before, blanks, same⟩ := exists_blank text
  have longer {inner : Bytes} (blank : Blank inner) : Blank (before ++ inner) :=
    List.forall_mem_append.mpr ⟨blanks, blank⟩
  rw [same]
  generalize fileSkipSpace text = inner at list ⊢
  cases list with
  | empty inner => exact .empty (longer inner)
  | last tag inner behind =>
    rw [← List.append_assoc]
    exact .last tag (longer inner) behind
  | skip inner list =>
    rw [← List.append_assoc]
    exact .skip (longer inner) list
  | cons tag inner behind list =>
    rw [← List.append_assoc]
    exact .cons tag (longer inner) behind list

/-- What the scanner does not refuse is a list. -/
theorem exists_list_of_fileTagScan {octets : Bytes}
    (accepted : fileTagScan octets strong matched text ≠ -1) :
    ∃ tags, TagList text tags := by
  have none : Blank [] := nofun
  fun_induction fileTagScan octets strong matched text with
  | case1 | case2 => exact ⟨[], .empty none⟩
  | case3 matched rest ih =>
    obtain ⟨tags, list⟩ := ih accepted
    exact ⟨tags, .skip none list.of_skip⟩
  | case4 | case8 => exact absurd rfl accepted
  | case5 _ _ _ _ behind found _ skipped
  | case6 _ _ _ _ behind found _ skipped =>
    obtain ⟨tag, same⟩ := exists_of_fileTagEnd found
    rw [same]
    exact ⟨[tag], .last tag none (List.dropWhile_eq_nil_iff.mp skipped)⟩
  | case7 _ _ _ _ behind found _ _ skipped ih =>
    obtain ⟨tag, same⟩ := exists_of_fileTagEnd found
    obtain ⟨blanks, blank, whole⟩ := exists_blank behind
    obtain ⟨tags, list⟩ := ih accepted
    rw [same, whole, skipped]
    exact ⟨tag :: tags, .cons tag none blank list.of_skip⟩

/-! ## One field -/

theorem fileTagMatches_list (list : TagList field tags) :
    fileTagMatches field etag.text strong =
      (if tags.any (·.agrees strong etag) then 1 else 0) ∧
      (fileSkipSpace field).head? ≠ some 42 := by
  have scanned : fileTagScan etag.text strong false _ = _ :=
    fileTagScan_list list
  have first : (fileSkipSpace field).head? ≠ some 42 := by
    intro star
    obtain ⟨rest, same⟩ := List.head?_eq_some_iff.mp star
    rw [same, fileTagScan, if_neg (by decide)] at scanned
    split at scanned
    · split_ifs at scanned
    · rename_i found
      obtain ⟨tag, starts⟩ := exists_of_fileTagEnd found
      cases weak : tag.weak <;> simp [EntityTag.text, weak] at starts
  rw [fileTagMatches, if_neg first]
  exact ⟨scanned, first⟩

theorem fileTagMatches_wildcard (star : Wildcard field) (octets : Bytes)
    (strong : Bool) :
    fileTagMatches field octets strong = 1 ∧
      (fileSkipSpace field).head? = some 42 := by
  obtain ⟨before, behind, front, back, rfl⟩ := star
  have starts : fileSkipSpace (before ++ 42 :: behind) = 42 :: behind :=
    skip_blank front _
  rw [fileTagMatches, starts]
  exact ⟨(if_pos rfl).trans (if_pos (skip_eq_nil back)), rfl⟩

theorem fileTagMatches_malformed (noStar : ¬ Wildcard field)
    (noList : ¬ ∃ tags, TagList field tags) (octets : Bytes) (strong : Bool) :
    fileTagMatches field octets strong = -1 := by
  unfold fileTagMatches
  split_ifs with star ended
  · obtain ⟨before, blanks, same⟩ := exists_blank field
    obtain ⟨rest, starts⟩ := List.head?_eq_some_iff.mp star
    rw [starts] at same ended
    exact absurd ⟨before, rest, blanks, List.dropWhile_eq_nil_iff.mp ended,
      same⟩ noStar
  · rfl
  · by_contra accepted
    obtain ⟨tags, list⟩ := exists_list_of_fileTagScan accepted
    exact noList ⟨tags, list.of_skip⟩

/-! ## All fields -/

/-- One field which is a star. -/
def Starred (fields : List Bytes) : Prop :=
  ∃ field, fields = [field] ∧ Wildcard field

/-- Fields which are comma lists, with their tags. -/
def Listed (fields : List Bytes) (tags : List EntityTag) : Prop :=
  fields ≠ [] ∧ ∃ lists, List.Forall₂ TagList fields lists ∧
    lists.flatten = tags

variable {fields : List Bytes} {result : Int} {count : Nat}

theorem joinResults_found (earlier : result = -2 ∨ result = 0 ∨ result = 1)
    (found : Bool) :
    joinResults result (if found then 1 else 0) = if result = 1 ∨
      found then 1 else 0 := by
  rcases earlier with rfl | rfl | rfl <;> cases found <;> rfl

theorem fileTagsLoop_listed (earlier : result = -2 ∨ result = 0 ∨ result = 1)
    (listed : Listed fields tags) :
    fileTagsLoop etag.text strong result count false fields =
      if result = 1 ∨ tags.any (·.agrees strong etag) then 1 else 0 := by
  obtain ⟨filled, lists, all, rfl⟩ := listed
  induction all generalizing result count with
  | nil => exact absurd rfl filled
  | @cons field tags fields lists list all ih =>
    obtain ⟨found, first⟩ := @fileTagMatches_list field tags etag strong list
    rw [fileTagsLoop, found, joinResults_found earlier, if_neg]
    · simp only [first, decide_false, Bool.or_false, List.flatten_cons,
        List.any_append]
      cases all with
      | nil => simp [fileTagsLoop]
      | cons =>
        rw [ih ?_ (List.cons_ne_nil _ _)]
        · grind
        · split_ifs <;> simp
    · simp only [first]
      split_ifs <;> simp

theorem fileTagsLoop_starred (star : Starred fields) (octets : Bytes) :
    fileTagsLoop octets strong (-2) 0 false fields = 1 := by
  obtain ⟨field, rfl, star⟩ := star
  simp [fileTagsLoop, joinResults, fileTagMatches_wildcard star octets strong]

theorem fileTagsLoop_malformed {octets : Bytes} {wildcard : Bool}
    (filled : fields ≠ [])
    (noStar : count = 0 → ¬ Starred fields)
    (noLists : ¬ ∃ tags, Listed fields tags) :
    fileTagsLoop octets strong result count wildcard fields = -1 := by
  induction fields generalizing result count wildcard with
  | nil => exact absurd rfl filled
  | cons field fields ih =>
    rw [fileTagsLoop]
    split
    · rfl
    rename_i accepted
    by_cases star : Wildcard field
    · obtain ⟨-, first⟩ := fileTagMatches_wildcard star octets strong
      have alone : count = 0 := by
        by_contra later
        exact accepted (.inr ⟨by omega, by simp [first]⟩)
      cases fields with
      | nil => exact absurd ⟨field, rfl, star⟩ (noStar alone)
      | cons next fields =>
        rw [fileTagsLoop, if_pos]
        simp [first, alone]
    obtain ⟨tags, list⟩ : ∃ tags, TagList field tags := by
      by_contra noList
      rw [fileTagMatches_malformed star noList] at accepted
      exact accepted (.inl (by decide))
    refine ih ?_ (fun zero => absurd zero (Nat.succ_ne_zero _)) ?_
    · rintro rfl
      exact noLists ⟨_, filled, [tags], .cons list .nil, rfl⟩
    · rintro ⟨_, -, lists, all, -⟩
      exact noLists ⟨_, filled, tags :: lists, .cons list all, rfl⟩

/-- Conditions on entity tags are evaluated by their lists.  `-2` says that
there is no field with the name, and `-1` that the fields are neither one star
nor comma lists. -/
theorem fileRequestTags_iff (headers : List (CString × CString)) (name : Bytes)
    (etag : EntityTag)
    (strong : Bool) :
    let fields := namedFields headers name
    let result := fileRequestTags headers name etag.text strong
    (result = -2 ↔ fields = []) ∧
    (result = 1 ↔ Starred fields ∨
      ∃ tags, Listed fields tags ∧ ∃ tag ∈ tags,
      tag.agrees strong etag = true) ∧
    (result = 0 ↔ ∃ tags, Listed fields tags ∧ ¬ ∃ tag ∈ tags,
      tag.agrees strong etag = true) ∧
    (result = -1 ↔ fields ≠ [] ∧ ¬ Starred fields ∧ ¬ ∃ tags,
      Listed fields tags) := by
  dsimp only [fileRequestTags]
  generalize namedFields headers name = fields
  rcases eq_or_ne fields [] with rfl | filled
  · simp [fileTagsLoop, Starred, Listed]
  by_cases star : Starred fields
  · have none (tags : List EntityTag) : ¬ Listed fields tags := by
      rintro ⟨-, lists, all, -⟩
      obtain ⟨field, rfl, star⟩ := star
      cases all with
      | cons list =>
        exact (@fileTagMatches_list _ _ etag strong list).2
          (fileTagMatches_wildcard star etag.text strong).2
    simp [fileTagsLoop_starred star etag.text, filled, star, none]
  by_cases some : ∃ tags, Listed fields tags
  · have value {tags : List EntityTag} (listed : Listed fields tags) :
        (fileTagsLoop etag.text strong (-2) 0 false fields = 1 ↔
          ∃ tag ∈ tags, tag.agrees strong etag = true) ∧
        (fileTagsLoop etag.text strong (-2) 0 false fields = 1 ∨
          fileTagsLoop etag.text strong (-2) 0 false fields = 0) := by
      rw [fileTagsLoop_listed (.inl rfl) listed]
      split_ifs <;> simp_all
    generalize fileTagsLoop etag.text strong (-2) 0 false fields =
      result at value
    obtain ⟨tags, here⟩ := some
    obtain ⟨one, either⟩ := value here
    refine ⟨iff_of_false (by omega) filled,
      ⟨fun isOne => .inr ⟨tags, here, one.mp isOne⟩, ?_⟩,
      ⟨fun isZero => ⟨tags, here, fun found => ?_⟩, ?_⟩,
      iff_of_false (by omega) fun none => none.2.2 ⟨tags, here⟩⟩
    · rintro (starred | ⟨tags, listed, found⟩)
      · exact absurd starred star
      · exact (value listed).1.mpr found
    · have isOne := one.mpr found
      omega
    · rintro ⟨tags, listed, none⟩
      exact (value listed).2.resolve_left fun isOne => none
        ((value listed).1.mp isOne)
  · simp [fileTagsLoop_malformed filled (fun _ => star) some, filled, star,
      not_exists.mp some]

end Chttp.Server
