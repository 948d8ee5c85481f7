import Chttp.App.Assets.Mount
import Chttp.Lib.Segments
import Mathlib.Data.List.Induction

/-!
# Assets stay below the root of their mount

A relative path is a list of segments which the code keeps joined in one buffer.
Here the segments come first: the loops of the source read and write joins, and
what they accept is said about the lists.
-/

namespace Chttp.App

open Lib Server

/-! ## Segments -/

/-- A path as the segments of a relative path. -/
def joinSegments (segments : List Bytes) : Bytes := [slash].intercalate segments

variable (path : Bytes)

/-- The segments which are not dropped. -/
def keptSegments : List Bytes := (path.splitOn slash).filter fun segment =>
    segment ≠ [] ∧ segment ≠ [fullStop]

/-- The octets of a path, percent-decoded if need be. -/
def decodePath (decodePercent : Bool) (input : Bytes) : Option Bytes :=
  match input with
  | [] => some []
  | value :: rest =>
    match _read : readOctet decodePercent value rest with
    | .error _ => none
    | .ok (octet, rest) => (decodePath decodePercent rest).map (octet :: ·)
termination_by input.length
decreasing_by exact Nat.lt_succ_of_le (readOctet_rest _read).length_le

/-- A segment which cannot lead elsewhere. -/
structure ProperSegment (segment : Bytes) : Prop where
  nonempty : segment ≠ []
  notDot : segment ≠ [fullStop]
  notDotDot : segment ≠ [fullStop, fullStop]
  octets : ∀ value ∈ segment, value ≠ slash ∧ value ≠ backslash ∧
    value ≠ 0 ∧ value ≠ 58 ∧ 0x20 ≤ value ∧ value ≠ 0x7f

/-- A segment which is stored. -/
structure Storable (segment : Bytes) : Prop where
  nonempty : segment ≠ []
  notDot : segment ≠ [fullStop]
  notDotDot : segment ≠ [fullStop, fullStop]
  last : ¬ (segment.getLast? = some fullStop ∨ segment.getLast? = some space)
  valid : ∀ value ∈ segment, assetComponentByteValid value = true

theorem octet_of_valid {value : UInt8}
    (valid : assetComponentByteValid value = true) :
    value ≠ slash ∧ value ≠ backslash ∧ value ≠ 0 ∧ value ≠ 58 ∧
      0x20 ≤ value ∧ value ≠ 0x7f := by
  unfold assetComponentByteValid at valid
  simp only [Bool.not_eq_true', Bool.or_eq_false_iff, decide_eq_false_iff_not,
    beq_eq_false_iff_ne] at valid
  obtain ⟨⟨⟨⟨⟨⟨⟨⟨⟨⟨⟨printable, delete⟩, reverse⟩, forward⟩, drive⟩, -⟩, -⟩, -⟩,
    -⟩,
    -⟩, -⟩, -⟩ := valid
  refine ⟨forward, reverse, ?_, drive, UInt8.not_lt.mp printable, delete⟩
  rintro rfl
  exact printable (by decide)

variable {segment text input : Bytes} {segments : List Bytes} {max : Nat}
  {decodePercent : Bool}

theorem Storable.proper (storable : Storable segment) : ProperSegment segment :=
  ⟨storable.nonempty, storable.notDot, storable.notDotDot,
    fun value member => octet_of_valid (storable.valid value member)⟩

theorem slash_not_mem_of_valid (valid : ∀ value ∈ text,
    assetComponentByteValid value = true) :
    slash ∉ text :=
  fun member => (octet_of_valid (valid slash member)).1 rfl

theorem joinSegments_cons (some : segments ≠ []) (segment : Bytes) :
    joinSegments (segment :: segments) =
      segment ++ slash :: joinSegments segments :=
  intercalate_cons some segment

theorem joinSegments_single (segment : Bytes) :
    joinSegments [segment] = segment :=
  List.intercalate_singleton

theorem joinSegments_concat (some : segments ≠ []) (segment : Bytes) :
    joinSegments (segments ++ [segment]) =
      joinSegments segments ++ [slash] ++ segment := by
  rw [List.append_assoc]
  exact intercalate_concat some segment

theorem joinSegments_eq_nil_iff (each : ∀ segment ∈ segments, segment ≠ []) :
    joinSegments segments = [] ↔ segments = [] := by
  constructor
  · intro empty
    cases segments with
    | nil => rfl
    | cons first others =>
      have first_ne := each first List.mem_cons_self
      cases others with
      | nil =>
        rw [joinSegments_single] at empty
        exact absurd empty first_ne
      | cons second others =>
        rw [joinSegments_cons (List.cons_ne_nil _ _)] at empty
        exact absurd (List.append_eq_nil_iff.mp empty).1 first_ne
  · rintro rfl
    rfl

theorem eq_slash_of_mem_takeWhile :
    ∀ value ∈ path.takeWhile (· = slash), value = slash := by
  intro value member
  have held := List.mem_takeWhile_imp member
  exact of_decide_eq_true held

theorem dropWhile_joinSegments (each : ∀ segment ∈ segments, Storable segment) :
    (joinSegments segments).dropWhile (· = slash) = joinSegments segments := by
  cases segments with
  | nil => rfl
  | cons segment others =>
    have storable := each segment List.mem_cons_self
    have starts : ∃ rest, joinSegments (segment :: others) =
        segment ++ rest := by
      by_cases last : others = []
      · subst last
        exact ⟨[], rfl⟩
      · exact ⟨_, joinSegments_cons last segment⟩
    obtain ⟨rest, joined⟩ := starts
    rw [joined]
    cases segment with
    | nil => exact absurd rfl storable.nonempty
    | cons value segment =>
      have valid := storable.valid value List.mem_cons_self
      rw [List.cons_append, List.dropWhile_cons, if_neg]
      rw [decide_eq_true_eq]
      exact (octet_of_valid valid).1

/-! ### Kept segments -/

theorem keptSegments_slash :
    keptSegments (slash :: path) = keptSegments path := by
  unfold keptSegments List.splitOn
  rw [List.splitOnP_cons_eq_if_modifyHead, if_pos (by decide)]
  rfl

theorem keptSegments_slashes {slashes : Bytes}
    (all : ∀ value ∈ slashes, value = slash)
    (path : Bytes) : keptSegments (slashes ++ path) = keptSegments path := by
  induction slashes with
  | nil => rfl
  | cons value slashes ih =>
    rw [all value List.mem_cons_self, List.cons_append, keptSegments_slash]
    exact ih fun other member => all other (List.mem_cons_of_mem _ member)

theorem keptSegments_text (clean : slash ∉ text) : keptSegments text =
    [text].filter fun segment => segment ≠ [] ∧ segment ≠ [fullStop] := by
  unfold keptSegments
  rw [List.splitOn_eq_singleton clean]

theorem keptSegments_append (clean : slash ∉ text) (path : Bytes) :
    keptSegments (text ++ slash :: path) =
      keptSegments text ++ keptSegments path := by
  have other : ∀ value ∈ text, (value == slash) = false := by
    intro value member
    rw [beq_eq_false_iff_ne]
    rintro rfl
    exact clean member
  rw [keptSegments_text clean]
  unfold keptSegments List.splitOn
  rw [List.splitOnP_append_cons_of_forall_mem other slash BEq.rfl path,
    ← List.filter_append]
  rfl

/-! ### Decoding -/

theorem decodePath_read {value octet : UInt8} {path rest : Bytes}
    (read : readOctet decodePercent value path = .ok (octet, rest)) :
    decodePath decodePercent (value :: path) =
      (decodePath decodePercent rest).map (octet :: ·) := by
  rw [decodePath]
  split
  · rename_i failed
    rw [read] at failed
    cases failed
  · rename_i again
    rw [read] at again
    cases again
    rfl

theorem decodePath_slashes (decodePercent : Bool) {slashes : Bytes}
    (all : ∀ value ∈ slashes, value = slash) (path : Bytes) :
    decodePath decodePercent (slashes ++ path) =
      (decodePath decodePercent path).map (slashes ++ ·) := by
  induction slashes with
  | nil => exact Option.map_id'.symm
  | cons value slashes ih =>
    have others := ih fun other member => all other
      (List.mem_cons_of_mem _ member)
    have plain : readOctet decodePercent slash (slashes ++ path) =
        .ok (slash, slashes ++ path) :=
      if_neg fun percent => absurd percent.2 (by decide)
    rw [all value List.mem_cons_self, List.cons_append, decodePath_read plain,
      others,
      Option.map_map]
    rfl

theorem decodePath_dropWhile {decoded : Bytes}
    (decodes : decodePath decodePercent (input.dropWhile (· = slash)) =
      some decoded) :
    decodePath decodePercent input =
      some (input.takeWhile (· = slash) ++ decoded) := by
  have whole := decodePath_slashes decodePercent
    (eq_slash_of_mem_takeWhile input)
    (input.dropWhile (· = slash))
  rw [List.takeWhile_append_dropWhile, decodes] at whole
  exact whole

/-! ## Normalization -/

theorem storeOctet_ok {segment' : Bytes} {value : UInt8}
    (stored : storeOctet max segment value = .ok segment') :
    segment' = segment ++ [value] ∧ assetComponentByteValid value = true ∧
      segment.length ≠ max := by
  unfold storeOctet at stored
  split_ifs at stored with invalid long
  cases stored
  rw [Bool.not_eq_true, Bool.not_eq_false'] at invalid
  exact ⟨rfl, invalid, fun full => long (.inl full)⟩

theorem readSegment_ok {segment' rest : Bytes}
    (read : readSegment max decodePercent segment input =
      .ok (segment', rest)) :
    ∃ text, segment' = segment ++ text ∧
      (∀ value ∈ text, assetComponentByteValid value = true) ∧
      (rest = [] ∨ rest.head? = some slash) ∧
      decodePath decodePercent input =
        (decodePath decodePercent rest).map (text ++ ·) := by
  fun_induction readSegment max decodePercent segment input with
  | case1 =>
    cases read
    refine ⟨[], (List.append_nil _).symm, List.forall_mem_nil _, .inl rfl, ?_⟩
    rw [decodePath]
    rfl
  | case2 =>
    cases read
    exact ⟨[], (List.append_nil _).symm, List.forall_mem_nil _, .inr rfl,
      Option.map_id'.symm⟩
  | case3 | case4 => cases read
  | case5 segment value rest other octet rest' octetRead segment'' stored ih =>
    obtain ⟨rfl, valid, -⟩ := storeOctet_ok stored
    obtain ⟨text, rfl, valids, ends, decoded⟩ := ih read
    refine ⟨octet :: text, List.append_assoc .., ?_, ends, ?_⟩
    · exact List.forall_mem_cons.mpr ⟨valid, valids⟩
    rw [decodePath_read octetRead, decoded, Option.map_map]
    rfl

/-- A segment is dropped, or it is stored behind the segments before it. -/
theorem storeSegment_ok {output : Bytes}
    (each : ∀ segment ∈ segments, segment ≠ [])
    (valid : ∀ value ∈ segment, assetComponentByteValid value = true)
    (bounded : (joinSegments segments).length ≤ max)
    (stored : storeSegment max (joinSegments segments) segment = .ok output) :
    (∀ segment' ∈ keptSegments segment, Storable segment') ∧
      output = joinSegments (segments ++ keptSegments segment) ∧
        output.length ≤ max := by
  rw [keptSegments_text (slash_not_mem_of_valid valid)]
  unfold storeSegment at stored
  dsimp only at stored
  by_cases dropped : segment = [] ∨ segment = [fullStop]
  · rw [if_pos dropped] at stored
    cases stored
    have none : ([segment].filter fun segment =>
        segment ≠ [] ∧ segment ≠ [fullStop]) = [] := by
      refine List.filter_cons_of_neg ?_
      rw [decide_eq_true_eq]
      rintro ⟨some, notDot⟩
      exact dropped.elim some notDot
    rw [none, List.append_nil]
    exact ⟨List.forall_mem_nil _, rfl, bounded⟩
  rw [if_neg dropped] at stored
  rw [not_or] at dropped
  split_ifs at stored with dots last long some fits fits
  all_goals
    rw [List.filter_cons_of_pos (by exact decide_eq_true dropped),
      List.filter_nil]
    have storable : Storable segment :=
      ⟨dropped.1, dropped.2, dots, last, valid⟩
    cases stored
  · -- there are segments in front of this one
    have others : segments ≠ [] := mt (joinSegments_eq_nil_iff each).mpr some
    refine ⟨List.forall_mem_singleton.mpr storable,
      (joinSegments_concat others segment).symm, ?_⟩
    have different : (joinSegments segments).length ≠ max :=
      fun same => long ⟨some, same⟩
    rw [List.length_append, List.length_singleton] at fits
    rw [List.length_append, List.length_append, List.length_singleton]
    omega
  have empty := Classical.not_not.mp some
  have first := (joinSegments_eq_nil_iff each).mp empty
  subst first
  refine ⟨List.forall_mem_singleton.mpr storable,
    (List.append_nil segment).symm, ?_⟩
  rw [empty] at fits ⊢
  rw [List.nil_append]
  rw [List.length_nil] at fits
  omega

/-- The loop keeps the decoded segments of its input. -/
theorem normalizeLoop_ok {max : Nat} {decodePercent : Bool}
    {segments : List Bytes}
    {output input result : Bytes} (joined : output = joinSegments segments)
    (each : ∀ segment ∈ segments, Storable segment)
    (bounded : output.length ≤ max)
    (normalized : normalizeLoop max decodePercent output input = .ok result) :
    ∃ decoded, decodePath decodePercent input = some decoded ∧
      (∀ segment ∈ segments ++ keptSegments decoded, Storable segment) ∧
      result = joinSegments (segments ++ keptSegments decoded) ∧
      result.length ≤ max := by
  fun_induction normalizeLoop max decodePercent output input
    generalizing segments with
  | case1 output =>
    cases normalized
    have none : segments ++ keptSegments [] = segments :=
      List.append_nil segments
    exact ⟨[], by rw [decodePath], by rwa [none], by rwa [none], bounded⟩
  | case2 | case3 => cases normalized
  | case4 output input nonempty segment rest read output' stored ih =>
    subst joined
    obtain ⟨_, rfl, valid, ends, decodes⟩ := readSegment_ok read
    obtain ⟨storable, rfl, bounded'⟩ :=
      storeSegment_ok (fun segment member => (each segment member).nonempty)
        valid bounded stored
    obtain ⟨decoded, decodes', each', result', bounded''⟩ := ih rfl
      (List.forall_mem_append.mpr ⟨each, storable⟩) bounded' normalized
    have clean := slash_not_mem_of_valid valid
    have kept : keptSegments
      (segment ++ (rest.takeWhile (· = slash) ++ decoded)) =
          keptSegments segment ++ keptSegments decoded := by
      rcases ends with rfl | first
      · rw [List.dropWhile_nil, decodePath] at decodes'
        cases decodes'
        rw [List.takeWhile_nil, List.append_nil, List.append_nil]
        exact (List.append_nil _).symm
      cases rest with
      | nil => cases first
      | cons value rest =>
        cases Option.some.inj first
        rw [List.takeWhile_cons, if_pos (decide_eq_true rfl),
          List.cons_append, keptSegments_append clean]
        exact congrArg _
          (keptSegments_slashes (eq_slash_of_mem_takeWhile rest) decoded)
    refine ⟨segment ++ (rest.takeWhile (· = slash) ++ decoded), ?_, ?_⟩
    · rw [decodes, decodePath_dropWhile decodes']
      rfl
    · rw [kept, ← List.append_assoc]
      exact ⟨each', result', bounded''⟩

theorem normalizeRelative_ok {utf8Valid : Bytes → Bool} {relative : Bytes}
    (normalized : normalizeRelative utf8Valid input max decodePercent =
      .ok relative) :
    ∃ decoded, decodePath decodePercent input = some decoded ∧
      keptSegments decoded ≠ [] ∧
      (∀ segment ∈ keptSegments decoded, Storable segment) ∧
      relative = joinSegments (keptSegments decoded) ∧
      relative.length ≤ max ∧ max ≤ assetRelativeHardMax ∧
      utf8Valid relative = true := by
  unfold normalizeRelative at normalized
  split_ifs at normalized with limits
  split at normalized
  · cases normalized
  rename_i output looped
  split_ifs at normalized with empty invalid
  cases normalized
  obtain ⟨decoded, decodes, each, joined, bounded⟩ :=
    @normalizeLoop_ok max decodePercent [] [] _ _ rfl (List.forall_mem_nil _)
      (Nat.zero_le _) looped
  rw [List.nil_append] at each joined
  refine ⟨_, decodePath_dropWhile decodes, ?_⟩
  rw [keptSegments_slashes (eq_slash_of_mem_takeWhile input) decoded]
  refine ⟨?_, each, joined, bounded, by omega, ?_⟩
  · rintro none
    rw [none] at joined
    exact empty joined
  · rwa [Bool.not_eq_true, Bool.not_eq_false'] at invalid

/-! ### Normal forms -/

theorem joinSegments_length_le (segments others : List Bytes) :
    (joinSegments segments).length ≤
    (joinSegments (segments ++ others)).length := by
  induction others using List.reverseRecOn with
  | nil => rw [List.append_nil]
  | append_singleton others segment ih =>
    rw [← List.append_assoc]
    refine ih.trans ?_
    by_cases first : segments ++ others = []
    · rw [first]
      exact Nat.zero_le _
    · rw [joinSegments_concat first, List.append_assoc, List.length_append]
      exact Nat.le_add_right _ _

theorem readSegment_text {max : Nat} {segment text rest : Bytes}
    (valid : ∀ value ∈ text, assetComponentByteValid value = true)
    (bounded : segment.length + text.length ≤ max)
    (small : max ≤ assetRelativeHardMax)
    (ends : rest = [] ∨ rest.head? = some slash) :
    readSegment max false segment (text ++ rest) =
      .ok (segment ++ text, rest) := by
  induction text generalizing segment with
  | nil =>
    rw [List.nil_append, List.append_nil]
    rcases ends with rfl | first
    · rw [readSegment]
    cases rest with
    | nil => cases first
    | cons value rest =>
      cases Option.some.inj first
      rw [readSegment, if_pos rfl]
  | cons value text ih =>
    obtain ⟨valued, others⟩ := List.forall_mem_cons.mp valid
    rw [List.length_cons] at bounded
    have stored : storeOctet max segment value = .ok (segment ++ [value]) := by
      unfold storeOctet
      rw [valued, if_neg (by decide), if_neg (by omega)]
    have plain : readOctet false value (text ++ rest) =
        .ok (value, text ++ rest) :=
      if_neg fun percent => Bool.false_ne_true percent.1
    rw [List.cons_append, readSegment, if_neg (octet_of_valid valued).1]
    split
    · rename_i failed
      rw [plain] at failed
      cases failed
    rename_i read
    rw [plain] at read
    cases read
    rw [stored]
    dsimp only
    rw [ih others (by rw [List.length_append, List.length_singleton]; omega),
      List.append_assoc, List.singleton_append]

theorem storeSegment_storable (each : ∀ segment ∈ segments, segment ≠ [])
    (storable : Storable segment)
    (bounded : (joinSegments (segments ++ [segment])).length ≤ max) :
    storeSegment max (joinSegments segments) segment =
      .ok (joinSegments (segments ++ [segment])) := by
  unfold storeSegment
  dsimp only
  rw [if_neg (not_or.mpr ⟨storable.nonempty, storable.notDot⟩),
    if_neg storable.notDotDot, if_neg storable.last]
  by_cases first : segments = []
  · subst first
    rw [List.nil_append, joinSegments_single] at bounded ⊢
    have empty : ¬ joinSegments [] ≠ [] := fun some => some rfl
    have fits : ¬ max - (joinSegments []).length < segment.length := by
      rw [show joinSegments [] = [] from rfl, List.length_nil]
      omega
    rw [if_neg fun long => empty long.1, if_neg empty, if_neg fits]
    rfl
  have some := mt (joinSegments_eq_nil_iff each).mp first
  rw [joinSegments_concat first] at bounded ⊢
  rw [List.length_append, List.length_append, List.length_singleton]
    at bounded
  have short : ¬ (joinSegments segments).length = max := by
    omega
  rw [if_neg fun long => short long.2, if_pos some, if_neg]
  rw [List.length_append, List.length_singleton]
  omega

/-- Segments which are stored are read back as they are. -/
theorem normalizeLoop_join {max : Nat} {segments others : List Bytes}
    (small : max ≤ assetRelativeHardMax)
    (each : ∀ segment ∈ segments ++ others, Storable segment)
    (bounded : (joinSegments (segments ++ others)).length ≤ max) :
    normalizeLoop max false (joinSegments segments) (joinSegments others) =
      .ok (joinSegments (segments ++ others)) := by
  induction others generalizing segments with
  | nil =>
    rw [normalizeLoop, dif_pos (show joinSegments [] = [] from rfl),
      List.append_nil]
  | cons segment others ih =>
    rw [List.append_cons] at each bounded ⊢
    have storable : Storable segment := each segment
      (List.mem_append_left _ (List.mem_append_right _ List.mem_cons_self))
    have before : ∀ segment ∈ segments, segment ≠ [] :=
      fun segment member => (each segment
        (List.mem_append_left _ (List.mem_append_left _ member))).nonempty
    have behind : ∀ segment ∈ others, Storable segment :=
      fun segment member => each segment (List.mem_append_right _ member)
    obtain ⟨rest, ends, joined, dropped⟩ : ∃ rest,
      (rest = [] ∨ rest.head? = some slash) ∧
        joinSegments (segment :: others) = segment ++ rest ∧
        rest.dropWhile (· = slash) = joinSegments others := by
      by_cases last : others = []
      · subst last
        exact ⟨[], .inl rfl, rfl, rfl⟩
      · refine ⟨slash :: joinSegments others, .inr rfl,
          joinSegments_cons last segment, ?_⟩
        rw [List.dropWhile_cons, if_pos (decide_eq_true rfl)]
        exact dropWhile_joinSegments behind
    have shorter : (joinSegments (segments ++ [segment])).length ≤ max :=
      (joinSegments_length_le (segments ++ [segment]) others).trans bounded
    have long : segment.length ≤
        (joinSegments (segments ++ [segment])).length := by
      by_cases first : segments = []
      · subst first
        rw [List.nil_append, joinSegments_single]
      · rw [joinSegments_concat first, List.length_append]
        exact Nat.le_add_left _ _
    have read := @readSegment_text max [] segment rest storable.valid
      (by rw [List.length_nil, Nat.zero_add]; exact long.trans shorter) small
      ends
    have some : segment ++ rest ≠ [] :=
      List.append_ne_nil_of_left_ne_nil storable.nonempty rest
    rw [joined, normalizeLoop, dif_neg some]
    split
    · rename_i failed
      rw [read] at failed
      cases failed
    rename_i again
    rw [read] at again
    cases again
    rw [List.nil_append, storeSegment_storable before storable shorter]
    dsimp only
    rw [dropped]
    exact ih each bounded

theorem normalizeRelative_idempotent {utf8Valid : Bytes → Bool}
    {relative : Bytes}
    (normalized : normalizeRelative utf8Valid input max decodePercent =
      .ok relative) :
    normalizeRelative utf8Valid relative max false = .ok relative := by
  obtain ⟨decoded, -, some, each, rfl, bounded, small, valid⟩ :=
    normalizeRelative_ok normalized
  have nonempty : joinSegments (keptSegments decoded) ≠ [] :=
    mt (joinSegments_eq_nil_iff fun segment member =>
      (each segment member).nonempty).mp some
  have length := List.length_pos_iff.mpr nonempty
  have looped := @normalizeLoop_join max []
    (keptSegments decoded) small each bounded
  unfold normalizeRelative
  rw [if_neg (by omega), dropWhile_joinSegments each]
  rw [show joinSegments [] = [] from rfl, List.nil_append] at looped
  rw [looped]
  dsimp only
  rw [if_neg nonempty, valid, if_neg (by decide)]

/-! ## The walk -/

namespace Platform

variable (platform : Platform)

/-- The characters which separate the segments of a path. -/
def Separates (value : UInt8) : Prop :=
  value = slash ∨ (platform = .windows ∧ value = backslash)

instance (platform : Platform) (value : UInt8) :
    Decidable (platform.Separates value) :=
  inferInstanceAs (Decidable (_ ∨ _))

/-- The path of the segments below a root, which may end with a separator. -/
def below (root : Bytes) (segments : List Bytes) : Bytes :=
  if segments = [] then root
  else
    (if root.getLast?.any (fun value => platform.Separates value) then root
      else root ++ [platform.separator]) ++
      [platform.separator].intercalate segments

/-- The file system knows the path, and it is no link. -/
def Unlinked (files : FileSystem) (time : Nat) (path : Bytes)
    (metadata : FileMetadata) : Prop :=
  files.lstat time path = .ok metadata ∧
    match platform with
    | .posix => metadata.isSymlink = false
    | .windows => files.reparsePoint time path = some false

variable {platform : Platform} {segments : List Bytes}

theorem pathHasReparse_ok {files : FileSystem} {time : Nat} {path : Bytes}
    {metadata : FileMetadata}
    (asked : platform.pathHasReparse files time path = .ok metadata) :
    platform.Unlinked files time path metadata := by
  unfold pathHasReparse at asked
  split at asked
  · cases asked
  rename_i found known
  cases platform with
  | posix =>
    dsimp only at asked
    split_ifs at asked with link
    cases asked
    exact ⟨known, Bool.not_eq_true _ ▸ link⟩
  | windows =>
    dsimp only at asked
    split at asked
    · cases asked
    · cases asked
    · rename_i plain
      cases asked
      exact ⟨known, plain⟩

theorem takeWhile_joinSegments {segment : Bytes} (clean : slash ∉ segment) :
    (joinSegments (segment :: segments)).takeWhile (· ≠ slash) = segment ∧
      (slash ∉ joinSegments (segment :: segments) ↔ segments = []) ∧
      (segments ≠ [] → (joinSegments (segment :: segments)).drop
        (segment.length + 1) = joinSegments segments) := by
  by_cases last : segments = []
  · subst last
    have whole := takeWhile_part clean (.inl rfl)
    rw [List.append_nil] at whole
    rw [joinSegments_single]
    exact ⟨whole, ⟨fun _ => rfl, fun _ => clean⟩, fun some => absurd rfl some⟩
  rw [joinSegments_cons last]
  refine ⟨?_, ⟨fun absent => absurd ?_ absent, fun none => absurd none last⟩,
    fun _ => ?_⟩
  · exact takeWhile_part clean (.inr rfl)
  · exact List.mem_append_right _ List.mem_cons_self
  · rw [List.drop_append, List.drop_of_length_le (Nat.le_succ _),
      List.nil_append, Nat.add_sub_cancel_left]
    rfl

/-- Every path on the way was asked for, and none of them is a link. -/
theorem resolveLoop_ok {files : FileSystem} {time : Nat} {output path : Bytes}
    (some : segments ≠ []) (each : ∀ segment ∈ segments, Storable segment)
    (resolved : platform.resolveLoop files time output (joinSegments segments) =
      .ok path) :
    path = segments.foldl platform.place output ∧
      path.length ≤ assetFsPathHardMax ∧
      ∀ index < segments.length, ∃ metadata,
        platform.Unlinked files (time + index)
            ((segments.take (index + 1)).foldl platform.place output) metadata ∧
          (index + 1 < segments.length → metadata.isDirectory = true) ∧
          (index + 1 = segments.length → metadata.isFile = true) := by
  induction segments generalizing time output with
  | nil => exact absurd rfl some
  | cons segment segments ih =>
    obtain ⟨storable, others⟩ := List.forall_mem_cons.mp each
    obtain ⟨taken, last_iff, dropped⟩ :=
      @takeWhile_joinSegments segments segment
        (slash_not_mem_of_valid storable.valid)
    have nonempty : joinSegments (segment :: segments) ≠ [] :=
      mt (joinSegments_eq_nil_iff fun segment member =>
        (each segment member).nonempty).mp some
    rw [resolveLoop, dif_neg nonempty] at resolved
    dsimp only at resolved
    rw [taken] at resolved
    by_cases long : assetFsPathHardMax < output.length + 1 + segment.length
    · rw [if_pos long] at resolved
      cases resolved
    rw [if_neg long] at resolved
    split at resolved
    · cases resolved
    rename_i metadata asked
    have unlinked := pathHasReparse_ok asked
    by_cases last : slash ∉ joinSegments (segment :: segments)
    · -- the file
      rw [if_pos last] at resolved
      split_ifs at resolved with file
      have none := last_iff.mp last
      subst none
      cases resolved
      refine ⟨rfl, ?_, ?_⟩
      · have placed : (platform.place output segment).length ≤
            output.length + 1 + segment.length := by
          unfold place
          rw [List.length_append]
          split_ifs
          · rw [List.length_append, List.length_singleton]
          · omega
        omega
      intro index bound
      have first : index = 0 := by
        rw [List.length_singleton] at bound
        omega
      subst first
      exact ⟨metadata, unlinked, fun more => absurd more (by simp),
        fun _ => Bool.not_eq_false _ ▸ (by simpa using file)⟩
    -- a directory on the way
    rw [if_neg last] at resolved
    split_ifs at resolved with directory
    have more : segments ≠ [] := mt last_iff.mpr last
    rw [dropped more] at resolved
    obtain ⟨placed, bounded, asked'⟩ := ih more others resolved
    refine ⟨placed, bounded, ?_⟩
    intro index bound
    cases index with
    | zero =>
      refine ⟨metadata, unlinked, fun _ => by simpa using directory, ?_⟩
      intro single
      rw [List.length_cons] at single
      exact absurd (List.length_eq_zero_iff.mp (by omega)) more
    | succ index =>
      rw [List.length_cons] at bound ⊢
      obtain ⟨metadata', unlinked', directories, files'⟩ :=
        asked' index (by omega)
      refine ⟨metadata', ?_, fun before => directories (by omega),
        fun same => files' (by omega)⟩
      rw [Nat.add_right_comm] at unlinked'
      exact unlinked'

theorem Storable.getLast {segment : Bytes} (storable : Storable segment)
    (front : Bytes) :
    (front ++ segment).getLast? ≠ some slash ∧
      (front ++ segment).getLast? ≠ some backslash := by
  have last : (front ++ segment).getLast? = segment.getLast? := by
    rw [List.getLast?_append, List.getLast?_eq_some_getLast storable.nonempty]
    rfl
  have octet {value : UInt8} (same : segment.getLast? = some value) :=
    octet_of_valid (storable.valid _ (List.mem_of_getLast? same))
  rw [last]
  exact ⟨fun same => (octet same).1 rfl, fun same => (octet same).2.1 rfl⟩

theorem place_root {root : Bytes} (nonempty : root ≠ [])
    (plain : platform = .posix → root.getLast? ≠ some backslash)
    (segment : Bytes) :
    platform.place root segment = platform.below root [segment] := by
  obtain ⟨value, last⟩ :=
    Option.isSome_iff_exists.mp (List.getLast?_isSome.mpr nonempty)
  unfold place below
  rw [if_neg (List.cons_ne_nil _ _), List.intercalate_singleton, last]
  rw [last] at plain
  by_cases separates : platform.Separates value
  · have holds : (some value).any (fun value => platform.Separates value) =
        true :=
      decide_eq_true separates
    rw [if_neg, if_pos holds]
    rintro (empty | ⟨notSlash, notReverse⟩)
    · exact nonempty empty
    · rcases separates with rfl | ⟨-, rfl⟩
      · exact notSlash rfl
      · exact notReverse rfl
  have other : ¬ (some value).any (fun value => platform.Separates value) =
      true :=
    fun holds => separates (of_decide_eq_true holds)
  rw [if_pos, if_neg other]
  refine .inr ⟨?_, ?_⟩
  · intro same
    exact separates (.inl (Option.some.inj same))
  · intro same
    cases platform with
    | posix => exact plain rfl same
    | windows => exact separates (.inr ⟨rfl, Option.some.inj same⟩)

theorem below_concat (platform : Platform) (root : Bytes) (some : segments ≠ [])
    (segment : Bytes) :
    platform.below root (segments ++ [segment]) =
      platform.below root segments ++ [platform.separator] ++ segment := by
  unfold below
  rw [if_neg (List.append_ne_nil_of_left_ne_nil some _), if_neg some,
    intercalate_concat some, List.append_assoc, List.append_assoc]
  rfl

theorem below_ends (platform : Platform) (root : Bytes) (some : segments ≠ [])
    (each : ∀ segment ∈ segments, Storable segment) :
    ∃ front last, Storable last ∧
      platform.below root segments = front ++ last := by
  obtain ⟨before, last, rfl⟩ :=
    (List.eq_nil_or_concat segments).resolve_left some
  rw [List.concat_eq_append] at each ⊢
  have storable := each last (List.mem_append_right _ List.mem_cons_self)
  by_cases first : before = []
  · subst first
    unfold below
    rw [List.nil_append, if_neg (List.cons_ne_nil _ _),
      List.intercalate_singleton]
    exact ⟨_, last, storable, rfl⟩
  · exact ⟨_, last, storable, below_concat platform root first last⟩

/-- The walk puts a separator between two segments, and behind a root which does
not end with one. -/
theorem foldl_place {root : Bytes} (nonempty : root ≠ [])
    (plain : platform = .posix → root.getLast? ≠ some backslash)
    (each : ∀ segment ∈ segments, Storable segment) :
    segments.foldl platform.place root = platform.below root segments := by
  induction segments using List.reverseRecOn with
  | nil => rfl
  | append_singleton segments segment ih =>
    have before : ∀ segment ∈ segments, Storable segment :=
      fun segment member => each segment (List.mem_append_left _ member)
    rw [List.foldl_append, ih before, List.foldl_cons, List.foldl_nil]
    by_cases first : segments = []
    · subst first
      exact place_root nonempty plain segment
    obtain ⟨front, last, storable, ends⟩ :=
      below_ends platform root first before
    have apart := Storable.getLast storable front
    rw [← ends] at apart
    unfold place
    rw [if_pos (.inr apart), below_concat platform root first]

end Platform

/-! ## The middleware -/

namespace AssetMount

/-- What a mount takes a relative path from: the rest of the path of the
request, which is percent-decoded, or the fallback of the mount. -/
inductive Origin (mount : AssetMount) (path : CString) :
    Bytes → Bool → Prop where
  | asset (found : assetPrefixMatches mount.urlPrefix path = true) :
      Origin mount path (path.bytes.drop mount.urlPrefix.length) true
  | fallback {spaUrlPrefix fallback : CString}
      (other : assetPrefixMatches mount.urlPrefix path = false)
      (spa : mount.spaUrlPrefix = some spaUrlPrefix)
      (set : mount.spaFallbackRelativePath = some fallback)
      (found : assetPrefixMatches spaUrlPrefix path = true) :
      Origin mount path fallback.bytes false

variable {mount : AssetMount} {file : Bytes}

theorem serve_eq {surroundings : AssetSurroundings} {method : Method}
    {input cacheControl : Bytes}
    {decodePercent : Bool} {etag : Option CString}
    (served : mount.serve surroundings method input decodePercent =
      .serveFile file etag cacheControl) :
    ∃ relative, normalizeRelative surroundings.utf8Valid input
        mount.maxRelativePathBytes decodePercent = .ok relative ∧
      mount.resolveFile surroundings.platform surroundings.files relative =
        .ok file := by
  unfold serve at served
  split_ifs at served with method
  · unfold rejectMethod at served
    split at served <;> cases served
  split at served
  · cases served
  rename_i relative normalized
  refine ⟨relative, normalized, ?_⟩
  unfold serveRelative at served
  split at served
  · cases served
  rename_i path resolved
  dsimp only at served
  split at served
  · cases served
    exact resolved
  · cases served

theorem middleware_eq {surroundings : AssetSurroundings} {method : Method}
    {path : CString}
    {cacheControl : Bytes} {etag : Option CString}
    (served : mount.middleware surroundings method path =
      .serveFile file etag cacheControl) :
    ∃ input decodePercent, mount.Origin path input decodePercent ∧
      mount.serve surroundings method input decodePercent =
        .serveFile file etag cacheControl := by
  unfold middleware at served
  by_cases found : assetPrefixMatches mount.urlPrefix path = true
  · rw [if_pos found] at served
    exact ⟨_, _, .asset found, served⟩
  rw [if_neg found] at served
  split at served
  · rename_i spa set
    split_ifs at served with below
    exact ⟨_, _, .fallback (Bool.not_eq_true _ ▸ found) spa set below, served⟩
  · split_ifs at served
    unfold rejectMethod at served
    split at served <;> cases served
  · cases served

/-- The file below the root, its segments and what was asked about them. -/
theorem resolveFile_ok {platform : Platform} {files : FileSystem}
    {segments : List Bytes}
    (plain : platform = .posix →
      mount.filesystemRoot.bytes.getLast? ≠ some backslash)
    (some : segments ≠ []) (each : ∀ segment ∈ segments, Storable segment)
    (resolved : mount.resolveFile platform files (joinSegments segments) =
      .ok file) :
    file = platform.below mount.filesystemRoot.bytes segments ∧
      file.length ≤ assetFsPathHardMax ∧
      mount.filesystemRoot.length ≤ assetRootHardMax ∧
      ∀ index ≤ segments.length, ∃ metadata, platform.Unlinked files index
            (platform.below mount.filesystemRoot.bytes (segments.take index))
            metadata ∧
          (index < segments.length → metadata.isDirectory = true) ∧
          (index = segments.length → metadata.isFile = true) := by
  unfold resolveFile at resolved
  dsimp only at resolved
  split_ifs at resolved with limits
  split at resolved
  · cases resolved
  rename_i metadata asked
  split_ifs at resolved with directory
  rw [not_or] at limits
  have nonempty : mount.filesystemRoot.bytes ≠ [] :=
    fun empty => limits.2 (congrArg List.length empty)
  obtain ⟨placed, bounded, walked⟩ := Platform.resolveLoop_ok some each resolved
  refine ⟨?_, bounded, Nat.not_lt.mp limits.1, ?_⟩
  · rw [placed, Platform.foldl_place nonempty plain each]
  intro index bound
  cases index with
  | zero =>
    refine ⟨metadata, Platform.pathHasReparse_ok asked,
      fun _ => by simpa using directory, fun none => ?_⟩
    exact absurd (List.length_eq_zero_iff.mp none.symm) some
  | succ index =>
    obtain ⟨metadata', unlinked, directories, files'⟩ := walked index bound
    have before : ∀ segment ∈ segments.take (index + 1), Storable segment :=
      fun segment member => each segment (List.mem_of_mem_take member)
    rw [Platform.foldl_place nonempty plain before, Nat.add_comm 1 index]
      at unlinked
    exact ⟨metadata', unlinked, directories, files'⟩

/-- **Assets.**  A file which a registered mount serves is the root of the mount
followed by segments which cannot lead out of it: they are the segments of the
decoded rest of the path, or of the fallback, without the empty ones and the
ones which are a full stop; every path from the root to the file was found not
to be a link; and the lengths are within their limits.  A relative path which
was normalized is not changed by normalization.

On POSIX systems a backslash at the end of the root is taken for a separator
which it is not; such a root is left out. -/
theorem assets_stay_below_root :
    (∀ (registration surroundings : AssetSurroundings)
        (mount registered : AssetMount) (method : Method) (path : CString)
        (file cacheControl : Bytes) (etag : Option CString),
      mount.use registration = some registered →
      (surroundings.platform = .posix →
        registered.filesystemRoot.bytes.getLast? ≠ some backslash) →
      registered.middleware surroundings method path =
        .serveFile file etag cacheControl →
      ∃ input decodePercent decoded,
        registered.Origin path input decodePercent ∧
          decodePath decodePercent input = some decoded ∧
          keptSegments decoded ≠ [] ∧
          (∀ segment ∈ keptSegments decoded, ProperSegment segment) ∧
          file = surroundings.platform.below registered.filesystemRoot.bytes
            (keptSegments decoded) ∧
          (∀ index ≤ (keptSegments decoded).length, ∃ metadata,
            surroundings.platform.Unlinked surroundings.files index
                (surroundings.platform.below registered.filesystemRoot.bytes
                  ((keptSegments decoded).take index)) metadata ∧
              (index < (keptSegments decoded).length →
                metadata.isDirectory = true) ∧
              (index = (keptSegments decoded).length →
                metadata.isFile = true)) ∧
          (joinSegments (keptSegments decoded)).length ≤
            registered.maxRelativePathBytes ∧
          registered.maxRelativePathBytes ≤ assetRelativeHardMax ∧
          registered.filesystemRoot.length ≤ assetRootHardMax ∧
          file.length ≤ assetFsPathHardMax) ∧
      ∀ (utf8Valid : Bytes → Bool) (input relative : Bytes) (max : Nat)
      (decodePercent : Bool),
        normalizeRelative utf8Valid input max decodePercent = .ok relative →
          normalizeRelative utf8Valid relative max false = .ok relative := by
  refine ⟨?_, fun _ _ _ _ _ => normalizeRelative_idempotent⟩
  intro registration surroundings mount registered method path file cacheControl
    etag _ plain served
  obtain ⟨input, decodePercent, origin, serves⟩ := middleware_eq served
  obtain ⟨relative, normalized, resolved⟩ := serve_eq serves
  obtain ⟨decoded, decodes, some, each, rfl, bounded, small, -⟩ :=
    normalizeRelative_ok normalized
  obtain ⟨below, within, root, walked⟩ :=
    resolveFile_ok plain some each resolved
  exact ⟨input, decodePercent, decoded, origin, decodes, some,
    fun segment member => (each segment member).proper, below, walked, bounded,
    small, root, within⟩

/-- A file system in which every path is a directory and a file. -/
def openFiles : FileSystem where
  lstat _ _ := .ok ⟨true, true, false⟩
  reparsePoint _ _ := some false

/-- A POSIX system on which nothing is refused. -/
def openSurroundings : AssetSurroundings where
  platform := .posix
  files := openFiles
  utf8Valid _ := true
  setHeader _ _ := .ok

/-- A mount with a fallback. -/
def shellMount (root : CString) : AssetMount where
  urlPrefix := ⟨ascii "/a", by decide⟩
  filesystemRoot := root
  maxRelativePathBytes := 64
  cacheControl := none
  immutableCacheControl := none
  immutable := none
  etag := none
  spaUrlPrefix := some ⟨ascii "/s", by decide⟩
  spaFallbackRelativePath := some ⟨ascii "i", by decide⟩

/-- A path with a dot segment and a percent sign. -/
theorem assets_stay_below_root_decoded :
    ∃ decoded, decodePath true (ascii "/./%78//y") = some decoded ∧
      ascii "/r/x/y" =
        Platform.posix.below (ascii "/r") (keptSegments decoded) := by
  have accepted : (shellMount ⟨ascii "/r", by decide⟩).use
      openSurroundings = some (shellMount ⟨ascii "/r", by decide⟩) :=
    if_pos (by decide +kernel)
  have served : (shellMount ⟨ascii "/r", by decide⟩).middleware
      openSurroundings .get ⟨ascii "/a/./%78//y", by decide⟩ =
        .serveFile (ascii "/r/x/y") none (ascii "no-cache") := by
    decide +kernel
  obtain ⟨input, decodePercent, decoded, origin, decodes, -, -, below, -⟩ :=
    assets_stay_below_root.1 _ _ _ _ _ _ _ _ _ accepted
      (fun _ => by decide) served
  cases origin with
  | asset found => exact ⟨decoded, decodes, below⟩
  | fallback other spa set found => exact absurd found (by cases spa; decide)

/-- Under the prefix of the shell the fallback is served, whatever the path is;
and a root which ends with a backslash is not a directory above the file. -/
theorem assets_leave_path :
    (shellMount ⟨ascii "/r", by decide⟩).use openSurroundings ≠ none ∧
    (shellMount ⟨ascii "/r", by decide⟩).middleware openSurroundings
      .get ⟨ascii "/s/x", by decide⟩ =
        .serveFile (ascii "/r/i") none (ascii "no-cache") ∧
    (decodePath true ((ascii "/s/x").drop 2)).map keptSegments =
      some [ascii "x"] ∧
    (shellMount ⟨ascii "/r\\", by decide⟩).use openSurroundings ≠ none ∧
    (shellMount ⟨ascii "/r\\", by decide⟩).middleware
      openSurroundings .get ⟨ascii "/a/x", by decide⟩ =
        .serveFile (ascii "/r\\x") none (ascii "no-cache") := by
  refine ⟨?_, by decide +kernel, by decide +kernel, ?_, by decide +kernel⟩
  all_goals
    unfold use
    rw [if_pos (by decide +kernel)]
    exact Option.some_ne_none _

end AssetMount

end Chttp.App
