import Chttp.S3.Document

/-!
# What was stored is resumed

The document of a checkpoint is read back as its tree, if its texts have only
characters a document may have and the reader allows as many nodes as the tree
has.  Then every field is found under its name, every part is put in its place,
and the upload is the one which was stored.  Whoever asks for another upload is
turned away.
-/

namespace Chttp.S3

open Lib
open Server (Status)
open Hpack (sizeMax)
open Xml

/-! ## The tree is well shaped -/

theorem shaped_leaf {field : Bytes × Bytes} (named : field.1 ≠ [])
    (plain : ∀ octet ∈ field.1, isNameOctet octet = true) :
    Shaped (leaf field) := by
  rw [leaf]
  split_ifs with empty
  · exact .branch _ _ named plain (List.forall_mem_nil _)
  · exact .leaf _ _ named plain (escapeText_ne_nil empty)
      (notMem_escapeText field.2)

theorem shaped_leaves {fields : List (Bytes × Bytes)}
    (names :
      ((fields.map Prod.fst).all fun name =>
        name != [] && name.all isNameOctet) = true) :
    ∀ child ∈ fields.map leaf, Shaped child := by
  intro child member
  obtain ⟨field, among, rfl⟩ := List.mem_map.mp member
  have fine := List.all_eq_true.mp names field.1
    (List.mem_map.mpr ⟨field, among, rfl⟩)
  rw [Bool.and_eq_true, bne_iff_ne, List.all_eq_true] at fine
  exact shaped_leaf fine.1 fine.2

theorem shaped_partNodes (number : Nat) (parts : List (Option Part)) :
    ∀ child ∈ partNodes number parts, Shaped child := by
  induction parts generalizing number with
  | nil => exact List.forall_mem_nil _
  | cons part parts further =>
    cases part with
    | none => exact further (number + 1)
    | some part =>
      intro child member
      rcases List.mem_cons.mp member with rfl | later
      · refine .branch _ _ (by decide) (by decide +kernel) (shaped_leaves ?_)
        show List.all [ascii "Number", ascii "Size", ascii "ETag"] _ = true
        decide
      · exact further (number + 1) child later

variable (client : Client) (upload : Upload) (sourcePath : Bytes)
  (stat : FileStat) (partSize : Nat)

theorem shaped_checkpointTree :
    Shaped (checkpointTree client upload sourcePath stat partSize) := by
  refine .branch _ _ (by decide) (by decide +kernel) ?_
  intro child member
  rcases List.mem_append.mp member with field | parts
  · refine shaped_leaves ?_ child field
    show identityNames.all _ = true
    decide +kernel
  · rw [List.mem_singleton.mp parts]
    exact .branch _ _ (by decide) (by decide +kernel)
      (shaped_partNodes 1 upload.parts)

/-! ## When its texts are well formed -/

/-- The texts of a checkpoint have only characters which a document may
have. -/
def readable (client : Client) (upload : Upload) (sourcePath : Bytes) : Bool :=
  (checkpointTexts client upload sourcePath).all charsValid &&
    upload.parts.all (Option.all fun part => charsValid part.etag)

theorem valid_leaf (field : Bytes × Bytes) :
    (leaf field).valid = charsValid field.2 := by
  rw [leaf, valid]
  split_ifs with empty
  · rw [empty]
    rfl
  · rw [validAll, validAll, Bool.and_true, valid, textValid_escapeText]

variable (fields : List (Bytes × Bytes))

theorem validAll_leaves : validAll (fields.map leaf) =
    fields.all fun field => charsValid field.2 := by
  induction fields with
  | nil => rfl
  | cons field fields further =>
    rw [List.map_cons, validAll, valid_leaf, further, List.all_cons]

theorem charsValid_decimalOctets (number : Nat) :
    charsValid (decimalOctets number) = true := by
  have plain : ∀ octet ∈ decimalOctets number, 32 ≤ octet ∧ octet ≤ 127 := by
    intro octet member
    have digit := isDigit_decimalOctets number octet member
    simp only [isDigit, Bool.and_eq_true, decide_eq_true_eq] at digit
    exact ⟨UInt8.le_trans (by decide) digit.1,
      UInt8.le_trans digit.2 (by decide)⟩
  rw [charsValid, charRun_ascii (decimalOctets_ne_nil number) plain]
  rfl

theorem validAll_partNodes (number : Nat) (parts : List (Option Part)) :
    validAll (partNodes number parts) =
      parts.all (Option.all fun part => charsValid part.etag) := by
  induction parts generalizing number with
  | nil => rfl
  | cons part parts further =>
    cases part with
    | none => exact further (number + 1)
    | some part =>
      rw [partNodes, validAll, valid, validAll_leaves, further, List.all_cons,
        partFields]
      simp [charsValid_decimalOctets]

theorem valid_checkpointTree :
    (checkpointTree client upload sourcePath stat partSize).valid =
      readable client upload sourcePath := by
  have version : charsValid checkpointVersion = true := by decide
  rw [checkpointTree, valid, validAll_append, validAll_leaves,
    validAll, validAll, Bool.and_true, valid, validAll_partNodes,
    readable, checkpointFields, checkpointTexts]
  simp only [List.all_cons, List.all_nil, charsValid_decimalOctets, version,
    Bool.true_and, Bool.and_true]
  congr 1
  ac_rfl

/-! ## How many nodes it has -/

theorem nodesAll_leaves : nodesAll (fields.map leaf) = fields.length := by
  have one (field : Bytes × Bytes) : (leaf field).nodes = 1 := by
    rw [leaf, nodes]
    split_ifs <;> rfl
  induction fields with
  | nil => rfl
  | cons field fields further =>
    rw [List.map_cons, nodesAll, one, further, List.length_cons, Nat.add_comm]

theorem nodesAll_partNodes (number : Nat) (parts : List (Option Part)) :
    nodesAll (partNodes number parts) = 4 * parts.countP Option.isSome := by
  induction parts generalizing number with
  | nil => rfl
  | cons part parts further =>
    cases part with
    | none =>
      rw [partNodes, further]
      rfl
    | some part =>
      rw [partNodes, nodesAll, nodes, nodesAll_leaves, further,
        List.countP_cons_of_pos rfl]
      show 3 + 1 + _ = _
      omega

/-- The elements of a checkpoint: fourteen fields, the root, the list of the
parts, and four for each part which is there. -/
theorem nodes_checkpointTree :
    (checkpointTree client upload sourcePath stat partSize).nodes =
      16 + 4 * upload.partCount := by
  rw [checkpointTree, nodes, nodesAll_append, nodesAll_leaves,
    nodesAll, nodesAll, nodes, nodesAll_partNodes,
    ← Upload.partCount]
  show 14 + _ + _ = _
  omega

/-! ## Fields are found under their names -/

theorem rawText_leaf (field : Bytes × Bytes) :
    (leaf field).rawText = escapeText field.2 := by
  rw [leaf]
  split_ifs with empty
  · rw [empty]
    rfl
  · simp [rawText, children]

theorem xmlChild_skip {parent : Xml} (rest : List Xml) {name : Bytes}
    (parts : parent.children = fields.map leaf ++ rest)
    (other : name ∉ fields.map Prod.fst) :
    xmlChild parent name =
      rest.find? fun child => child.name? == some name := by
  have missing :
    ((fields.map leaf).find? fun child => child.name? == some name) =
      none := by
    rw [List.find?_eq_none]
    intro child member same
    obtain ⟨field, among, rfl⟩ := List.mem_map.mp member
    have named : (leaf field).name? = some field.1 := rfl
    rw [named, beq_iff_eq] at same
    exact other (List.mem_map.mpr ⟨field, among, Option.some.inj same⟩)
  rw [xmlChild, parts, List.find?_append, missing, Option.none_or]

section Fields

variable {parent : Xml} {fields : List (Bytes × Bytes)} {rest : List Xml}
  (parts : parent.children = fields.map leaf ++ rest)
    (distinct : (fields.map Prod.fst).Nodup)

include parts distinct

theorem childText_field {field : Bytes × Bytes} (among : field ∈ fields) :
    childText parent field.1 = .ok field.2 := by
  obtain ⟨front, back, rfl⟩ := List.append_of_mem among
  rw [List.map_append, List.map_cons] at distinct parts
  have other : field.1 ∉ front.map Prod.fst := fun member =>
    List.disjoint_of_nodup_append distinct member List.mem_cons_self
  have found : xmlChild parent field.1 = some (leaf field) := by
    rw [xmlChild_skip front _ (parts.trans (List.append_assoc ..)) other,
      List.cons_append,
      List.find?_cons_of_pos]
    exact beq_self_eq_true _
  rw [childText, found]
  dsimp only
  rw [rawText_leaf, decodeText_escapeText]

theorem childTexts_fields {among : List (Bytes × Bytes)}
    (subset : among ⊆ fields) :
    childTexts parent (among.map Prod.fst) = .ok (among.map Prod.snd) := by
  induction among with
  | nil => rfl
  | cons field among further =>
    obtain ⟨here, there⟩ := List.cons_subset.mp subset
    rw [List.map_cons, List.map_cons, childTexts,
      childText_field parts distinct here, bind_ok,
      further there, bind_ok]
    rfl

end Fields

/-! ## Numbers -/

theorem parseU64_go_digits (digits : Bytes) (start : Nat)
    (decimal : ∀ octet ∈ digits, isDigit octet = true)
    (fits : digits.foldl (fun value digit => value * 10 + digitValue digit)
      start ≤ 2 ^ 64 - 1) :
    start ≤
        digits.foldl (fun value digit => value * 10 + digitValue digit) start ∧
      parseU64.go start digits = some
          (digits.foldl (fun value digit => value * 10 + digitValue digit)
            start) := by
  induction digits generalizing start with
  | nil => exact ⟨Nat.le_refl _, rfl⟩
  | cons digit digits further =>
    rw [List.foldl_cons] at fits ⊢
    obtain ⟨grows, taken⟩ := further _
      (fun octet member => decimal octet (List.mem_cons_of_mem _ member)) fits
    have fine : isDigit digit = true := decimal digit List.mem_cons_self
    have room : ¬(¬isDigit digit = true ∨
        (2 ^ 64 - 1 - digitValue digit) / 10 < start) := by
      rintro (odd | large)
      · exact odd fine
      · omega
    rw [parseU64.go, if_neg room]
    exact ⟨by omega, taken⟩

theorem parseU64_decimalOctets {number : Nat} (small : number ≤ 2 ^ 64 - 1) :
    parseU64 (decimalOctets number) = some number := by
  have value := decimalValue_decimalOctets number
  rw [decimalValue] at value
  have taken := (parseU64_go_digits (decimalOctets number) 0
    (isDigit_decimalOctets number) (by rw [value]; exact small)).2
  rw [value] at taken
  rw [parseU64, if_neg (decimalOctets_ne_nil number), taken]

/-! ## Parts -/

/-- A part which is written is put in its place. -/
theorem partParse_part {front rest : List (Option Part)} {part : Part}
    (small : front.length + 1 ≤ multipartMaxParts) :
    partParse (front ++ none :: rest)
        (.element (ascii "Part")
          ((partFields (front.length + 1) part).map leaf)) =
      .ok (front ++ some part :: rest) := by
  have bound : multipartMaxParts = 10000 := rfl
  have large : sizeMax = 2 ^ 64 - 1 := rfl
  have size := part.size_le
  have text {field : Bytes × Bytes} := @childText_field
    (.element (ascii "Part") ((partFields (front.length + 1) part).map leaf)) _
      []
    (List.append_nil _).symm
    (by
      show [ascii "Number", ascii "Size", ascii "ETag"].Nodup
      decide) field
  have number := @text (ascii "Number", decimalOctets (front.length + 1))
    (by simp [partFields])
  have size := @text (ascii "Size", decimalOctets part.size)
    (by simp [partFields])
  have etag := @text (ascii "ETag", part.etag) (by simp [partFields])
  have free : (front ++ none :: rest)[front.length + 1 - 1]? = some none := by
    rw [Nat.add_sub_cancel, List.getElem?_append_right (Nat.le_refl _),
      Nat.sub_self]
    rfl
  have fresh :
      ¬(front.length + 1 = 0 ∨ (front ++ none :: rest).length <
        front.length + 1 ∨
        sizeMax < part.size ∨ part.etag = [] ∨
        ((front ++ none :: rest)[front.length + 1 - 1]?).any Option.isSome =
          true) := by
    rw [free]
    rintro (zero | short | huge | empty | taken)
    · exact absurd zero (Nat.succ_ne_zero _)
    · rw [List.length_append, List.length_cons] at short
      omega
    · exact absurd huge (Nat.not_lt_of_le part.size_le)
    · exact part.etag_ne empty
    · exact absurd taken Bool.false_ne_true
  rw [partParse, number, bind_ok, size, bind_ok, etag, bind_ok,
    parseU64_decimalOctets (by omega),
    parseU64_decimalOctets (Nat.le_trans part.size_le (by omega))]
  dsimp only
  rw [placePart, dif_neg fresh, Nat.add_sub_cancel, List.set_append_right _ _
    (Nat.le_refl _), Nat.sub_self]
  rfl

theorem partsParse_partNodes (front parts : List (Option Part))
    (small : front.length + parts.length ≤ multipartMaxParts) :
    partsParse (front ++ List.replicate parts.length none)
    (partNodes (front.length + 1) parts) =
      .ok (front ++ parts) := by
  induction parts generalizing front with
  | nil => rfl
  | cons part parts further =>
    rw [List.length_cons] at small
    have later := further (front ++ [part])
      (by rw [List.length_append, List.length_singleton]; omega)
    rw [List.length_append, List.length_singleton, List.append_assoc,
      List.append_assoc, List.singleton_append, List.singleton_append]
      at later
    rw [List.length_cons, List.replicate_succ]
    cases part with
    | none => exact later
    | some part =>
      rw [partNodes, partsParse, if_neg (fun other => other rfl),
        partParse_part (by omega), bind_ok]
      exact later

/-! ## The upload which is resumed -/

/-- What a checkpoint of this upload is resumed for. -/
def Upload.identity (upload : Upload) (sourcePath : Bytes) (stat : FileStat)
    (partSize : Nat) : Identity :=
  ⟨upload.bucket, upload.key, sourcePath, stat, partSize, upload.customerKeyMd5⟩

/-- The client talks to the same service in the same way. -/
def Client.SameService (client other : Client) : Prop :=
  client.connectionUri = other.connectionUri ∧
    client.authority = other.authority ∧ client.region = other.region ∧
    client.addressingStyle = other.addressingStyle

instance (client other : Client) : Decidable (client.SameService other) :=
  inferInstanceAs (Decidable (_ ∧ _ ∧ _ ∧ _))

theorem AddressingStyle.number_injective : Function.Injective number := by
  intro first second same
  cases first <;> cases second <;> first | rfl | exact absurd same (by decide)

theorem identityCheck_fields (other : Client) (identity : Identity) :
    identityCheck other identity
      ((checkpointFields client upload sourcePath stat partSize).map Prod.snd) =
    if client.SameService other ∧
      upload.identity sourcePath stat partSize = identity then
      .ok upload.uploadId
    else
      .error .einval := by
  -- the fields are compared as texts, and different numbers have different
  -- texts
  have agree :
      (client.connectionUri ≠ other.connectionUri ∨
          client.authority ≠ other.authority ∨ client.region ≠ other.region ∨
          decimalOctets client.addressingStyle.number ≠
            decimalOctets other.addressingStyle.number ∨
          upload.bucket ≠ identity.bucket ∨ upload.key ≠ identity.key ∨
          sourcePath ≠ identity.sourcePath ∨
          decimalOctets stat.size ≠ decimalOctets identity.stat.size ∨
          decimalOctets stat.mtime ≠ decimalOctets identity.stat.mtime ∨
          decimalOctets stat.ctime ≠ decimalOctets identity.stat.ctime ∨
          decimalOctets partSize ≠ decimalOctets identity.partSize ∨
          upload.customerKeyMd5 ≠ identity.customerKeyMd5) ↔
        ¬(client.SameService other ∧
          upload.identity sourcePath stat partSize = identity) := by
    obtain ⟨bucket, key, path, ⟨size, mtime, ctime⟩, part, md5⟩ := identity
    obtain ⟨size', mtime', ctime'⟩ := stat
    simp only [Client.SameService, Upload.identity, Identity.mk.injEq,
      FileStat.mk.injEq, ne_eq, decimalOctets_injective.eq_iff,
      AddressingStyle.number_injective.eq_iff]
    tauto
  rw [checkpointFields]
  simp only [List.map_cons, List.map_nil, identityCheck]
  rw [if_neg (fun differs => differs rfl)]
  by_cases same : client.SameService other ∧
    upload.identity sourcePath stat partSize = identity
  · rw [if_pos same, if_neg (fun differ => agree.mp differ same),
      if_neg upload.uploadId_ne]
  · rw [if_neg same, if_pos (agree.mpr same)]

theorem checkpointIdentity_tree (other : Client) (identity : Identity) :
    checkpointIdentity other identity
      (checkpointTree client upload sourcePath stat partSize) =
      if client.SameService other ∧
        upload.identity sourcePath stat partSize = identity then
        .ok upload.uploadId
      else
        .error .einval := by
  have texts : childTexts
    (checkpointTree client upload sourcePath stat partSize) identityNames =
      .ok ((checkpointFields client upload sourcePath stat partSize).map
        Prod.snd) :=
    @childTexts_fields _
      (checkpointFields client upload sourcePath stat partSize) _ rfl
      (by
        show identityNames.Nodup
        decide +kernel)
      _ (List.Subset.refl _)
  rw [checkpointIdentity, texts, bind_ok, identityCheck_fields]

theorem loadParts_tree (sized : upload.parts.length =
    client.maxMultipartParts) : loadParts client
      (checkpointTree client upload sourcePath stat partSize) =
    .ok upload.parts := by
  have found : xmlChild (checkpointTree client upload sourcePath stat partSize)
    (ascii "Parts") =
      some (.element (ascii "Parts") (partNodes 1 upload.parts)) := by
    rw [xmlChild_skip (checkpointFields client upload sourcePath stat partSize)
      [.element (ascii "Parts") (partNodes 1 upload.parts)] rfl]
    · rfl
    · show ascii "Parts" ∉ identityNames
      decide +kernel
  have placed := partsParse_partNodes [] upload.parts
    (by
      rw [List.length_nil, Nat.zero_add, sized]
      exact client.maxMultipartParts_le)
  rw [loadParts, found]
  dsimp only
  rw [← sized]
  exact placed

section Reader

variable {reader : XmlReader}

/--
A document which was written is read exactly if its texts and the limits allow
it.
-/
theorem parseRoot_tree_iff {other : Client} {root : Xml} :
    parseRoot other reader
        (checkpointTree client upload sourcePath stat partSize).render
        checkpointRoot = .ok root ↔
      checkpointTree client upload sourcePath stat partSize = root ∧
        root.render.length ≤ other.maxXmlBytes ∧
        readable client upload sourcePath = true ∧
        16 + 4 * upload.partCount ≤ other.maxXmlNodes := by
  have named : (checkpointTree client upload sourcePath stat partSize).name? =
      some checkpointRoot := rfl
  have filled :
      (checkpointTree client upload sourcePath stat partSize).render ≠ [] := by
    rw [checkpointTree, render]
    exact List.cons_ne_nil _ _
  have shaped :=
    shaped_checkpointTree client upload sourcePath stat partSize
  rw [parseRoot, ← nodes_checkpointTree client upload sourcePath stat partSize,
    ← valid_checkpointTree client upload sourcePath stat partSize]
  generalize checkpointTree client upload sourcePath stat partSize = tree at *
  have positive := List.length_pos_iff.mpr filled
  have deep := tree.depth_le_nodes
  have allowed := other.maxXmlNodes_pos
  constructor
  · intro parsed
    split_ifs at parsed with none large
    cases fine : tree.valid with
    | false =>
      obtain ⟨error, refused⟩ := @reader.refuses other.xmlLimits _ shaped fine
      rw [refused] at parsed
      cases parsed
    | true =>
      by_cases few : tree.nodes ≤ other.maxXmlNodes
      · rw [reader.accepts shaped fine (Nat.le_of_not_lt large)
          (Nat.le_of_not_lt large) few (deep.trans few)] at parsed
        dsimp only at parsed
        rw [if_neg (not_not_intro named)] at parsed
        cases parsed
        exact ⟨rfl, Nat.le_of_not_lt large, rfl, few⟩
      · rw [@reader.limited other.xmlLimits _ shaped fine
          (Nat.lt_of_not_le few)] at parsed
        cases parsed
  · rintro ⟨rfl, short, fine, few⟩
    rw [if_neg (by simp only [filled, false_or]; omega), if_neg (by omega),
      reader.accepts shaped fine short short few (deep.trans few)]
    exact if_neg (not_not_intro named)

theorem checkpointLoad_tree_eq_ok {other : Client} {identity : Identity}
    {loaded : Upload}
    (load : checkpointLoad other reader identity
        (checkpointTree client upload sourcePath stat partSize).render =
      .ok loaded) :
    readable client upload sourcePath = true ∧
      16 + 4 * upload.partCount ≤ other.maxXmlNodes ∧
      client.SameService other ∧
      upload.identity sourcePath stat partSize = identity := by
  obtain ⟨root, parsed, rest⟩ := bind_eq_ok.mp load
  obtain ⟨rfl, -, fine, few⟩ :=
    (parseRoot_tree_iff client upload sourcePath stat partSize).mp parsed
  obtain ⟨uploadId, checked, -⟩ := bind_eq_ok.mp rest
  rw [checkpointIdentity_tree] at checked
  split_ifs at checked with same
  exact ⟨fine, few, same.1, same.2⟩

theorem checkpointLoad_tree
    (sized : upload.parts.length = client.maxMultipartParts)
    (short :
      (checkpointTree client upload sourcePath stat partSize).render.length ≤
      client.maxXmlBytes) (fine : readable client upload sourcePath = true)
    (few : 16 + 4 * upload.partCount ≤ client.maxXmlNodes) :
    checkpointLoad client reader (upload.identity sourcePath stat partSize)
        (checkpointTree client upload sourcePath stat partSize).render =
      .ok upload := by
  rw [checkpointLoad, (parseRoot_tree_iff ..).mpr ⟨rfl, short, fine, few⟩,
    bind_ok, checkpointIdentity_tree, if_pos ⟨⟨rfl, rfl, rfl, rfl⟩, rfl⟩,
    bind_ok, loadParts_tree client upload sourcePath stat partSize sized,
    bind_ok, resumed, dif_neg upload.uploadId_ne]
  rfl

end Reader

theorem checkpointStore_eq_ok {client : Client} {upload : Upload}
    {sourcePath : Bytes}
    {stat : FileStat} {partSize : Nat} {written : Bool} {file : Bytes}
    (stored : checkpointStore client upload sourcePath stat partSize written =
      .ok file) :
    file = (checkpointTree client upload sourcePath stat partSize).render ∧
      file.length ≤ client.maxXmlBytes := by
  rw [checkpointStore] at stored
  cases xml : checkpointXml client upload sourcePath stat partSize with
  | error status =>
    rw [xml] at stored
    cases stored
  | ok text =>
    rw [xml] at stored
    dsimp only at stored
    split_ifs at stored
    cases stored
    exact checkpointXml_eq_ok xml

/--
A checkpoint which was stored is resumed as the upload it was stored for,
whatever the reader of documents, exactly if its texts have only characters a
document may have and its elements are within the limit of the reader; and it is
resumed for no other upload, by no client of another service.
-/
theorem checkpoint_resumes (reader : XmlReader) {client : Client}
    {upload : Upload} {sourcePath : Bytes} {stat : FileStat} {partSize : Nat}
    {written : Bool} {file : Bytes}
    (sized : upload.parts.length = client.maxMultipartParts)
    (stored : checkpointStore client upload sourcePath stat partSize written =
      .ok file) :
    (checkpointLoad client reader (upload.identity sourcePath stat partSize)
      file =
        .ok upload ↔
      readable client upload sourcePath = true ∧
        16 + 4 * upload.partCount ≤ client.maxXmlNodes) ∧
      ∀ (other : Client) (identity : Identity),
        ¬(client.SameService other ∧
          upload.identity sourcePath stat partSize = identity) →
        ∃ status, checkpointLoad other reader identity file =
          .error status := by
  obtain ⟨rfl, short⟩ := checkpointStore_eq_ok stored
  refine ⟨⟨fun load => ?_, fun ⟨fine, few⟩ => ?_⟩,
    fun other identity differ => ?_⟩
  · obtain ⟨fine, few, -⟩ :=
      checkpointLoad_tree_eq_ok client upload sourcePath stat partSize load
    exact ⟨fine, few⟩
  · exact checkpointLoad_tree client upload sourcePath stat partSize sized short
      fine few
  cases load : checkpointLoad other reader identity
      (checkpointTree client upload sourcePath stat partSize).render with
  | error status => exact ⟨status, rfl⟩
  | ok loaded =>
    obtain ⟨-, -, same⟩ :=
      checkpointLoad_tree_eq_ok client upload sourcePath stat partSize load
    exact absurd same differ

/-- An upload of two parts, the second of which is there. -/
def halfUpload : Upload where
  bucket := ascii "docs"
  key := ascii "a&b"
  uploadId := ascii "u1"
  parts := [none, some ⟨ascii "\"e2\"", 5, by decide, by decide⟩]
  customerKeyMd5 := []
  uploadId_ne := by decide

/-- A client which reads so many elements of a document. -/
def smallClient (nodes : Nat) (positive : 0 < nodes) : Client where
  connectionUri := ascii "tcp://s3:80"
  authority := ascii "s3"
  region := ascii "r1"
  addressingStyle := .path
  maxXmlBytes := 4096
  maxXmlNodes := nodes
  maxMultipartParts := 2
  maxXmlBytes_le := by decide
  maxXmlNodes_pos := positive
  maxMultipartParts_le := by decide

/-- What is stored does not depend on how many elements a client reads. -/
theorem checkpointStore_nodes (client : Client) (upload : Upload)
    (sourcePath : Bytes) (stat : FileStat) (partSize : Nat) (written : Bool)
    {nodes : Nat} (positive : 0 < nodes) :
    checkpointStore
        { client with maxXmlNodes := nodes, maxXmlNodes_pos := positive }
        upload sourcePath stat partSize written =
      checkpointStore client upload sourcePath stat partSize written :=
  rfl

theorem checkpointStore_half :
    checkpointStore (smallClient 10 (by decide)) halfUpload (ascii "/f")
        ⟨10, 7, 7⟩ 5 true =
      .ok (checkpointTree (smallClient 10 (by decide)) halfUpload
        (ascii "/f") ⟨10, 7, 7⟩ 5).render := by
  decide +kernel

theorem checkpoint_resumes_half : ∃ file,
    checkpointStore (smallClient 20 (by decide)) halfUpload (ascii "/f")
        ⟨10, 7, 7⟩ 5 true = .ok file ∧
      checkpointLoad (smallClient 20 (by decide)) XmlReader.plain
        (halfUpload.identity (ascii "/f") ⟨10, 7, 7⟩ 5) file =
          .ok halfUpload := by
  have stored :=
    (checkpointStore_nodes (smallClient 10 (by decide)) halfUpload (ascii "/f")
      ⟨10, 7, 7⟩ 5 true (by decide : 0 < 20)).trans checkpointStore_half
  exact ⟨_, stored, (checkpoint_resumes XmlReader.plain rfl stored).1.mpr
    ⟨by decide +kernel, by decide⟩⟩

/-- A client which reads ten elements stores a checkpoint of twenty and refuses
to read it, whatever the reader. -/
theorem checkpoint_too_many_nodes : ∃ file,
    checkpointStore (smallClient 10 (by decide)) halfUpload (ascii "/f")
        ⟨10, 7, 7⟩ 5 true = .ok file ∧
      ∀ reader : XmlReader,
        checkpointLoad (smallClient 10 (by decide)) reader
          (halfUpload.identity (ascii "/f") ⟨10, 7, 7⟩ 5) file =
            .error .emsgsize := by
  refine ⟨_, checkpointStore_half, fun reader => ?_⟩
  have refused : parseRoot (smallClient 10 (by decide)) reader
        (checkpointTree (smallClient 10 (by decide)) halfUpload
          (ascii "/f") ⟨10, 7, 7⟩ 5).render checkpointRoot =
      .error .emsgsize := by
    rw [parseRoot, if_neg (by decide +kernel), if_neg (by decide +kernel),
      reader.limited (shaped_checkpointTree ..)
        (valid_checkpointTree .. |>.trans (by decide +kernel))]
    · rfl
    · rw [nodes_checkpointTree]
      decide
  rw [checkpointLoad, refused]
  rfl

end Chttp.S3
