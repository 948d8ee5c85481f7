import Chttp.Lib.Decimal
import Chttp.Lib.Segments
import Chttp.Lib.Utf8

/-!
# XML documents

Documents of elements and texts, without attributes, comments and
declarations.  Texts keep their references as they are written.

`XmlReader` is what a program may expect of a library which reads documents
under limits: a well-formed document within the limits is read as the tree it
was written from, with one node for each element, and other documents are
refused.  That such readers exist is shown by `XmlReader.plain`.
-/

namespace Chttp.Lib

/-- A part of a document: a text as it is written, or an element. -/
inductive Xml where
  | text (raw : Bytes)
  | element (name : Bytes) (children : List Xml)

namespace Xml

/-! ## Characters -/

/-- What the octets of a text read so far ask for: the rest of a character,
and whether they end with the beginning of `FFFE` or `FFFF`. -/
structure CharState where
  utf8 : Utf8State
  trail : Nat
  deriving DecidableEq, Repr

/-- Read an octet of a character which a document may have. -/
def charStep (state : CharState) (octet : UInt8) : Option CharState :=
  if octet < 32 ∧ octet ≠ 9 ∧ octet ≠ 10 ∧ octet ≠ 13 then
    none
  else if state.trail = 2 ∧ (octet = 0xBE ∨ octet = 0xBF) then
    none
  else
    (state.utf8.step octet).map fun utf8 =>
      ⟨utf8, if octet = 0xEF then 1
        else if octet = 0xBF ∧ state.trail = 1 then 2 else 0⟩

/-- Read octets. -/
def charRun : CharState → Bytes → Option CharState
  | state, [] => some state
  | state, octet :: octets =>
    (charStep state octet).bind fun state => charRun state octets

/-- The octets are characters which a document may have, in UTF-8. -/
def charsValid (text : Bytes) : Bool :=
  (charRun ⟨.start, 0⟩ text).any fun state => state.utf8 == .start

/-- The number of a character which a document may have. -/
def codeValid (code : Nat) : Bool := code == 9 || code == 10 || code == 13 ||
    (decide (32 ≤ code) && decide (code ≤ 0xD7FF)) ||
    (decide (0xE000 ≤ code) && decide (code ≤ 0xFFFD)) ||
    (decide (0x10000 ≤ code) && decide (code ≤ 0x10FFFF))

/-! ## References -/

/-- The value of a digit in a base. -/
def digitIn (base : Nat) (octet : UInt8) : Option Nat :=
  if isDigit octet then some (digitValue octet)
  else if base = 16 ∧ 97 ≤ octet ∧ octet ≤ 102 then some (octet.toNat - 87)
  else if base = 16 ∧ 65 ≤ octet ∧ octet ≤ 70 then some (octet.toNat - 55)
  else none

/-- The value of digits in a base. -/
def numberIn (base : Nat) : Nat → Bytes → Option Nat
  | value, [] => some value
  | value, octet :: octets =>
    match digitIn base octet with
    | none => none
    | some digit => numberIn base (value * base + digit) octets

/-- What stands between `&` and `;` is the name of a character. -/
def referenceValid (name : Bytes) : Bool :=
  if name.head? = some 35 then
    if (name.drop 1).head? = some 120 then
      name.drop 2 != [] && (numberIn 16 0 (name.drop 2)).any codeValid
    else
      name.drop 1 != [] && (numberIn 10 0 (name.drop 1)).any codeValid
  else
    name == ascii "lt" || name == ascii "gt" || name == ascii "amp" ||
      name == ascii "quot" || name == ascii "apos"

/-- The references of a text are the names of characters; inside of a
reference, its octets are kept. -/
def referencesValid : Option Bytes → Bytes → Bool
  | none, [] => true
  | some _, [] => false
  | none, octet :: rest =>
    referencesValid (if octet = 38 then some [] else none) rest
  | some name, octet :: rest =>
    if octet = 59 then
      referenceValid name && referencesValid none rest
    else
      referencesValid (some (name ++ [octet])) rest

/-- A text as it is written is well formed. -/
def textValid (raw : Bytes) : Bool := charsValid raw && referencesValid none raw

/-! ## Trees -/

mutual

/-- The texts of a tree are well formed. -/
def valid : Xml → Bool
  | .text raw => textValid raw
  | .element _ children => validAll children

/-- The texts of trees are well formed. -/
def validAll : List Xml → Bool
  | [] => true
  | child :: children => valid child && validAll children

end

mutual

/-- How many elements a tree has. -/
def nodes : Xml → Nat
  | .text _ => 0
  | .element _ children => nodesAll children + 1

/-- How many elements trees have. -/
def nodesAll : List Xml → Nat
  | [] => 0
  | child :: children => nodes child + nodesAll children

end

mutual

/-- How deep elements are nested. -/
def depth : Xml → Nat
  | .text _ => 0
  | .element _ children => depthAll children + 1

/-- How deep elements are nested. -/
def depthAll : List Xml → Nat
  | [] => 0
  | child :: children => max (depth child) (depthAll children)

end

mutual

/-- A tree as it is written. -/
def render : Xml → Bytes
  | .text raw => raw
  | .element name children =>
    60 :: name ++ 62 :: renderAll children ++ 60 :: 47 :: name ++ [62]

/-- Trees as they are written. -/
def renderAll : List Xml → Bytes
  | [] => []
  | child :: children => render child ++ renderAll children

end

mutual

theorem depth_le_nodes : ∀ node : Xml, node.depth ≤ node.nodes
  | .text _ => Nat.le_refl 0
  | .element _ children => by
      rw [depth, nodes]
      exact Nat.succ_le_succ (depthAll_le_nodesAll children)

theorem depthAll_le_nodesAll : ∀ children :
    List Xml, depthAll children ≤ nodesAll children
  | [] => Nat.le_refl 0
  | child :: children => by
      have here := depth_le_nodes child
      have there := depthAll_le_nodesAll children
      rw [depthAll, nodesAll]
      omega

end

variable (front back : List Xml)

theorem nodesAll_append :
    nodesAll (front ++ back) = nodesAll front + nodesAll back := by
  induction front with
  | nil => rw [List.nil_append, nodesAll, Nat.zero_add]
  | cons child front further =>
    rw [List.cons_append, nodesAll, nodesAll, further, Nat.add_assoc]

theorem validAll_append :
    validAll (front ++ back) = (validAll front && validAll back) := by
  induction front with
  | nil => rfl
  | cons child front further =>
    rw [List.cons_append, validAll, validAll, further, Bool.and_assoc]

theorem renderAll_append :
    renderAll (front ++ back) = renderAll front ++ renderAll back := by
  induction front with
  | nil => rfl
  | cons child front further =>
    rw [List.cons_append, renderAll, renderAll, further, List.append_assoc]

/-! ## Reading -/

/-- An octet of a name. -/
def isNameOctet (octet : UInt8) : Bool :=
  isDigit octet || (decide (97 ≤ octet) && decide (octet ≤ 122)) ||
    (decide (65 ≤ octet) && decide (octet ≤ 90))

/-- The rest of a start tag, behind its first octet. -/
def openTag (input : Bytes) : Option (Bytes × Bytes) :=
  let name := input.takeWhile isNameOctet
  let rest := input.dropWhile isNameOctet
  if name ≠ [] ∧ rest.head? = some 62 then some (name, rest.drop 1) else none

/-- The end tag of a name. -/
def closeTag (name input : Bytes) : Option Bytes :=
  let tag := 60 :: 47 :: name ++ [62]
  if tag.isPrefixOf input then some (input.drop tag.length) else none

/-- The rest of an element, behind its first octet. -/
def readElement (content : Bytes → Option (List Xml × Bytes))
    (input : Bytes) : Option (Xml × Bytes) :=
  match openTag input with
  | none => none
  | some (name, rest) =>
    match content rest with
    | none => none
    | some (children, rest) =>
      (closeTag name rest).map fun rest => (.element name children, rest)

/-- The content of an element, up to its end tag. -/
def readContent : Nat → Bytes → Option (List Xml × Bytes)
  | 0, _ => none
  | fuel + 1, input =>
    if input.head? = some 60 then
      if (input.drop 1).head? = some 47 then
        some ([], input)
      else
        match readElement (readContent fuel) (input.drop 1) with
        | none => none
        | some (child, rest) =>
          (readContent fuel rest).map fun (children, rest) =>
            (child :: children, rest)
    else
      let raw := input.takeWhile fun octet => octet != 60
      if raw ≠ [] ∧ textValid raw then
        (readContent fuel (input.dropWhile fun octet => octet != 60)).map
          fun (children, rest) => (.text raw :: children, rest)
      else
        none

/-- Read a document. -/
def parse (input : Bytes) : Option Xml :=
  if input.head? = some 60 then
    match readElement (readContent input.length) (input.drop 1) with
    | some (root, []) => some root
    | _ => none
  else
    none

/-! ## Looking into a tree -/

/-- The name of an element. -/
def name? : Xml → Option Bytes
  | .text _ => none
  | .element name _ => some name

/-- The parts of an element. -/
def children : Xml → List Xml
  | .text _ => []
  | .element _ children => children

/-- The text of an element, as it is written. -/
def rawText (node : Xml) : Bytes := node.children.flatMap fun child =>
    match child with
    | .text raw => raw
    | .element _ _ => []

/-! ## What was written is read -/

/-- The element has one text, or elements only. -/
inductive Shaped : Xml → Prop where
  | leaf (name raw : Bytes) (named : name ≠ [])
      (plain : ∀ octet ∈ name, isNameOctet octet = true) (filled : raw ≠ [])
      (flat : 60 ∉ raw ∧ 62 ∉ raw) : Shaped (.element name [.text raw])
  | branch (name : Bytes) (children : List Xml) (named : name ≠ [])
      (plain : ∀ octet ∈ name, isNameOctet octet = true)
      (shaped : ∀ child ∈ children, Shaped child) :
      Shaped (.element name children)

theorem openTag_append {name rest : Bytes} (named : name ≠ [])
    (plain : ∀ octet ∈ name, isNameOctet octet = true) :
    openTag (name ++ 62 :: rest) = some (name, rest) := by
  have stop : ∀ octet, (62 :: rest).head? = some octet →
      isNameOctet octet = false := by
    rintro _ ⟨⟩
    rfl
  obtain ⟨front, back⟩ := span_append plain stop
  rw [openTag, front, back]
  exact if_pos ⟨named, rfl⟩

theorem closeTag_append (name rest : Bytes) :
    closeTag name (60 :: 47 :: name ++ 62 :: rest) = some rest := by
  have split : 60 :: 47 :: name ++ 62 :: rest =
      (60 :: 47 :: name ++ [62]) ++ rest := by
    simp
  rw [closeTag, split, if_pos (List.isPrefixOf_iff_prefix.mpr
    (List.prefix_append _ _)), List.drop_left]

theorem readElement_append {content : Bytes → Option (List Xml × Bytes)}
    {name rest : Bytes} {children : List Xml} {fine : Bool}
    (named : name ≠ []) (plain : ∀ octet ∈ name, isNameOctet octet = true)
    (read : content (renderAll children ++ (60 :: 47 :: name ++ 62 :: rest)) =
      if fine then
        some (children, 60 :: 47 :: name ++ 62 :: rest)
      else
        none) :
    readElement content ((render (.element name children)).drop 1 ++ rest) =
      if fine then some (.element name children, rest) else none := by
  have text : (render (.element name children)).drop 1 ++ rest =
      name ++ 62 ::
        (renderAll children ++ (60 :: 47 :: name ++ 62 :: rest)) := by
    simp [render]
  rw [text, readElement, openTag_append named plain]
  dsimp only
  rw [read]
  cases fine with
  | false => rfl
  | true =>
    rw [if_pos rfl, if_pos rfl]
    dsimp only
    rw [closeTag_append]
    rfl

theorem readContent_text {raw rest : Bytes} (filled : raw ≠ [])
    (flat : 60 ∉ raw) (fuel : Nat) :
    readContent (fuel + 2) (raw ++ 60 :: 47 :: rest) =
      if textValid raw then some ([.text raw], 60 :: 47 :: rest) else none := by
  have other : ∀ octet ∈ raw, (octet != 60) = true := by
    intro octet member
    rw [bne_iff_ne]
    rintro rfl
    exact flat member
  have stop : ∀ octet, (60 :: 47 :: rest).head? = some octet →
      (octet != 60) = false := by
    rintro _ ⟨⟩
    rfl
  obtain ⟨front, back⟩ := span_append other stop
  have first : (raw ++ 60 :: 47 :: rest).head? ≠ some 60 := by
    cases raw with
    | nil => exact absurd rfl filled
    | cons octet raw =>
      intro same
      cases same
      exact flat List.mem_cons_self
  rw [readContent, if_neg first, front, back]
  by_cases fine : textValid raw = true
  · rw [if_pos fine, if_pos ⟨filled, fine⟩]
    rfl
  · rw [if_neg fine, if_neg (fun both => fine both.2)]

/-- The text of an element begins as an opening tag does. -/
theorem Shaped.opened {element : Xml} (shaped : Shaped element) :
    ∃ octet tail, render element = 60 :: octet :: tail ∧ octet ≠ 47 := by
  obtain ⟨name, children, rfl, named, plain⟩ : ∃ name children,
    element = .element name children ∧
      name ≠ [] ∧ ∀ octet ∈ name, isNameOctet octet = true := by
    cases shaped with
    | leaf name raw named plain | branch name children named plain =>
      exact ⟨_, _, rfl, named, plain⟩
  cases name with
  | nil => exact absurd rfl named
  | cons octet name =>
    refine ⟨octet, _, rfl, ?_⟩
    rintro rfl
    exact absurd (plain 47 List.mem_cons_self) (by decide)

/-- The content of an element which has elements. -/
theorem readContent_elements {children : List Xml} (rest : Bytes)
    (shaped : ∀ child ∈ children, Shaped child)
    (each : ∀ child ∈ children, ∀ fuel rest, (render child).length ≤ fuel →
      readElement (readContent fuel) ((render child).drop 1 ++ rest) =
        if child.valid then some (child, rest) else none)
    (fuel : Nat) (enough : (renderAll children).length < fuel) :
    readContent fuel (renderAll children ++ 60 :: 47 :: rest) =
      if validAll children then some (children, 60 :: 47 :: rest)
      else none := by
  induction children generalizing fuel with
  | nil =>
    cases fuel with
    | zero => exact absurd enough (Nat.not_lt_zero _)
    | succ fuel => rfl
  | cons child children further =>
    cases fuel with
    | zero => exact absurd enough (Nat.not_lt_zero _)
    | succ fuel =>
      have here := each child List.mem_cons_self
      have more :=
        further
        (fun other member => shaped other (List.mem_cons_of_mem _ member))
        (fun other member => each other (List.mem_cons_of_mem _ member))
      obtain ⟨octet, tail, opened, notEnd⟩ :=
        (shaped child List.mem_cons_self).opened
      have split : renderAll (child :: children) ++ 60 :: 47 :: rest =
          60 :: ((render child).drop 1 ++
            (renderAll children ++ 60 :: 47 :: rest)) := by
        simp [renderAll, opened]
      have next :
        ((render child).drop 1 ++
          (renderAll children ++ 60 :: 47 :: rest)).head? ≠
          some 47 := by
        simpa [opened] using notEnd
      have positive : 0 < (render child).length := by
        simp [opened]
      rw [renderAll, List.length_append] at enough
      rw [split, readContent, if_pos List.head?_cons, List.drop_succ_cons,
        List.drop_zero,
        if_neg next, here fuel _ (by omega)]
      by_cases fine : child.valid = true
      · rw [if_pos fine]
        dsimp only
        rw [more fuel (by omega), validAll, fine, Bool.true_and]
        split_ifs <;> rfl
      · have wrong : validAll (child :: children) = false := by
          rw [validAll, Bool.eq_false_iff.mpr fine, Bool.false_and]
        rw [if_neg fine, wrong]
        rfl

/-- A tree which was written is read, unless a text is not well formed. -/
theorem readElement_render {element : Xml} (shaped : Shaped element) :
    ∀ fuel rest, (render element).length ≤ fuel →
      readElement (readContent fuel) ((render element).drop 1 ++ rest) =
        if element.valid then some (element, rest) else none := by
  induction shaped with
  | leaf name raw named plain filled flat =>
    intro fuel rest enough
    refine readElement_append named plain ?_
    have two : 2 ≤ fuel := by
      simp only [render, List.length_append, List.length_cons] at enough
      omega
    obtain ⟨less, rfl⟩ := Nat.exists_eq_add_of_le' two
    have text : renderAll [.text raw] = raw := by
      simp [renderAll, render]
    have fine : valid (.element name [.text raw]) = textValid raw := by
      simp [valid, validAll]
    rw [text, fine]
    exact readContent_text filled flat.1 less
  | branch name children named plain shaped each =>
    intro fuel rest enough
    refine readElement_append named plain ?_
    rw [valid]
    refine readContent_elements _ shaped each _ ?_
    simp only [render, List.length_append, List.length_cons] at enough
    omega

theorem parse_render {element : Xml} (shaped : Shaped element) :
    parse (render element) = if element.valid then some element else none := by
  have start : (render element).head? = some 60 := by
    cases shaped <;> rfl
  have read := readElement_render shaped (render element).length []
    (Nat.le_refl _)
  rw [List.append_nil] at read
  rw [parse, if_pos start, read]
  split_ifs <;> rfl

end Xml

/-! ## Readers -/

/-- The limits which a reader is given. -/
structure XmlLimits where
  maxInputBytes : Nat
  maxNodes : Nat
  maxAttributes : Nat
  maxDepth : Nat
  maxRetainedStringBytes : Nat

/-- Why a reader refuses a document. -/
inductive XmlError where
  | allocationFailed
  | limitExceeded
  | invalidArgument
  | malformed
  deriving DecidableEq, Repr

/-- A library which reads documents. -/
structure XmlReader where
  parse : XmlLimits → Bytes → Except XmlError Xml
  /-- A well-formed document within the limits is read, with its texts as they
  are written. -/
  accepts : ∀ {limits : XmlLimits} {root : Xml}, root.Shaped →
    root.valid = true →
    root.render.length ≤ limits.maxInputBytes →
    root.render.length ≤ limits.maxRetainedStringBytes →
    root.nodes ≤ limits.maxNodes → root.depth ≤ limits.maxDepth →
      parse limits root.render = .ok root
  /-- A document with more elements than nodes are allowed is refused. -/
  limited : ∀ {limits : XmlLimits} {root : Xml}, root.Shaped →
    root.valid = true →
    limits.maxNodes < root.nodes →
      parse limits root.render = .error .limitExceeded
  /-- A document with a text which is not well formed is refused. -/
  refuses : ∀ {limits : XmlLimits} {root : Xml}, root.Shaped →
    root.valid = false →
    ∃ error, parse limits root.render = .error error

/-- The reader above, under limits. -/
def XmlReader.plain : XmlReader where
  parse limits input :=
    match Xml.parse input with
    | none => .error .malformed
    | some root =>
      if limits.maxInputBytes < input.length ∨ limits.maxNodes < root.nodes ∨
          limits.maxDepth < root.depth then
        .error .limitExceeded
      else
        .ok root
  accepts := by
    intro limits root shaped valid short _ few shallow
    rw [Xml.parse_render shaped, if_pos valid]
    exact if_neg (by omega)
  limited := by
    intro limits root shaped valid many
    rw [Xml.parse_render shaped, if_pos valid]
    exact if_pos (.inr (.inl many))
  refuses := by
    intro limits root shaped invalid
    rw [Xml.parse_render shaped, invalid]
    exact ⟨_, rfl⟩

end Chttp.Lib
