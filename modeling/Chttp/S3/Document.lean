import Chttp.Lib.Outcome
import Chttp.S3.Checkpoint

/-!
# The document of a checkpoint

What the writer of a checkpoint puts into its builder is the text of a tree,
and the reader gets from that tree what the writer has put in: the texts come
back through their escapes, the numbers through their digits, and the parts in
their places.
-/

namespace Chttp.S3

open Lib
open Server (Status)
open Hpack (sizeMax)
open Xml

/-! ## Escapes -/

variable (text : Bytes)

/-- A text with its escapes. -/
def escapeText : Bytes := text.flatMap xmlEscape

theorem escapeText_cons (octet : UInt8) (text : Bytes) :
    escapeText (octet :: text) = xmlEscape octet ++ escapeText text :=
  List.flatMap_cons

theorem decodeText_escapeText :
    decodeText none (escapeText text) = some text := by
  induction text with
  | nil => rfl
  | cons octet text further =>
    rw [escapeText_cons]
    unfold xmlEscape
    split_ifs with amp
    case neg =>
      show decodeText none (octet :: escapeText text) = _
      rw [decodeText, if_neg amp, further]
      rfl
    all_goals
      subst_vars
      show (decodeText none (escapeText text)).map _ = _
      rw [further]
      rfl

theorem referencesValid_escapeText :
    referencesValid none (escapeText text) = true := by
  induction text with
  | nil => rfl
  | cons octet text further =>
    rw [escapeText_cons]
    unfold xmlEscape
    split_ifs with amp less greater quot apos
    iterate 5 exact further
    show referencesValid none (octet :: escapeText text) = _
    rw [referencesValid, if_neg amp]
    exact further

/-- A printable ASCII octet is a character between characters only. -/
theorem charStep_ascii {octet : UInt8} (low : 32 ≤ octet) (high : octet ≤ 127)
    (state : CharState) :
    charStep state octet =
      if state.utf8 = .start then some ⟨.start, 0⟩ else none := by
  have lowNat : 32 ≤ octet.toNat := UInt8.le_iff_toNat_le.mp low
  have highNat : octet.toNat ≤ 127 := UInt8.le_iff_toNat_le.mp high
  have notControl : ¬(octet < 32 ∧ octet ≠ 9 ∧ octet ≠ 10 ∧ octet ≠ 13) := by
    rintro ⟨less, -⟩
    have lessNat : octet.toNat < 32 := UInt8.lt_iff_toNat_lt.mp less
    omega
  have different (other : UInt8) (large : 127 < other.toNat) : octet ≠
      other := by
    rintro rfl
    omega
  have notLast : ¬(state.trail = 2 ∧ (octet = 0xBE ∨ octet = 0xBF)) := by
    rintro ⟨-, same | same⟩
    · exact different 0xBE (by decide) same
    · exact different 0xBF (by decide) same
  obtain ⟨utf8, trail⟩ := state
  rw [charStep, if_neg notControl, if_neg notLast]
  rw [if_neg (different 0xEF (by decide)),
    if_neg (fun both => different 0xBF (by decide) both.1)]
  have behind (first last : UInt8) (next : Utf8State)
      (large : 127 < first.toNat) :
      Utf8State.within first last octet next = none := by
    refine if_neg ?_
    rintro ⟨above, -⟩
    have aboveNat : first.toNat ≤ octet.toNat := UInt8.le_iff_toNat_le.mp above
    omega
  cases utf8 with
  | start =>
    show (Utf8State.first octet).map _ = _
    rw [Utf8State.first, if_pos high]
    rfl
  | afterE0 => exact congrArg (Option.map _) (behind 0xA0 0xBF _ (by decide))
  | afterED => exact congrArg (Option.map _) (behind 0x80 0x9F _ (by decide))
  | afterF0 => exact congrArg (Option.map _) (behind 0x90 0xBF _ (by decide))
  | afterF4 => exact congrArg (Option.map _) (behind 0x80 0x8F _ (by decide))
  | _ => exact congrArg (Option.map _) (behind 0x80 0xBF _ (by decide))

theorem charRun_ascii {octets : Bytes} (filled : octets ≠ [])
    (plain : ∀ octet ∈ octets, 32 ≤ octet ∧ octet ≤ 127) (state : CharState) :
    charRun state octets =
      if state.utf8 = .start then some ⟨.start, 0⟩ else none := by
  induction octets generalizing state with
  | nil => exact absurd rfl filled
  | cons octet octets further =>
    obtain ⟨low, high⟩ := plain octet List.mem_cons_self
    rw [charRun, charStep_ascii low high]
    by_cases ready : state.utf8 = .start
    · rw [if_pos ready, Option.bind_some]
      cases octets with
      | nil => rfl
      | cons other octets =>
        rw [further (List.cons_ne_nil _ _) fun octet member =>
          plain octet (List.mem_cons_of_mem _ member)]
        rfl
    · rw [if_neg ready]
      rfl

theorem charRun_append (state : CharState) (front back : Bytes) :
    charRun state (front ++ back) =
      (charRun state front).bind fun state => charRun state back := by
  induction front generalizing state with
  | nil => rfl
  | cons octet front further =>
    rw [List.cons_append, charRun, charRun]
    cases charStep state octet with
    | none => rfl
    | some next => exact further next

theorem charRun_xmlEscape (octet : UInt8) (state : CharState) :
    charRun state (xmlEscape octet) = charRun state [octet] := by
  unfold xmlEscape
  split_ifs
  case neg => rfl
  all_goals
    subst_vars
    rw [charRun_ascii (by decide) (by decide +kernel),
      charRun_ascii (by decide) (by decide +kernel)]

theorem charRun_escapeText (state : CharState) :
    charRun state (escapeText text) = charRun state text := by
  induction text generalizing state with
  | nil => rfl
  | cons octet text further =>
    have split : octet :: text = [octet] ++ text := rfl
    rw [escapeText_cons, charRun_append, charRun_xmlEscape, split,
      charRun_append]
    congr 1
    funext next
    exact further next

theorem textValid_escapeText :
    textValid (escapeText text) = charsValid text := by
  rw [textValid, referencesValid_escapeText, Bool.and_true, charsValid,
    charRun_escapeText]
  rfl

theorem xmlEscape_ne_nil (octet : UInt8) : xmlEscape octet ≠ [] := by
  unfold xmlEscape
  split_ifs <;> exact List.cons_ne_nil _ _

theorem escapeText_ne_nil {text : Bytes} (filled : text ≠ []) :
    escapeText text ≠ [] := by
  cases text with
  | nil => exact absurd rfl filled
  | cons octet text =>
    rw [escapeText_cons]
    exact List.append_ne_nil_of_left_ne_nil (xmlEscape_ne_nil octet) _

/-- No markup is left in a text with its escapes. -/
theorem notMem_escapeText : 60 ∉ escapeText text ∧ 62 ∉ escapeText text := by
  have plain : ∀ octet, 60 ∉ xmlEscape octet ∧ 62 ∉ xmlEscape octet := by
    intro octet
    unfold xmlEscape
    split_ifs with amp less greater quot apos
    iterate 5 decide
    simp only [List.mem_singleton]
    exact ⟨fun same => less same.symm, fun same => greater same.symm⟩
  constructor <;> intro member <;>
    obtain ⟨octet, -, inside⟩ := List.mem_flatMap.mp member
  · exact (plain octet).1 inside
  · exact (plain octet).2 inside

/-! ## The tree -/

/-- An element with a text. -/
def leaf (field : Bytes × Bytes) : Xml :=
  .element field.1 (if field.2 = [] then [] else [.text (escapeText field.2)])

/-- The elements of the parts which are there. -/
def partNodes (number : Nat) : List (Option Part) → List Xml
  | [] => []
  | none :: parts => partNodes (number + 1) parts
  | some part :: parts =>
    .element (ascii "Part")
    ((partFields number part).map leaf) :: partNodes (number + 1) parts

/-- The tree of a checkpoint. -/
def checkpointTree (client : Client) (upload : Upload) (sourcePath : Bytes)
    (stat : FileStat) (partSize : Nat) : Xml :=
  .element checkpointRoot
    ((checkpointFields client upload sourcePath stat partSize).map leaf ++
      [.element (ascii "Parts") (partNodes 1 upload.parts)])

theorem renderAll_leaf (value : Bytes) :
    renderAll (if value = [] then [] else [.text (escapeText value)]) =
      escapeText value := by
  split_ifs with empty
  · rw [empty]
    rfl
  · simp [renderAll, render]

/-! ## What the builder has -/

/-- A builder with more behind its text. -/
def Builder.extend (builder : Builder) (data : Bytes) : Builder :=
  { builder with text := builder.text ++ data }

theorem Builder.extend_extend (builder : Builder) (front back : Bytes) :
    (builder.extend front).extend back = builder.extend (front ++ back) := by
  rw [extend, extend, extend, List.append_assoc]

variable {builder next : Builder}

theorem Builder.append_eq_ok {data : Bytes}
    (appended : builder.append data = .ok next) :
    next = builder.extend data ∧ next.text.length ≤ next.capacity := by
  unfold Builder.append at appended
  split_ifs at appended with full
  cases appended
  refine ⟨rfl, ?_⟩
  show (builder.text ++ data).length ≤ builder.capacity
  rw [List.length_append]
  omega

theorem Builder.behind_append {data : Bytes} {Result : Type}
    {rest : Builder → Except Status Result} {result : Result}
    (done : (builder.append data >>= rest) = .ok result) :
    rest (builder.extend data) = .ok result := by
  obtain ⟨between, here, behind⟩ := bind_eq_ok.mp done
  rwa [(append_eq_ok here).1] at behind

theorem Builder.appendXmlText_eq_ok {text : Bytes}
    (appended : builder.appendXmlText text = .ok next) :
    next = builder.extend (escapeText text) := by
  induction text generalizing builder with
  | nil =>
    cases appended
    rw [extend, escapeText, List.flatMap_nil, List.append_nil]
  | cons octet text further =>
    rw [further (behind_append appended), extend_extend, escapeText_cons]

theorem Builder.appendElement_eq_ok {name value : Bytes}
    (appended : builder.appendElement name value = .ok next) :
    next = builder.extend (leaf (name, value)).render := by
  have opened := behind_append (behind_append (behind_append appended))
  obtain ⟨filled, here, rest⟩ := bind_eq_ok.mp opened
  obtain rfl := appendXmlText_eq_ok here
  obtain ⟨rfl, -⟩ := append_eq_ok (behind_append (behind_append rest))
  simp only [extend_extend]
  rw [leaf, render, renderAll_leaf]
  congr 1
  simp

theorem Builder.appendElements_eq_ok {fields : List (Bytes × Bytes)}
    (appended : builder.appendElements fields = .ok next) :
    next = builder.extend (renderAll (fields.map leaf)) := by
  induction fields generalizing builder with
  | nil =>
    cases appended
    rw [extend, List.map_nil, renderAll, List.append_nil]
  | cons field fields further =>
    obtain ⟨name, value⟩ := field
    obtain ⟨between, here, rest⟩ := bind_eq_ok.mp appended
    obtain rfl := appendElement_eq_ok here
    rw [further rest, extend_extend, List.map_cons, renderAll]

theorem Builder.appendParts_eq_ok {parts : List (Option Part)} {number : Nat}
    (appended : builder.appendParts number parts = .ok next) :
    next = builder.extend (renderAll (partNodes number parts)) := by
  induction parts generalizing builder number with
  | nil =>
    cases appended
    rw [extend, partNodes, renderAll, List.append_nil]
  | cons part parts further =>
    cases part with
    | none => exact further appended
    | some part =>
      obtain ⟨filled, here, rest⟩ := bind_eq_ok.mp (behind_append appended)
      obtain rfl := appendElements_eq_ok here
      have front : ascii "<Part>" = 60 :: ascii "Part" ++ [62] := by decide
      have back : ascii "</Part>" = 60 :: 47 :: ascii "Part" ++ [62] := by
        decide
      rw [further (behind_append rest), partNodes, renderAll, render, front,
        back]
      simp only [extend_extend]
      congr 1
      simp

/-- What is stored is the text of the tree, within the limit of the reader. -/
theorem checkpointXml_eq_ok {client : Client} {upload : Upload}
    {sourcePath : Bytes} {stat : FileStat} {partSize : Nat} {xml : Bytes}
    (written : checkpointXml client upload sourcePath stat partSize = .ok xml) :
    xml = (checkpointTree client upload sourcePath stat partSize).render ∧
      xml.length ≤ client.maxXmlBytes := by
  obtain ⟨capacity, bound, rest⟩ := bind_eq_ok.mp written
  obtain ⟨fresh, init, rest⟩ := bind_eq_ok.mp rest
  obtain ⟨filled, fields, rest⟩ := bind_eq_ok.mp (Builder.behind_append rest)
  obtain ⟨listed, parts, rest⟩ := bind_eq_ok.mp (Builder.behind_append rest)
  obtain ⟨last, close, returned⟩ := bind_eq_ok.mp rest
  obtain rfl : last.text = xml := Except.ok.inj returned
  have small : capacity ≤ client.maxXmlBytes := by
    obtain ⟨_, -, more⟩ := bind_eq_ok.mp bound
    obtain ⟨_, -, more⟩ := bind_eq_ok.mp more
    split_ifs at more with large
    cases more
    exact Nat.le_of_not_lt large
  unfold Builder.init at init
  split_ifs at init
  cases init
  obtain rfl := Builder.appendElements_eq_ok fields
  obtain rfl := Builder.appendParts_eq_ok parts
  obtain ⟨rfl, fits⟩ := Builder.append_eq_ok close
  refine ⟨?_, Nat.le_trans fits small⟩
  have front : ascii "<S3MultipartResume>" = 60 :: checkpointRoot ++ [62] := by
    decide
  have middle : ascii "<Parts>" = 60 :: ascii "Parts" ++ [62] := by decide
  have back : ascii "</Parts></S3MultipartResume>" =
    60 :: 47 :: ascii "Parts" ++ [62] ++
        (60 :: 47 :: checkpointRoot ++ [62]) := by
    decide
  rw [checkpointTree, render, renderAll_append, renderAll, render,
    renderAll, front, middle, back]
  simp [Builder.extend]

end Chttp.S3
