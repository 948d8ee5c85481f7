import Chttp.Hpack.Huffman

/-!
# The strings which the Huffman decoder accepts

The tree of the decoder and the code table are compared once, by evaluation:
every symbol is found under its code, and is nowhere else.  What the bit loop
accepts follows for every input.
-/

namespace Chttp.Hpack

open Lib

/-- The code of a symbol, most significant bit first. -/
def symbolCode (sym : Nat) : List Bool :=
  let entry := huffSym.getD sym (0, 0)
  (List.range entry.1).map fun index => entry.2 >>> (31 - index) &&& 1 == 1

/-- The codes of a text. -/
def textCode (text : Bytes) : List Bool :=
  text.flatMap fun octet => symbolCode octet.toNat

namespace HuffNode

/-- The nodes which the source has allocated. -/
def count : HuffNode → Nat
  | .missing => 0
  | .node zero one _ => zero.count + one.count + 1

/-- The symbol which a node has under a code. -/
def find : HuffNode → List Bool → Option Nat
  | .node _ _ (some sym), [] => some sym
  | .node zero one none, bit :: path =>
    if bit then one.find path else zero.find path
  | _, _ => none

/-- The symbols below a node have the codes which lead to them. -/
def coded : HuffNode → List Bool → Bool
  | .missing, _ => true
  | .node _ _ (some sym), path => sym ≤ 256 && symbolCode sym == path
  | .node zero one none, path =>
    zero.coded (path ++ [false]) && one.coded (path ++ [true])

end HuffNode

/-- The tree against the table: its nodes fit the array of the source and its
indices of 16 bits, and every symbol is found under its code only. -/
theorem huffTree_spec : huffTree.count = 513 ∧ huffTree.coded [] = true ∧
    (∀ sym < 256, huffTree.find (symbolCode sym) = some sym) ∧
    huffTree.find (List.replicate 30 true) = some 256 := by
  decide +kernel

theorem huffTree_coded : huffTree.coded [] = true := huffTree_spec.2.1

theorem huffTree_find : ∀ sym < 256,
    huffTree.find (symbolCode sym) = some sym :=
  huffTree_spec.2.2.1

theorem huffTree_find_eos :
    huffTree.find (List.replicate 30 true) = some 256 :=
  huffTree_spec.2.2.2

variable {node : HuffNode} {path more : List Bool} {sym : Nat} {bit : Bool}

theorem HuffNode.find_cons (found : node.find (bit :: path) = some sym) :
    (∃ zero one, node = .node zero one none) ∧
      (node.child bit).find path = some sym := by
  rcases node with _ | ⟨zero, one, _ | own⟩
  · cases found
  · refine ⟨⟨zero, one, rfl⟩, ?_⟩
    cases bit <;> exact found
  · cases found

theorem HuffNode.find_nil (found : node.find [] = some sym) :
    ∃ zero one, node = .node zero one (some sym) := by
  rcases node with _ | ⟨zero, one, _ | own⟩
  · cases found
  · cases found
  · cases found
    exact ⟨zero, one, rfl⟩

theorem huffTree_inner : ∃ zero one, huffTree = .node zero one none :=
  (HuffNode.find_cons huffTree_find_eos).1

section

variable (limit : Nat) (pad : List Bool) (decoded : Bytes)

theorem huffDecodeBits_walk (found : node.find (path ++ more) = some sym)
    (inside : more ≠ []) :
    ∃ inner : HuffNode, inner.find more = some sym ∧ ∀ bits,
      huffDecodeBits limit (path ++ bits) node pad decoded =
        huffDecodeBits limit bits inner (pad ++ path) decoded := by
  induction path generalizing node pad with
  | nil => exact ⟨node, found, fun bits => by simp⟩
  | cons bit path induction =>
    have next : (node.child bit).find (path ++ more) = some sym :=
      (HuffNode.find_cons found).2
    obtain ⟨second, rest, split⟩ : ∃ second rest,
        path ++ more = second :: rest :=
      List.exists_cons_of_ne_nil (by simp [inside])
    obtain ⟨zero, one, inner⟩ := (HuffNode.find_cons (split.symm ▸ next)).1
    obtain ⟨last, foundLast, walk⟩ := induction (pad ++ [bit]) next
    refine ⟨last, foundLast, fun bits => ?_⟩
    rw [inner, List.append_assoc] at walk
    rw [List.cons_append, huffDecodeBits, inner]
    exact walk bits

theorem huffDecodeBits_symbol (found : huffTree.find path = some sym)
    (bits : List Bool) :
    huffDecodeBits limit (path ++ bits) huffTree [] decoded =
      if sym = 256 ∨ limit ≤ decoded.length then
        none
      else
        huffDecodeBits limit bits huffTree []
        (decoded ++ [UInt8.ofNat sym]) := by
  obtain ⟨_, _, root⟩ := huffTree_inner
  rcases path.eq_nil_or_concat with rfl | ⟨front, last, rfl⟩
  · rw [root] at found
    cases found
  rw [List.concat_eq_append] at found ⊢
  obtain ⟨inner, foundLast, walk⟩ :=
    huffDecodeBits_walk limit [] decoded found (by simp)
  obtain ⟨_, _, leaf⟩ := HuffNode.find_nil (HuffNode.find_cons foundLast).2
  rw [List.append_assoc, walk, List.singleton_append, huffDecodeBits, leaf,
    ite_or]

theorem huffDecodeBits_text {text : Bytes}
    (fits : decoded.length + text.length ≤ limit)
    (bits : List Bool) :
    huffDecodeBits limit (textCode text ++ bits) huffTree [] decoded =
      huffDecodeBits limit bits huffTree [] (decoded ++ text) := by
  induction text generalizing decoded with
  | nil => simp [textCode]
  | cons octet text induction =>
    have small := octet.toNat_lt
    rw [List.length_cons] at fits
    rw [textCode, List.flatMap_cons, List.append_assoc,
      huffDecodeBits_symbol limit decoded (huffTree_find _ small),
      if_neg (by omega),
      UInt8.ofNat_toNat]
    have rest := induction (decoded ++ [octet]) (by simp; omega)
    rwa [List.append_assoc] at rest

theorem huffDecodeBits_padding {padding : Nat} (short : padding < 30) :
    huffDecodeBits limit (List.replicate padding true) huffTree [] decoded =
      some (List.replicate padding true, decoded) := by
  have found := huffTree_find_eos
  rw [show 30 = padding + (30 - padding) by omega,
    ← List.replicate_append_replicate] at found
  obtain ⟨inner, -, walk⟩ :=
    huffDecodeBits_walk limit [] decoded found (by simp; omega)
  simpa [huffDecodeBits] using walk []

end

/-- What is decoded from bits has these bits as its code. -/
theorem huffDecodeBits_sound {limit : Nat} {bits pad pad' : List Bool}
    {decoded text : Bytes}
    (coded : node.coded pad = true)
    (inner : ∃ zero one, node = .node zero one none)
    (room : decoded.length ≤ limit)
    (read : huffDecodeBits limit bits node pad decoded = some (pad', text)) :
    ∃ added, text = decoded ++ added ∧ text.length ≤ limit ∧
      pad ++ bits = textCode added ++ pad' := by
  induction bits generalizing node pad decoded with
  | nil =>
    cases read
    exact ⟨[], by simp, room, by simp [textCode]⟩
  | cons bit bits induction =>
    obtain ⟨zero, one, rfl⟩ := inner
    have below : ((HuffNode.node zero one none).child bit).coded
        (pad ++ [bit]) = true := by
      rw [HuffNode.coded, Bool.and_eq_true] at coded
      cases bit
      · exact coded.1
      · exact coded.2
    rw [huffDecodeBits] at read
    split at read
    · cases read
    · rename_i child
      rw [child] at below
      simpa using induction below ⟨_, _, rfl⟩ room read
    · rename_i own child
      rw [child, HuffNode.coded, Bool.and_eq_true, decide_eq_true_eq,
        beq_iff_eq] at below
      split at read
      · cases read
      split at read
      · cases read
      obtain ⟨added, textEq, fits, rest⟩ :=
        induction huffTree_coded huffTree_inner (by simp; omega) read
      refine ⟨UInt8.ofNat own :: added, by simp [textEq], fits, ?_⟩
      have code : symbolCode (UInt8.ofNat own).toNat = pad ++ [bit] := by
        rw [UInt8.toNat_ofNat', Nat.mod_eq_of_lt (by omega), below.2]
      rw [textCode, List.flatMap_cons, code, List.append_assoc,
        List.append_assoc]
      exact congrArg (fun bits => pad ++ bit :: bits) rest

/--
The Huffman decoder accepts the codes of a text which fits, followed by fewer
than eight bits which are all one, and nothing else.
-/
theorem huffDecode_eq_some_iff {limit : Nat} {input : Bytes}
    (allowed : input.length ≤ limit)
    (text : Bytes) :
    huffDecode limit input = some text ↔
      text.length ≤ limit ∧ ∃ padding < 8,
        input.flatMap octetBits =
          textCode text ++ List.replicate padding true := by
  rw [huffDecode, if_neg (Nat.not_lt.mpr allowed)]
  constructor
  · intro read
    split at read
    · cases read
    rename_i pad decoded loop
    split at read
    · cases read
    rename_i ones
    cases read
    obtain ⟨added, textEq, fits, bits⟩ :=
      huffDecodeBits_sound huffTree_coded huffTree_inner (Nat.zero_le _) loop
    rw [List.nil_append] at textEq bits
    subst textEq
    refine ⟨fits, pad.length, by omega, ?_⟩
    rw [bits, List.append_cancel_left_eq, List.eq_replicate_iff]
    refine ⟨rfl, fun bit member => ?_⟩
    cases bit
    · exact absurd (Or.inr member) ones
    · rfl
  · rintro ⟨fits, padding, short, bits⟩
    rw [bits, huffDecodeBits_text limit [] (by simpa using fits),
      huffDecodeBits_padding limit _ (by omega)]
    simp
    omega

/-- The code of a letter and three bits of padding. -/
theorem huffDecode_eq_some_iff_letter :
    huffDecode 16 [0x1f] = some (ascii "a") :=
  (huffDecode_eq_some_iff (by decide) _).mpr
    ⟨by decide, 3, by decide, by decide +kernel⟩

end Chttp.Hpack
