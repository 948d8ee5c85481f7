import Chttp.Hpack.Integer

/-!
# String literals and the Huffman code

The code table is RFC 7541 Appendix B with every code aligned to the top of a
32-bit word, as the source stores it.  The decoder walks a binary tree built
from that table; the node array of the source is an inductive tree here.

`putString` and `getString` are the two ends of RFC 7541 section 5.2.
-/

namespace Chttp.Hpack

open Lib

/-! ## The code table and its tree -/

/-- `s_huff_sym`: code length and top-aligned code of each symbol. -/
def huffSym : List (Nat × Nat) :=
  [(13, 0xffc00000), (23, 0xffffb000), (28, 0xfffffe20), (28, 0xfffffe30),
    (28, 0xfffffe40), (28, 0xfffffe50), (28, 0xfffffe60), (28, 0xfffffe70),
    (28, 0xfffffe80), (24, 0xffffea00), (30, 0xfffffff0), (28, 0xfffffe90),
    (28, 0xfffffea0), (30, 0xfffffff4), (28, 0xfffffeb0), (28, 0xfffffec0),
    (28, 0xfffffed0), (28, 0xfffffee0), (28, 0xfffffef0), (28, 0xffffff00),
    (28, 0xffffff10), (28, 0xffffff20), (30, 0xfffffff8), (28, 0xffffff30),
    (28, 0xffffff40), (28, 0xffffff50), (28, 0xffffff60), (28, 0xffffff70),
    (28, 0xffffff80), (28, 0xffffff90), (28, 0xffffffa0), (28, 0xffffffb0),
    (6, 0x50000000), (10, 0xfe000000), (10, 0xfe400000), (12, 0xffa00000),
    (13, 0xffc80000), (6, 0x54000000), (8, 0xf8000000), (11, 0xff400000),
    (10, 0xfe800000), (10, 0xfec00000), (8, 0xf9000000), (11, 0xff600000),
    (8, 0xfa000000), (6, 0x58000000), (6, 0x5c000000), (6, 0x60000000),
    (5, 0x0), (5, 0x8000000), (5, 0x10000000), (6, 0x64000000),
    (6, 0x68000000), (6, 0x6c000000), (6, 0x70000000), (6, 0x74000000),
    (6, 0x78000000), (6, 0x7c000000), (7, 0xb8000000), (8, 0xfb000000),
    (15, 0xfff80000), (6, 0x80000000), (12, 0xffb00000), (10, 0xff000000),
    (13, 0xffd00000), (6, 0x84000000), (7, 0xba000000), (7, 0xbc000000),
    (7, 0xbe000000), (7, 0xc0000000), (7, 0xc2000000), (7, 0xc4000000),
    (7, 0xc6000000), (7, 0xc8000000), (7, 0xca000000), (7, 0xcc000000),
    (7, 0xce000000), (7, 0xd0000000), (7, 0xd2000000), (7, 0xd4000000),
    (7, 0xd6000000), (7, 0xd8000000), (7, 0xda000000), (7, 0xdc000000),
    (7, 0xde000000), (7, 0xe0000000), (7, 0xe2000000), (7, 0xe4000000),
    (8, 0xfc000000), (7, 0xe6000000), (8, 0xfd000000), (13, 0xffd80000),
    (19, 0xfffe0000), (13, 0xffe00000), (14, 0xfff00000), (6, 0x88000000),
    (15, 0xfffa0000), (5, 0x18000000), (6, 0x8c000000), (5, 0x20000000),
    (6, 0x90000000), (5, 0x28000000), (6, 0x94000000), (6, 0x98000000),
    (6, 0x9c000000), (5, 0x30000000), (7, 0xe8000000), (7, 0xea000000),
    (6, 0xa0000000), (6, 0xa4000000), (6, 0xa8000000), (5, 0x38000000),
    (6, 0xac000000), (7, 0xec000000), (6, 0xb0000000), (5, 0x40000000),
    (5, 0x48000000), (6, 0xb4000000), (7, 0xee000000), (7, 0xf0000000),
    (7, 0xf2000000), (7, 0xf4000000), (7, 0xf6000000), (15, 0xfffc0000),
    (11, 0xff800000), (14, 0xfff40000), (13, 0xffe80000), (28, 0xffffffc0),
    (20, 0xfffe6000), (22, 0xffff4800), (20, 0xfffe7000), (20, 0xfffe8000),
    (22, 0xffff4c00), (22, 0xffff5000), (22, 0xffff5400), (23, 0xffffb200),
    (22, 0xffff5800), (23, 0xffffb400), (23, 0xffffb600), (23, 0xffffb800),
    (23, 0xffffba00), (23, 0xffffbc00), (24, 0xffffeb00), (23, 0xffffbe00),
    (24, 0xffffec00), (24, 0xffffed00), (22, 0xffff5c00), (23, 0xffffc000),
    (24, 0xffffee00), (23, 0xffffc200), (23, 0xffffc400), (23, 0xffffc600),
    (23, 0xffffc800), (21, 0xfffee000), (22, 0xffff6000), (23, 0xffffca00),
    (22, 0xffff6400), (23, 0xffffcc00), (23, 0xffffce00), (24, 0xffffef00),
    (22, 0xffff6800), (21, 0xfffee800), (20, 0xfffe9000), (22, 0xffff6c00),
    (22, 0xffff7000), (23, 0xffffd000), (23, 0xffffd200), (21, 0xfffef000),
    (23, 0xffffd400), (22, 0xffff7400), (22, 0xffff7800), (24, 0xfffff000),
    (21, 0xfffef800), (22, 0xffff7c00), (23, 0xffffd600), (23, 0xffffd800),
    (21, 0xffff0000), (21, 0xffff0800), (22, 0xffff8000), (21, 0xffff1000),
    (23, 0xffffda00), (22, 0xffff8400), (23, 0xffffdc00), (23, 0xffffde00),
    (20, 0xfffea000), (22, 0xffff8800), (22, 0xffff8c00), (22, 0xffff9000),
    (23, 0xffffe000), (22, 0xffff9400), (22, 0xffff9800), (23, 0xffffe200),
    (26, 0xfffff800), (26, 0xfffff840), (20, 0xfffeb000), (19, 0xfffe2000),
    (22, 0xffff9c00), (23, 0xffffe400), (22, 0xffffa000), (25, 0xfffff600),
    (26, 0xfffff880), (26, 0xfffff8c0), (26, 0xfffff900), (27, 0xfffffbc0),
    (27, 0xfffffbe0), (26, 0xfffff940), (24, 0xfffff100), (25, 0xfffff680),
    (19, 0xfffe4000), (21, 0xffff1800), (26, 0xfffff980), (27, 0xfffffc00),
    (27, 0xfffffc20), (26, 0xfffff9c0), (27, 0xfffffc40), (24, 0xfffff200),
    (21, 0xffff2000), (21, 0xffff2800), (26, 0xfffffa00), (26, 0xfffffa40),
    (28, 0xffffffd0), (27, 0xfffffc60), (27, 0xfffffc80), (27, 0xfffffca0),
    (20, 0xfffec000), (24, 0xfffff300), (20, 0xfffed000), (21, 0xffff3000),
    (22, 0xffffa400), (21, 0xffff3800), (21, 0xffff4000), (23, 0xffffe600),
    (22, 0xffffa800), (22, 0xffffac00), (25, 0xfffff700), (25, 0xfffff780),
    (24, 0xfffff400), (24, 0xfffff500), (26, 0xfffffa80), (23, 0xffffe800),
    (26, 0xfffffac0), (27, 0xfffffcc0), (26, 0xfffffb00), (26, 0xfffffb40),
    (27, 0xfffffce0), (27, 0xfffffd00), (27, 0xfffffd20), (27, 0xfffffd40),
    (27, 0xfffffd60), (28, 0xffffffe0), (27, 0xfffffd80), (27, 0xfffffda0),
    (27, 0xfffffdc0), (27, 0xfffffde0), (27, 0xfffffe00), (26, 0xfffffb80),
    (30, 0xfffffffc)
  ]

/-- A node of the decoding tree; `missing` is the child index `-1`. -/
inductive HuffNode where
  | missing
  | node (zero one : HuffNode) (sym : Option Nat)
deriving DecidableEq

namespace HuffNode

/-- A newly allocated node without children or symbol. -/
def fresh : HuffNode := .node .missing .missing none

/-- The child taken for one input bit. -/
def child : HuffNode → Bool → HuffNode
  | .missing, _ => .missing
  | .node zero one _, bit => if bit then one else zero

end HuffNode

/-- `huff_tree_add` from bit `index` on, allocating missing nodes. -/
def huffTreeAdd (code sym : Nat) : Nat → Nat → HuffNode → HuffNode
  | remaining, index, .missing =>
    match remaining with
    | 0 => .node .missing .missing (some sym)
    | remaining + 1 =>
      if code >>> (31 - index) &&& 1 = 1 then
        .node .missing (huffTreeAdd code sym remaining (index + 1) .missing)
          none
      else
        .node (huffTreeAdd code sym remaining (index + 1) .missing) .missing
          none
  | remaining, index, .node zero one symbol =>
    match remaining with
    | 0 => .node zero one (some sym)
    | remaining + 1 =>
      if code >>> (31 - index) &&& 1 = 1 then
        .node zero (huffTreeAdd code sym remaining (index + 1) one) symbol
      else
        .node (huffTreeAdd code sym remaining (index + 1) zero) one symbol

/-- `huff_tree_build`. -/
def huffTree : HuffNode := huffSym.zipIdx.foldl
    (fun tree entry => huffTreeAdd entry.1.2 entry.2 entry.1.1 0 tree)
    HuffNode.fresh

/-! ## Decoding and encoding -/

/-- The bits of an octet, most significant first. -/
def octetBits (octet : UInt8) : List Bool :=
  [7, 6, 5, 4, 3, 2, 1, 0].map fun bit => octet.toNat >>> bit &&& 1 == 1

/--
The bit loop of `hpack_huff_decode`: the bits read since the last symbol and
the symbols decoded so far.
-/
def huffDecodeBits (maxStringBytes : Nat) :
    List Bool → HuffNode → List Bool → Bytes → Option (List Bool × Bytes)
  | [], _, pad, decoded => some (pad, decoded)
  | bit :: bits, node, pad, decoded =>
    match node.child bit with
    | .missing => none
    | .node zero one none =>
      huffDecodeBits maxStringBytes bits (.node zero one none)
      (pad ++ [bit]) decoded
    | .node _ _ (some sym) =>
      if sym = 256 then
        none
      else if maxStringBytes ≤ decoded.length then
        none
      else
        huffDecodeBits maxStringBytes bits huffTree []
        (decoded ++ [UInt8.ofNat sym])

/-- `hpack_huff_decode`. -/
def huffDecode (maxStringBytes : Nat) (input : Bytes) : Option Bytes :=
  if maxStringBytes < input.length then
    none
  else
    match
      huffDecodeBits maxStringBytes (input.flatMap octetBits) huffTree [] []
    with
    | none => none
    | some (pad, decoded) =>
      if 7 < pad.length ∨ false ∈ pad then none else some decoded

/--
The inner loop of the Huffman branch of `hpack_put_string`: whole octets leave
the bit accumulator.  At most 37 bits are pending, hence four rounds.
-/
def huffDrain : Nat → Nat → Nat → Bytes × Nat
  | 0, _, pending => ([], pending)
  | rounds + 1, bits, pending =>
    if 8 ≤ pending then
      let rest := huffDrain rounds bits (pending - 8)
      (UInt8.ofNat (bits >>> (pending - 8)) :: rest.1, rest.2)
    else
      ([], pending)

/-- The symbol loop of the Huffman branch, with the final padding. -/
def huffEncodeLoop : Bytes → Nat → Nat → Bytes
  | [], bits, pending =>
    if 0 < pending then
      [UInt8.ofNat ((bits <<< (8 - pending)) % 2 ^ 64 |||
        (2 ^ (8 - pending) - 1))]
    else
      []
  | octet :: text, bits, pending =>
    let symbol := huffSym.getD octet.toNat (0, 0)
    let bits := (bits <<< symbol.1) % 2 ^ 64 ||| symbol.2 >>> (32 - symbol.1)
    let drained := huffDrain 4 bits (pending + symbol.1)
    drained.1 ++ huffEncodeLoop text bits drained.2

/-! ## String literals -/

/--
`hpack_put_string`.

The Huffman branch writes the code one octet behind the end of the buffer,
then lets the length overwrite from the end of the buffer on, and finally sets
the flag at the end of the buffer as the length has left it.
-/
def putString (buffer : Buffer) (text : Bytes) (huffman : Bool) :
    Option Buffer :=
  if 0x7fffffff < text.length then
    none
  else if huffman then
    if buffer.reserve (text.length * 4 + 8 + 8) then
      let encoded := huffEncodeLoop text 0 0
      let length := integerOctets (encoded.length % 2 ^ 32) 7
      let region := length ++ (0 :: encoded).drop length.length
      let flagged := region.modify length.length (· ||| 0x80)
      buffer.write (flagged.take (1 + encoded.length))
    else
      none
  else
    match integerEncode buffer (text.length % 2 ^ 32) 7 with
    | none => none
    | some buffer => buffer.write text

/-- `hpack_get_string`: the string read and the unread input. -/
def getString (maxStringBytes : Nat) (input : Bytes) : Option (Bytes × Bytes) :=
  match input with
  | [] => none
  | octet :: _ =>
    match getInt 7 input with
    | none => none
    | some (length, rest) =>
      if rest.length < length then
        none
      else if maxStringBytes < length then
        none
      else if octet.toNat &&& 0x80 ≠ 0 then
        match huffDecode maxStringBytes (rest.take length) with
        | none => none
        | some decoded => some (decoded, rest.drop length)
      else
        some (rest.take length, rest.drop length)

/-- The octets of a plain string literal. -/
def stringOctets (text : Bytes) : Bytes := integerOctets text.length 7 ++ text

/-- A plain string literal is its length and its text. -/
theorem putString_plain_iff {buffer written : Buffer} {text : Bytes} :
    putString buffer text false = some written ↔
      text.length ≤ 0x7fffffff ∧
        buffer.write (stringOctets text) = some written := by
  rw [putString, stringOctets, Buffer.write_append]
  by_cases short : text.length ≤ 0x7fffffff
  · have length32 : text.length % 2 ^ 32 = text.length := by omega
    rw [if_neg (Nat.not_lt.mpr short), if_neg Bool.false_ne_true, length32,
      integerEncode,
      if_neg (by decide), and_iff_right short]
    cases buffer.write (integerOctets text.length 7) <;> rfl
  · rw [if_pos (Nat.lt_of_not_le short)]
    exact iff_of_false (by simp) fun accepted => short accepted.1

/-- What is read behind a length without the flag. -/
theorem getString_integerOctets {maxStringBytes length : Nat}
    (length32 : length < 2 ^ 32) (input : Bytes) :
    getString maxStringBytes (integerOctets length 7 ++ input) =
      if input.length < length ∨ maxStringBytes < length then none
      else some (input.take length, input.drop length) := by
  obtain ⟨first, tail, octets⟩ := exists_integerOctets length 7
  obtain ⟨flagClear, read⟩ := getInt_flagged (by decide) (by decide) length32
      (by decide : (0 : UInt8).toNat = 2 ^ 7 * 0) octets input
  have unflagged : first ||| 0 = first := UInt8.or_zero
  rw [unflagged] at flagClear read
  have plain : ¬ (first.toNat &&& 0x80 ≠ 0) := by
    have small := first.toNat_lt
    exact not_not.mpr ((and_bit_eq_zero_iff first.toNat 7).mpr (by omega))
  rw [octets, List.cons_append]
  simp only [getString, read, if_neg plain, ite_or]

theorem getString_stringOctets {maxStringBytes : Nat} {text : Bytes}
    (short : text.length ≤ 0x7fffffff) (allowed : text.length ≤ maxStringBytes)
    (rest : Bytes) :
    getString maxStringBytes (stringOctets text ++ rest) =
      some (text, rest) := by
  rw [stringOctets, List.append_assoc, getString_integerOctets (by omega)]
  simp [allowed]

/-- The room which `hpack_put_string` asks for. -/
def stringRoom (text : Bytes) (huffman : Bool) : Nat :=
  if huffman then text.length * 4 + 8 + 8 else (stringOctets text).length

/-! ## Texts and their own codes -/

/-- The accumulator behind one more symbol, and the octets which leave it. -/
def huffFeed (octet : UInt8) (bits pending : Nat) : Nat × Bytes × Nat :=
  let symbol := huffSym.getD octet.toNat (0, 0)
  let bits := (bits <<< symbol.1) % 2 ^ 64 ||| symbol.2 >>> (32 - symbol.1)
  (bits, huffDrain 4 bits (pending + symbol.1))

theorem huffEncodeLoop_cons (octet : UInt8) (text : Bytes)
    (bits pending : Nat) :
    huffEncodeLoop (octet :: text) bits pending =
      (huffFeed octet bits pending).2.1 ++
        huffEncodeLoop text (huffFeed octet bits pending).1
          (huffFeed octet bits pending).2.2 :=
  rfl

/--
The encoder is fed with the octets it has written: whether some of them are
ahead in every one of the rounds.
-/
def huffAhead : Nat → Bytes → Nat → Nat → Bool
  | 0, _, _, _ => true
  | _ + 1, [], _, _ => false
  | rounds + 1, octet :: ahead, bits, pending =>
    let fed := huffFeed octet bits pending
    huffAhead rounds (ahead ++ fed.2.1) fed.1 fed.2.2

/-- A text which has to follow octets ahead of it does not end below them. -/
theorem ne_of_huffAhead {rounds bits pending : Nat} {ahead text : Bytes}
    (leads : huffAhead rounds ahead bits pending = true)
    (short : text.length < rounds) :
    text ≠ ahead ++ huffEncodeLoop text bits pending := by
  induction rounds generalizing ahead bits pending text with
  | zero => cases short
  | succ rounds induction =>
    intro own
    rcases ahead with _ | ⟨octet, ahead⟩
    · cases leads
    rcases text with _ | ⟨first, text⟩
    · cases own
    simp only [List.cons_append, List.cons.injEq] at own
    obtain ⟨rfl, own⟩ := own
    rw [huffEncodeLoop_cons, ← List.append_assoc] at own
    exact induction leads (Nat.lt_of_succ_lt_succ short) own

/-- The code of an octet with its top bit set begins with eight ones. -/
theorem head_huffFeed : ∀ octet < 128,
    (huffFeed (UInt8.ofNat (128 + octet)) 0 0).2.1.head? = some 255 := by
  decide +kernel

theorem huffAhead_last :
    huffAhead 126 (huffFeed 255 0 0).2.1.tail (huffFeed 255 0 0).1
      (huffFeed 255 0 0).2.2 = true := by
  decide +kernel

/--
No short text is its own code, not even with the top bit of its first octet
set.  The text would have to begin with 255, whose code is ahead of it by 18
bits, and stays ahead.
-/
theorem huffEncodeLoop_ne_self {text : Bytes} (short : text.length < 127)
    (inhabited : text ≠ []) :
    (huffEncodeLoop text 0 0).modify 0 (· ||| 0x80) ≠ text := by
  intro own
  rcases text with _ | ⟨first, text⟩
  · exact inhabited rfl
  rcases coded : huffEncodeLoop (first :: text) 0 0 with _ | ⟨octet, code⟩
  · rw [coded] at own
    cases own
  -- The first octet has its top bit set, so its code begins with eight ones.
  obtain ⟨rfl, rfl⟩ : octet ||| 0x80 = first ∧ code = text := by
    rw [coded] at own
    exact List.cons.inj own
  have high : 128 ≤ (octet ||| 0x80).toNat := by
    rw [UInt8.toNat_or]
    exact Nat.right_le_or
  have ones := head_huffFeed ((octet ||| 0x80).toNat - 128)
    (Nat.sub_lt_left_of_lt_add high (octet ||| 0x80).toNat_lt)
  rw [Nat.add_sub_cancel' high, UInt8.ofNat_toNat] at ones
  obtain ⟨more, begins⟩ := List.head?_eq_some_iff.mp ones
  rw [huffEncodeLoop_cons, begins, List.cons_append, List.cons.injEq] at coded
  obtain ⟨rfl, own⟩ := coded
  have ahead : (huffFeed 255 0 0).2.1.tail = more := congrArg List.tail begins
  rw [← ahead] at own
  exact ne_of_huffAhead huffAhead_last (Nat.lt_of_succ_lt_succ short) own.symm

/-! ## Reading back -/

/-- The octets of a string literal with the Huffman code. -/
def codedOctets (text : Bytes) : Bytes :=
  let encoded := huffEncodeLoop text 0 0
  let length := integerOctets (encoded.length % 2 ^ 32) 7
  ((length ++ (0 :: encoded).drop length.length).modify length.length
    (· ||| 0x80)).take (1 + encoded.length)

/-- The length overwrites the code, and the flag falls behind the length. -/
theorem codedOctets_eq (text : Bytes) :
    let encoded := huffEncodeLoop text 0 0
    let length := integerOctets (encoded.length % 2 ^ 32) 7
    codedOctets text =
      length ++ ((0 :: encoded).drop length.length).modify 0 (· ||| 0x80) := by
  intro encoded length
  have least : length.length ≤ 1 + encoded.length := by
    have lengths := length_integerOctets (encoded.length % 2 ^ 32) 7
    have below := Nat.mod_le encoded.length (2 ^ 32)
    simp only [length]
    omega
  rw [codedOctets, modify_append_length]
  refine List.take_of_length_le ?_
  simp only [List.length_append, List.length_modify, List.length_drop,
    List.length_cons, encoded, length] at least ⊢
  omega

/-- A literal with the code of an inhabited text does not come back. -/
theorem getString_codedOctets_ne {maxStringBytes : Nat} {text : Bytes}
    (inhabited : text ≠ []) (rest : Bytes) :
    getString maxStringBytes (codedOctets text ++ rest) ≠
      some (text, rest) := by
  rw [codedOctets_eq, List.append_assoc,
    getString_integerOctets (Nat.mod_lt _ (by decide))]
  split_ifs with refused
  · simp
  have lengths :=
    length_integerOctets ((huffEncodeLoop text 0 0).length % 2 ^ 32) 7
  have different := @huffEncodeLoop_ne_self text
  generalize huffEncodeLoop text 0 0 = encoded at *
  generalize integerOctets (encoded.length % 2 ^ 32) 7 = length at *
  rw [ne_eq, Option.some.injEq, Prod.mk.injEq]
  rintro ⟨front, back⟩
  -- All octets are consumed, so the length has the one octet left for it.
  have consumed := congrArg List.length back
  simp only [List.length_drop, List.length_append, List.length_modify,
    List.length_cons, not_or] at consumed refused
  have single : length.length = 1 := by omega
  have whole : encoded.length % 2 ^ 32 = encoded.length := by omega
  rw [single, whole, List.drop_one, List.tail_cons,
    List.take_left' (List.length_modify ..)] at front
  refine different ?_ inhabited front
  rw [← front, List.length_modify]
  omega

/--
A string literal comes back exactly if `hpack_put_string` takes its length and
it is written without the Huffman code, or is empty.
-/
theorem string_comes_back_iff {buffer : Buffer} {text : Bytes} {huffman : Bool}
    {maxStringBytes : Nat} (allowed : text.length ≤ maxStringBytes)
    (room : buffer.size + stringRoom text huffman ≤ buffer.maxCapacity)
    (rest : Bytes) :
    (∃ written octets, putString buffer text huffman = some written ∧
      written.data = buffer.data ++ octets ∧
      getString maxStringBytes (octets ++ rest) = some (text, rest)) ↔
      text.length ≤ 0x7fffffff ∧ (huffman = false ∨ text = []) := by
  constructor
  · rintro ⟨written, octets, put, data, got⟩
    have short : text.length ≤ 0x7fffffff := by
      by_contra long
      rw [putString, if_pos (Nat.lt_of_not_le long)] at put
      cases put
    refine ⟨short, or_iff_not_imp_left.mpr fun coded => ?_⟩
    obtain rfl : huffman = true := by simpa using coded
    by_contra inhabited
    rw [putString, if_neg (Nat.not_lt.mpr short), if_pos rfl] at put
    split at put
    · have wrote := (Buffer.write_eq_some_iff.mp put).1
      obtain rfl : codedOctets text = octets :=
        List.append_cancel_left (wrote.symm.trans data)
      exact getString_codedOctets_ne inhabited rest got
    · cases put
  rintro ⟨short, plain⟩
  have least : (stringOctets text).length ≤ stringRoom text huffman := by
    rcases plain with rfl | rfl
    · exact le_rfl
    · cases huffman <;> decide
  have fits : (stringOctets text).length ≤
      buffer.maxCapacity - buffer.size := by
    omega
  obtain ⟨written, wrote⟩ :
      ∃ written, buffer.write (stringOctets text) = some written :=
    ⟨_, dif_pos fits⟩
  refine ⟨written, stringOctets text, ?_, (Buffer.write_eq_some_iff.mp wrote).1,
    getString_stringOctets short allowed rest⟩
  rcases huffman with _ | _
  · exact putString_plain_iff.mpr ⟨short, wrote⟩
  · obtain rfl : text = [] := by simpa using plain
    have reserved : buffer.reserve 16 = true :=
      decide_eq_true (Nat.le_sub_of_add_le' room)
    rw [← wrote]
    exact if_pos reserved

theorem string_comes_back_letters :
    ∃ written octets,
      putString ⟨[], 16, Nat.zero_le _⟩ (ascii "ab") false = some written ∧
      written.data = [] ++ octets ∧
      getString 16 (octets ++ [7]) = some (ascii "ab", [7]) :=
  (string_comes_back_iff (by decide) (by decide) [7]).mpr ⟨by decide, .inl rfl⟩

/-- The flag falls on the code of the letter, and the code is read as a plain
string. -/
theorem string_with_code_lost :
    (putString ⟨[], 64, Nat.zero_le _⟩ (ascii "a") true).map Buffer.data =
      some [1, 0x9f] ∧
      getString 64 [1, 0x9f] = some ([0x9f], []) := by
  decide +kernel

end Chttp.Hpack
