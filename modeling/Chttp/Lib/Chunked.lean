import Chttp.Lib.Bytes
import Mathlib.Data.Nat.Digits.Lemmas

/-!
# The chunked transfer coding

A chunk is its size in hexadecimal digits, a line end, so many octets and
another line end; a chunk of size zero and an empty line end the body.  The
decoder reads a body from its first octet to its last one.
-/

namespace Chttp.Lib

/-- The end of a line. -/
def crlf : Bytes := [13, 10]

/-- The lower case hexadecimal digit of a value below sixteen. -/
def hexDigit (value : Nat) : UInt8 :=
  UInt8.ofNat (if value < 10 then 48 + value else 87 + value)

/-- The value of a hexadecimal digit of either case. -/
def hexValue (octet : UInt8) : Option Nat :=
  let code := octet.toNat
  if 48 ≤ code ∧ code ≤ 57 then
    some (code - 48)
  else if 97 ≤ code ∧ code ≤ 102 then
    some (code - 87)
  else if 65 ≤ code ∧ code ≤ 70 then
    some (code - 55)
  else
    none

variable (number : Nat)

/-- The hexadecimal digits of a number, the most significant one first. -/
def hexDigits : List Nat :=
  if number = 0 then [0] else (Nat.digits 16 number).reverse

/-- A number in hexadecimal, without leading zeros. -/
def hexOctets : Bytes := (hexDigits number).map hexDigit

/-- One chunk. -/
def encodeChunk (data : Bytes) : Bytes :=
  hexOctets data.length ++ crlf ++ data ++ crlf

/-- The chunk of size zero which ends a body, and the empty trailer. -/
def lastChunk : Bytes := hexOctets 0 ++ crlf ++ crlf

/-- Read hexadecimal digits as far as they go. -/
def readHex : Nat → Bytes → Nat × Bytes
  | number, [] => (number, [])
  | number, octet :: input =>
    match hexValue octet with
    | none => (number, octet :: input)
    | some value => readHex (16 * number + value) input

/-- The size of a chunk, and what is behind its line. -/
def readChunkSize (input : Bytes) : Option (Nat × Bytes) :=
  if (input.head?.bind hexValue).isNone then
    none
  else
    match readHex 0 input with
    | (size, 13 :: 10 :: rest) => some (size, rest)
    | _ => none

/-- Decode chunks up to the last one, behind which nothing may follow. -/
def dechunkLoop : Nat → Bytes → Option Bytes
  | 0, _ => none
  | rounds + 1, input =>
    match readChunkSize input with
    | none => none
    | some (size, rest) =>
      if size = 0 then
        if rest = crlf then some [] else none
      else if (rest.drop size).take 2 = crlf then
        (dechunkLoop rounds (rest.drop (size + 2))).map (rest.take size ++ ·)
      else
        none

/-- Decode a chunked body. -/
def dechunk (input : Bytes) : Option Bytes := dechunkLoop input.length input

/-! ## The size of a chunk -/

theorem hexValue_hexDigit {value : Nat} (small : value < 16) :
    hexValue (hexDigit value) = some value := by
  interval_cases value <;> rfl

theorem hexDigits_lt : ∀ digit ∈ hexDigits number, digit < 16 := by
  intro digit member
  rw [hexDigits] at member
  split at member
  · rw [List.mem_singleton.mp member]
    decide
  · exact Nat.digits_lt_base (by decide) (List.mem_reverse.mp member)

theorem hexDigits_ne_nil : hexDigits number ≠ [] := by
  rw [hexDigits]
  split
  · exact List.cons_ne_nil _ _
  · rename_i positive
    rw [ne_eq, List.reverse_eq_nil_iff]
    exact Nat.digits_ne_nil_iff_ne_zero.mpr positive

theorem foldl_hexDigits :
    (hexDigits number).foldl (fun value digit => 16 * value + digit) 0 =
      number := by
  rw [hexDigits]
  split
  · rename_i zero
    rw [zero]
    rfl
  · have value := Nat.ofDigits_digits 16 number
    rw [Nat.ofDigits_eq_foldr] at value
    rw [List.foldl_reverse]
    simpa [Nat.add_comm] using value

theorem readHex_append (digits : List Nat)
    (small : ∀ digit ∈ digits, digit < 16) (number : Nat) (rest : Bytes) :
    readHex number (digits.map hexDigit ++ 13 :: rest) =
      (digits.foldl (fun value digit => 16 * value + digit) number,
        13 :: rest) := by
  induction digits generalizing number with
  | nil => rfl
  | cons digit digits induction =>
    have here := hexValue_hexDigit (small digit List.mem_cons_self)
    rw [List.map_cons, List.cons_append, readHex, here]
    exact induction (fun other member => small other
      (List.mem_cons_of_mem _ member)) _

theorem readChunkSize_hexOctets (size : Nat) (rest : Bytes) :
    readChunkSize (hexOctets size ++ crlf ++ rest) = some (size, rest) := by
  have digits := readHex_append _ (hexDigits_lt size) 0 (10 :: rest)
  rw [foldl_hexDigits] at digits
  have starts : ((hexOctets size ++ crlf ++ rest).head?.bind hexValue).isNone =
      false := by
    obtain ⟨digit, digits, shape⟩ :=
      List.exists_cons_of_ne_nil (hexDigits_ne_nil size)
    have small := hexDigits_lt size digit (by rw [shape]; simp)
    rw [hexOctets, shape]
    simp [hexValue_hexDigit small]
  rw [readChunkSize, if_neg (by rw [starts]; exact Bool.false_ne_true)]
  rw [show hexOctets size ++ crlf ++ rest =
    (hexDigits size).map hexDigit ++ 13 :: 10 :: rest by simp [hexOctets, crlf]]
  rw [digits]
  rfl

/-! ## The coding is read back -/

theorem dechunkLoop_lastChunk (rounds : Nat) :
    dechunkLoop (rounds + 1) lastChunk = some [] := by
  rw [dechunkLoop, lastChunk, readChunkSize_hexOctets]
  rfl

theorem dechunkLoop_encodeChunk (rounds : Nat) {data : Bytes}
    (nonempty : data ≠ []) (rest : Bytes) :
    dechunkLoop (rounds + 1) (encodeChunk data ++ rest) =
      (dechunkLoop rounds rest).map (data ++ ·) := by
  have size := mt List.length_eq_zero_iff.mp nonempty
  have shape : encodeChunk data ++ rest =
      hexOctets data.length ++ crlf ++ (data ++ (crlf ++ rest)) := by
    simp [encodeChunk]
  have behind : (data ++ (crlf ++ rest)).drop (data.length + 2) = rest := by
    rw [← List.drop_drop, List.drop_left]
    rfl
  rw [dechunkLoop, shape, readChunkSize_hexOctets]
  simp only [size, ↓reduceIte, List.drop_left, List.take_left, behind]
  rfl

variable (chunks : List Bytes)

theorem dechunkLoop_flatMap (nonempty : ∀ data ∈ chunks, data ≠ [])
    (rounds : Nat)
    (enough : chunks.length < rounds) :
    dechunkLoop rounds (chunks.flatMap encodeChunk ++ lastChunk) =
      some chunks.flatten := by
  induction chunks generalizing rounds with
  | nil =>
    obtain ⟨rounds, rfl⟩ : ∃ fewer, rounds = fewer + 1 :=
      Nat.exists_eq_add_one.mpr enough
    exact dechunkLoop_lastChunk rounds
  | cons data chunks induction =>
    obtain ⟨rounds, rfl⟩ : ∃ fewer, rounds = fewer + 1 :=
      Nat.exists_eq_add_one.mpr (Nat.zero_lt_of_lt enough)
    rw [List.flatMap_cons, List.append_assoc,
      dechunkLoop_encodeChunk _ (nonempty data List.mem_cons_self),
      induction (fun other member =>
        nonempty other (List.mem_cons_of_mem _ member)) _
        (Nat.lt_of_succ_lt_succ enough)]
    rfl

theorem length_lt_length_flatMap :
    chunks.length < (chunks.flatMap encodeChunk ++ lastChunk).length := by
  induction chunks with
  | nil => decide
  | cons data chunks induction =>
    have line : 2 ≤ (encodeChunk data).length := by
      rw [encodeChunk, List.length_append]
      exact Nat.le_add_left _ _
    rw [List.flatMap_cons, List.append_assoc, List.length_append,
      List.length_cons]
    omega

theorem dechunk_flatMap (nonempty : ∀ data ∈ chunks, data ≠ []) :
    dechunk (chunks.flatMap encodeChunk ++ lastChunk) = some chunks.flatten :=
  dechunkLoop_flatMap chunks nonempty _ (length_lt_length_flatMap chunks)

example : encodeChunk (ascii "hello, quoted body") =
    ascii "12\r\nhello, quoted body\r\n" := by
  decide

end Chttp.Lib
