import Chttp.Lib.Bytes

/-!
# The bounded writer and the HPACK integer representation

`Buffer` is `chttp_h2_hpack_buffer`: octets under a hard capacity.  Storage
growth inside that capacity is not observable when allocation succeeds, so
`reserve` only compares the request with the room left.

Integers follow RFC 7541 section 5.1: a prefix of one to eight bits in the
first octet and seven bits in every later one.
-/

namespace Chttp.Hpack

open Lib

/-! ## Writer -/

/-- `chttp_h2_hpack_buffer`: the octets written so far and their bound. -/
@[ext]
structure Buffer where
  data : Bytes
  maxCapacity : Nat
  bounded : data.length ≤ maxCapacity
deriving DecidableEq

variable (buffer : Buffer)

namespace Buffer

/-- The number of octets written. -/
def size : Nat := buffer.data.length

/-- `chttp_h2_hpack_buffer_init`. -/
def init (hint maxCapacity : Nat) : Option Buffer :=
  if maxCapacity = 0 ∨ maxCapacity < hint then
    none
  else
    some { data := [], maxCapacity, bounded := Nat.zero_le _ }

theorem spec_of_init {hint maxCapacity : Nat} {buffer : Buffer}
    (created : init hint maxCapacity = some buffer) :
    buffer.maxCapacity = maxCapacity ∧ buffer.data = [] := by
  rw [init] at created
  split at created
  · cases created
  · cases created
    exact ⟨rfl, rfl⟩

/-- `chttp_h2_hpack_buffer_reserve`. -/
def reserve (extra : Nat) : Bool :=
  decide (extra ≤ buffer.maxCapacity - buffer.size)

/-- Reserve room for some octets and append them. -/
def write (octets : Bytes) : Option Buffer :=
  if fits : octets.length ≤ buffer.maxCapacity - buffer.size then
    some
      { data := buffer.data ++ octets
        maxCapacity := buffer.maxCapacity
        bounded := by
          have bounded := buffer.bounded
          simp only [size] at fits
          simp only [List.length_append]
          omega }
  else
    none

/-- `b->data[index] |= mask`. -/
def orByte (index : Nat) (mask : UInt8) : Buffer :=
  { data := buffer.data.modify index (· ||| mask)
    maxCapacity := buffer.maxCapacity
    bounded := by simpa using buffer.bounded }

/-- `b->size = 0`. -/
def clear : Buffer :=
  { data := [], maxCapacity := buffer.maxCapacity, bounded := Nat.zero_le _ }

theorem write_eq_some_iff {buffer written : Buffer} {octets : Bytes} :
    buffer.write octets = some written ↔ written.data = buffer.data ++ octets ∧
        written.maxCapacity = buffer.maxCapacity := by
  constructor
  · intro equal
    rw [write] at equal
    split at equal
    · cases equal
      exact ⟨rfl, rfl⟩
    · cases equal
  rintro ⟨dataEqual, capacityEqual⟩
  have bounded := written.bounded
  rw [dataEqual, capacityEqual, List.length_append] at bounded
  have fits : octets.length ≤ buffer.maxCapacity - buffer.size := by
    simp only [size]
    omega
  rw [write, dif_pos fits]
  cases written
  simp only at dataEqual capacityEqual
  subst dataEqual capacityEqual
  rfl

theorem write_append (first second : Bytes) :
    buffer.write (first ++ second) =
      (buffer.write first).bind (·.write second) := by
  apply Option.ext
  intro written
  simp only [Option.bind_eq_some_iff, write_eq_some_iff]
  constructor
  · rintro ⟨data, capacity⟩
    have bounded := written.bounded
    rw [data, capacity, ← List.append_assoc, List.length_append] at bounded
    refine ⟨⟨buffer.data ++ first, buffer.maxCapacity, by omega⟩, ⟨rfl, rfl⟩,
      ?_, capacity⟩
    rw [data, List.append_assoc]
  · rintro ⟨middle, ⟨data, capacity⟩, data', capacity'⟩
    rw [data', data, List.append_assoc]
    exact ⟨rfl, capacity'.trans capacity⟩

theorem orByte_data_of_write {buffer written : Buffer} {first : UInt8}
    {rest : Bytes} {mask : UInt8}
    (equal : buffer.write (first :: rest) = some written) :
    (written.orByte buffer.size mask).data =
      buffer.data ++ (first ||| mask) :: rest := by
  have dataEqual := (write_eq_some_iff.mp equal).1
  simp only [orByte, dataEqual, size]
  exact modify_append_length buffer.data (first :: rest) _

end Buffer

/-! ## Integer representation (RFC 7541 section 5.1) -/

/--
The octets behind the first one: seven bits each, least significant first,
with the top bit set on all but the last.  The counter bounds the loop of the
source; a 32-bit value has at most five groups.
-/
def integerGroups : Nat → Nat → Bytes
  | 0, value => [UInt8.ofNat value]
  | more + 1, value =>
    if 128 ≤ value then
      UInt8.ofNat (value &&& 0x7f ||| 0x80) :: integerGroups more (value >>> 7)
    else
      [UInt8.ofNat value]

variable (value prefixBits : Nat)

/-- The octets `chttp_h2_hpack_integer_encode` writes. -/
def integerOctets : Bytes :=
  let first := 2 ^ prefixBits - 1
  if value < first then
    [UInt8.ofNat value]
  else
    UInt8.ofNat first :: integerGroups 4 (value - first)

/-- `chttp_h2_hpack_integer_encode`. -/
def integerEncode : Option Buffer :=
  if prefixBits < 1 ∨ 8 < prefixBits then
    none
  else
    buffer.write (integerOctets value prefixBits)

/-- The loop of `hpack_get_int` over the octets behind the first one. -/
def getIntLoop : Bytes → Nat → Nat → Option (Nat × Bytes)
  | [], _, _ => none
  | octet :: rest, shift, value =>
    if 28 < shift then
      none
    else
      let value := (value + ((octet.toNat &&& 0x7f) <<< shift) % 2 ^ 32) %
        2 ^ 32
      if octet.toNat &&& 0x80 = 0 then
        some (value, rest)
      else
        getIntLoop rest (shift + 7) value

/-- `hpack_get_int`: the value read and the unread input. -/
def getInt (prefixBits : Nat) (input : Bytes) : Option (Nat × Bytes) :=
  if prefixBits < 1 ∨ 8 < prefixBits then
    none
  else
    match input with
    | [] => none
    | octet :: rest =>
      let firstMask := 2 ^ prefixBits - 1
      let value := octet.toNat &&& firstMask
      if value < firstMask then
        some (value, rest)
      else
        getIntLoop rest 0 value

theorem exists_integerOctets :
    ∃ first tail, integerOctets value prefixBits = first :: tail := by
  rw [integerOctets]
  split <;> exact ⟨_, _, rfl⟩

theorem length_integerGroups (more value : Nat) :
    0 < (integerGroups more value).length ∧
      (integerGroups more value).length ≤ more + 1 := by
  induction more generalizing value with
  | zero => exact ⟨Nat.one_pos, le_rfl⟩
  | succ more induction =>
    rw [integerGroups]
    split
    · exact ⟨Nat.succ_pos _, Nat.succ_le_succ (induction _).2⟩
    · exact ⟨Nat.one_pos, Nat.le_add_left 1 _⟩

/-- A value below the largest prefix takes one octet, another one up to six. -/
theorem length_integerOctets :
    value < 2 ^ prefixBits - 1 ∧ (integerOctets value prefixBits).length = 1 ∨
      2 ^ prefixBits - 1 ≤ value ∧
        1 < (integerOctets value prefixBits).length ∧
        (integerOctets value prefixBits).length ≤ 6 := by
  by_cases small : value < 2 ^ prefixBits - 1
  · exact .inl ⟨small, by simp [integerOctets, small]⟩
  · have groups := length_integerGroups 4 (value - (2 ^ prefixBits - 1))
    refine .inr ⟨Nat.le_of_not_lt small, ?_⟩
    simp only [integerOctets, if_neg small, List.length_cons]
    omega

variable {group shift value : Nat}

/-- One round of the reader's loop while the sum stays below `2 ^ 32`. -/
theorem getIntLoop_cons {octet : UInt8} (low : octet.toNat &&& 0x7f = group)
    (inRange : shift ≤ 28) (fits : value + group * 2 ^ shift < 2 ^ 32)
    (rest : Bytes) :
    getIntLoop (octet :: rest) shift value =
      if octet.toNat &&& 0x80 = 0 then
        some (value + group * 2 ^ shift, rest)
      else
        getIntLoop rest (shift + 7) (value + group * 2 ^ shift) := by
  have addend : (group <<< shift) % 2 ^ 32 = group * 2 ^ shift := by
    rw [Nat.shiftLeft_eq]
    exact Nat.mod_eq_of_lt (by omega)
  rw [getIntLoop, if_neg (Nat.not_lt.mpr inRange), low, addend,
    Nat.mod_eq_of_lt fits]

section

variable (small : group < 128) (inRange : shift ≤ 28)
  (fits : value + group * 2 ^ shift < 2 ^ 32) (rest : Bytes)

include small inRange fits rest

theorem getIntLoop_final :
    getIntLoop (UInt8.ofNat group :: rest) shift value =
      some (value + group * 2 ^ shift, rest) := by
  have octet : (UInt8.ofNat group).toNat = group := by
    rw [UInt8.toNat_ofNat']
    omega
  have low : group &&& 0x7f = group :=
    (Nat.and_two_pow_sub_one_eq_mod group 7).trans (Nat.mod_eq_of_lt small)
  have high : group &&& 0x80 = 0 := (and_bit_eq_zero_iff group 7).mpr (by omega)
  rw [getIntLoop_cons (by rw [octet, low]) inRange fits, octet, if_pos high]

theorem getIntLoop_more :
    getIntLoop (UInt8.ofNat (group ||| 0x80) :: rest) shift value =
      getIntLoop rest (shift + 7) (value + group * 2 ^ shift) := by
  have packed : group ||| 0x80 = 128 + group := or_flag_eq_add 7 1 small
  have octet : (UInt8.ofNat (group ||| 0x80)).toNat = 128 + group := by
    rw [packed, UInt8.toNat_ofNat']
    omega
  have low : (128 + group) &&& 0x7f = group :=
    (Nat.and_two_pow_sub_one_eq_mod (128 + group) 7).trans (by omega)
  have high : ¬ (128 + group) &&& 0x80 = 0 := by
    intro clear
    have even := (and_bit_eq_zero_iff (128 + group) 7).mp clear
    omega
  rw [getIntLoop_cons (by rw [octet, low]) inRange fits, octet, if_neg high]

end

theorem getIntLoop_integerGroups {more : Nat}
    (groups : value < 128 ^ (more + 1))
    (inRange : shift + 7 * more ≤ 28) {start : Nat}
    (fits : start + value * 2 ^ shift < 2 ^ 32)
    (rest : Bytes) :
    getIntLoop (integerGroups more value ++ rest) shift start =
      some (start + value * 2 ^ shift, rest) := by
  induction more generalizing value shift start with
  | zero =>
    exact getIntLoop_final (by simpa using groups) (by omega) fits rest
  | succ more induction =>
    rw [integerGroups]
    split
    · have group : value &&& 0x7f = value % 128 :=
        Nat.and_two_pow_sub_one_eq_mod value 7
      have next : value >>> 7 = value / 128 := Nat.shiftRight_eq_div_pow value 7
      have split : value % 128 + 128 * (value / 128) = value :=
        Nat.mod_add_div value 128
      have position : (value / 128) * 2 ^ (shift + 7) =
          128 * (value / 128) * 2 ^ shift := by
        ring
      have regroup : start + value % 128 * 2 ^ shift + (value / 128) * 2 ^
        (shift + 7) =
          start + value * 2 ^ shift := by
        rw [position, Nat.add_assoc, ← Nat.add_mul, split]
      have fewer : value / 128 < 128 ^ (more + 1) := by
        rw [Nat.div_lt_iff_lt_mul (by decide)]
        rwa [pow_succ] at groups
      rw [group, next, List.cons_append,
        getIntLoop_more (Nat.mod_lt _ (by decide)) (by omega) (by omega),
        induction fewer (by omega) (by omega), regroup]
    · exact getIntLoop_final (by omega) (by omega) fits rest

/--
Reading back an integer: the octets of any 32-bit value, with any flag set
above the prefix of the first octet and any octets behind.
-/
theorem getInt_flagged {prefixBits : Nat} (positive : 1 ≤ prefixBits)
    (atMost : prefixBits ≤ 8)
    (value32 : value < 2 ^ 32) {mask : UInt8} {flag : Nat}
    (flagValue : mask.toNat = 2 ^ prefixBits * flag) {first : UInt8}
    {tail : Bytes}
    (octets : integerOctets value prefixBits = first :: tail) (rest : Bytes) :
    (first ||| mask).toNat / 2 ^ prefixBits = flag ∧
      getInt prefixBits ((first ||| mask) :: (tail ++ rest)) =
        some (value, rest) := by
  have base : 0 < 2 ^ prefixBits := Nat.two_pow_pos prefixBits
  have octetSized : 2 ^ prefixBits ≤ 256 :=
    Nat.pow_le_pow_right (by decide) atMost
  have valid : ¬ (prefixBits < 1 ∨ 8 < prefixBits) := by omega
  -- The first octet holds either the value itself or the largest prefix.
  have firstOctet {low : Nat} (small : low < 2 ^ prefixBits) :
      (UInt8.ofNat low ||| mask).toNat / 2 ^ prefixBits = flag ∧
        (UInt8.ofNat low ||| mask).toNat &&& (2 ^ prefixBits - 1) = low := by
    rw [toNat_ofNat_or_flag small octetSized flagValue]
    constructor
    · rw [Nat.mul_add_div base, Nat.div_eq_of_lt small, Nat.add_zero]
    · rw [Nat.and_two_pow_sub_one_eq_mod, Nat.mul_add_mod,
        Nat.mod_eq_of_lt small]
  rw [integerOctets] at octets
  by_cases small : value < 2 ^ prefixBits - 1
  · simp only [if_pos small, List.cons.injEq] at octets
    obtain ⟨rfl, rfl⟩ := octets
    obtain ⟨high, low⟩ := firstOctet (by omega : value < 2 ^ prefixBits)
    refine ⟨high, ?_⟩
    simp only [getInt, if_neg valid, low, if_pos small, List.nil_append]
  simp only [if_neg small, List.cons.injEq] at octets
  obtain ⟨rfl, rfl⟩ := octets
  obtain ⟨high, low⟩ :=
    firstOctet (by omega : 2 ^ prefixBits - 1 < 2 ^ prefixBits)
  have whole : 2 ^ prefixBits - 1 + (value - (2 ^ prefixBits - 1)) * 2 ^ 0 =
      value := by
    omega
  refine ⟨high, ?_⟩
  simp only [getInt, if_neg valid, low, Nat.lt_irrefl, if_false]
  rw [getIntLoop_integerGroups (by omega) (by omega) (by omega), whole]

/-! ## Which numbers are read -/

/-- The number in the groups in front of the rest, without a bound. -/
def groupsNumber : Bytes → Option (Nat × Bytes)
  | [] => none
  | octet :: rest =>
    if octet.toNat < 128 then
      some (octet.toNat, rest)
    else
      (groupsNumber rest).map fun read =>
        (octet.toNat % 128 + 128 * read.1, read.2)

/-- The number which RFC 7541 gives to the octets in front of the rest. -/
def integerNumber (prefixBits : Nat) : Bytes → Option (Nat × Bytes)
  | [] => none
  | octet :: rest =>
    if octet.toNat % 2 ^ prefixBits < 2 ^ prefixBits - 1 then
      some (octet.toNat % 2 ^ prefixBits, rest)
    else
      (groupsNumber rest).map fun read =>
        (octet.toNat % 2 ^ prefixBits + read.1, read.2)

theorem length_of_groupsNumber {input rest : Bytes} {number : Nat}
    (read : groupsNumber input = some (number, rest)) :
    rest.length < input.length := by
  induction input generalizing number with
  | nil => cases read
  | cons octet input induction =>
    rw [groupsNumber] at read
    split at read
    · cases read
      exact Nat.lt_succ_self _
    · obtain ⟨tail, there, rfl, rfl⟩ := Option.map_eq_some_iff.mp read
      exact Nat.lt_succ_of_lt (induction there)

/--
The loop reads the groups which the shift allows, and its sum is the number in
them modulo `2 ^ 32`.
-/
theorem getIntLoop_eq_some_iff {input rest : Bytes} {shift start value : Nat} :
    getIntLoop input shift start = some (value, rest) ↔
      ∃ number, groupsNumber input = some (number, rest) ∧
        value = (start + number * 2 ^ shift) % 2 ^ 32 ∧
        shift + 7 * input.length ≤ 35 + 7 * rest.length := by
  induction input generalizing shift start with
  | nil => simp [getIntLoop, groupsNumber]
  | cons octet input induction =>
    have group : octet.toNat &&& 0x7f = octet.toNat % 128 :=
      Nat.and_two_pow_sub_one_eq_mod _ 7
    have small := octet.toNat_lt
    have last : octet.toNat &&& 0x80 = 0 ↔ octet.toNat < 128 :=
      (and_bit_eq_zero_iff octet.toNat 7).trans (by omega)
    simp only [getIntLoop, group, last, Nat.shiftLeft_eq, Nat.add_mod_mod,
      List.length_cons]
    split_ifs with long low
    · refine iff_of_false (by simp) ?_
      rintro ⟨number, numbered, -, few⟩
      have shorter := length_of_groupsNumber numbered
      rw [List.length_cons] at shorter
      omega
    · simp only [groupsNumber, if_pos low, Nat.mod_eq_of_lt low,
        Option.some.injEq, Prod.mk.injEq]
      constructor
      · rintro ⟨rfl, rfl⟩
        exact ⟨_, ⟨rfl, rfl⟩, rfl, by omega⟩
      · rintro ⟨number, ⟨rfl, rfl⟩, rfl, -⟩
        exact ⟨rfl, rfl⟩
    · -- The shift of the next group moves the number of this one out.
      have moved : ∀ number, start + octet.toNat % 128 * 2 ^ shift +
          number * 2 ^ (shift + 7) =
            start + (octet.toNat % 128 + 128 * number) * 2 ^ shift := by
        intro number
        ring
      simp only [induction, groupsNumber, if_neg low, Option.map_eq_some_iff,
        Prod.exists, Prod.mk.injEq, Nat.mod_add_mod, moved]
      constructor
      · rintro ⟨number, numbered, rfl, few⟩
        exact ⟨_, ⟨number, rest, numbered, rfl, rfl⟩, rfl, by omega⟩
      · rintro ⟨_, ⟨number, _, numbered, rfl, rfl⟩, rfl, few⟩
        exact ⟨number, numbered, rfl, by omega⟩

/--
The octets of a 32-bit value are read exactly.  What is read of any octets is
the number they stand for, of 32 bits, exactly if their encoding is incomplete,
has more than five octets behind the prefix, or stands for such a number.
-/
theorem integer_exact_iff {prefixBits : Nat} (positive : 1 ≤ prefixBits)
    (atMost : prefixBits ≤ 8) :
    (∀ value < 2 ^ 32, ∀ buffer written,
      integerEncode buffer value prefixBits = some written →
        ∃ first tail, written.data = buffer.data ++ first :: tail ∧
          ∀ mask : UInt8, 2 ^ prefixBits ∣ mask.toNat → ∀ rest,
            getInt prefixBits ((first ||| mask) :: (tail ++ rest)) =
              some (value, rest)) ∧
      ∀ input,
        (∀ value rest, getInt prefixBits input = some (value, rest) →
          integerNumber prefixBits input = some (value, rest) ∧
            value < 2 ^ 32) ↔
        ∀ number rest, integerNumber prefixBits input = some (number, rest) →
          number < 2 ^ 32 ∨ 1 + 5 + rest.length < input.length := by
  have valid : ¬ (prefixBits < 1 ∨ 8 < prefixBits) := by omega
  have bound : 2 ^ prefixBits ≤ 2 ^ 8 := Nat.pow_le_pow_right (by decide) atMost
  constructor
  · intro value value32 buffer written encoded
    obtain ⟨first, tail, octets⟩ := exists_integerOctets value prefixBits
    rw [integerEncode, if_neg valid, octets] at encoded
    refine ⟨first, tail, (Buffer.write_eq_some_iff.mp encoded).1, ?_⟩
    rintro mask ⟨flag, flagged⟩ rest
    exact (getInt_flagged positive atMost value32 flagged octets rest).2
  · intro input
    rcases input with _ | ⟨octet, input⟩
    · simp [getInt, integerNumber]
    have low := Nat.mod_lt octet.toNat (Nat.two_pow_pos prefixBits)
    simp only [getInt, if_neg valid, Nat.and_two_pow_sub_one_eq_mod,
      integerNumber, List.length_cons]
    split_ifs with small
    · simp only [Option.some.injEq, Prod.mk.injEq, and_imp]
      constructor
      · rintro - _ _ rfl rfl
        exact .inl (by omega)
      · rintro - _ _ rfl rfl
        exact ⟨⟨rfl, rfl⟩, by omega⟩
    simp only [getIntLoop_eq_some_iff]
    cases numbered : groupsNumber input with
    | none => simp
    | some read =>
      obtain ⟨number, rest⟩ := read
      simp only [Option.some.injEq, Prod.mk.injEq, Option.map_some, and_imp,
        forall_exists_index, pow_zero, Nat.mul_one]
      constructor
      · rintro same _ _ rfl rfl
        by_cases short : 0 + 7 * input.length ≤ 35 + 7 * rest.length
        · obtain ⟨⟨whole, -⟩, value32⟩ := same _ _ _ rfl rfl rfl short
          exact .inl (whole ▸ value32)
        · exact .inr (by omega)
      · rintro few _ _ _ rfl rfl rfl short
        have value32 := (few _ _ rfl rfl).resolve_right (by omega)
        exact ⟨⟨(Nat.mod_eq_of_lt value32).symm, rfl⟩, Nat.mod_lt _ (by decide)⟩

theorem integer_exact_five_bits :
    getInt 5 [31, 154, 10] = some (1337, []) ∧
      integerNumber 5 [31, 154, 10] = some (1337, []) ∧ 1337 < 2 ^ 32 := by
  have numbered : integerNumber 5 [31, 154, 10] = some (1337, []) := by decide
  refine ⟨by decide, ((integer_exact_iff (by decide) (by decide)).2 _).mpr
    (fun number rest same => ?_) 1337 [] (by decide)⟩
  cases numbered.symm.trans same
  exact .inl (by decide)

/-- An encoding of `2 ^ 32 + 255` is read as 255. -/
theorem integer_reduced :
    getInt 8 [255, 128, 128, 128, 128, 16] = some (255, []) ∧
      integerNumber 8 [255, 128, 128, 128, 128, 16] =
        some (2 ^ 32 + 255, []) := by
  decide

end Chttp.Hpack
