import Mathlib.Data.Nat.Bitwise
import Mathlib.Tactic.Ring

/-!
# Byte strings and masked bytes

A byte string is a list of octets.  Wire formats pack a flag and a small
number into one octet; the lemmas below turn the masks used to build and to
take apart such an octet into division and remainder.
-/

namespace Chttp.Lib

/-- A string of octets. -/
abbrev Bytes := List UInt8

/-- The octets of an ASCII literal. -/
def ascii (text : String) : Bytes :=
  text.toList.map fun character => UInt8.ofNat character.toNat

/-- The small letter of a capital one, and any other octet. -/
def asciiLower (value : UInt8) : UInt8 :=
  if 65 ≤ value ∧ value ≤ 90 then value + 32 else value

/-- The backslash, which separates file names on Windows. -/
def backslash : UInt8 := 92

/-- A space or a tab. -/
def blank (value : UInt8) : Bool := value == 32 || value == 9

/-- Texts which differ in the case of letters only. -/
def equalFold (left right : Bytes) : Bool :=
  left.map asciiLower == right.map asciiLower

theorem or_flag_eq_add {value : Nat} (bits flag : Nat)
    (small : value < 2 ^ bits) :
    value ||| 2 ^ bits * flag = 2 ^ bits * flag + value := by
  rw [Nat.or_comm, ← Nat.two_pow_add_eq_or_of_lt small]

theorem and_bit_eq_zero_iff (value position : Nat) :
    value &&& 2 ^ position = 0 ↔ value / 2 ^ position % 2 = 0 := by
  rw [Nat.and_two_pow, Nat.testBit_eq_decide_div_mod_eq]
  have remainder := Nat.mod_two_eq_zero_or_one (value / 2 ^ position)
  rcases remainder with even | odd
  · simp [even]
  · simp [odd]

/-- The octet built from a value below `2 ^ bits` and a flag above it. -/
theorem toNat_ofNat_or_flag {value bits : Nat} {mask : UInt8} {flag : Nat}
    (small : value < 2 ^ bits) (octet : 2 ^ bits ≤ 256)
    (flagValue : mask.toNat = 2 ^ bits * flag) :
    (UInt8.ofNat value ||| mask).toNat = 2 ^ bits * flag + value := by
  have fits : value % 2 ^ 8 = value := Nat.mod_eq_of_lt (by omega)
  rw [UInt8.toNat_or, UInt8.toNat_ofNat', fits, flagValue,
    or_flag_eq_add bits flag small]

theorem modify_append_length {Item : Type*} (before after : List Item)
    (change : Item → Item) :
    (before ++ after).modify before.length change =
      before ++ after.modify 0 change := by
  induction before with
  | nil => rfl
  | cons head before induction => simpa using induction

/-! ## Buffers -/

/-- Copy octets into a buffer. -/
def overlay (buffer : Bytes) (offset : Nat) (data : Bytes) : Bytes :=
  buffer.take offset ++ data ++ buffer.drop (offset + data.length)

/-- Octets of a buffer. -/
def slice (buffer : Bytes) (offset size : Nat) : Bytes :=
  (buffer.drop offset).take size

variable (data : Bytes)

theorem drop_overlay {buffer : Bytes} {offset : Nat}
    (fits : offset ≤ buffer.length) :
    (overlay buffer offset data).drop offset =
      data ++ buffer.drop (offset + data.length) := by
  have size : (buffer.take offset).length = offset :=
    List.length_take_of_le fits
  rw [overlay, List.append_assoc]
  exact List.drop_left' size

theorem slice_overlay {buffer : Bytes} {offset : Nat}
    (fits : offset ≤ buffer.length) :
    slice (overlay buffer offset data) offset data.length = data := by
  rw [slice, drop_overlay data fits, List.take_left]

theorem take_overlay_front (buffer front data : Bytes)
    (fits : front.length ≤ buffer.length) :
    (overlay (overlay buffer front.length data) 0 front).take
      (front.length + data.length) =
      front ++ data := by
  have behind := drop_overlay data fits
  rw [overlay, Nat.zero_add, behind, List.take_zero, List.nil_append,
    ← List.append_assoc]
  exact List.take_left' (List.length_append ..)

theorem take_overlay_behind {buffer before : Bytes} {offset : Nat}
    (there : buffer.take offset = before) (fits : offset ≤ buffer.length) :
    (overlay buffer offset data).take (offset + data.length) =
      before ++ data := by
  have size : (buffer.take offset ++ data).length = offset + data.length := by
    rw [List.length_append, List.length_take_of_le fits]
  rw [overlay, ← there]
  exact List.take_left' size

theorem length_overlay {buffer data : Bytes} {offset : Nat}
    (fits : offset + data.length ≤ buffer.length) :
    (overlay buffer offset data).length = buffer.length := by
  simp only [overlay, List.length_append, List.length_take, List.length_drop]
  omega

end Chttp.Lib
