import Chttp.Lib.Bytes

/-!
# UTF-8

A machine reads octets one by one and refuses the first one which no text in
UTF-8 goes on with: overlong forms, surrogates and numbers above `10FFFF` are
ruled out by the range of the octet behind the first one.
-/

namespace Chttp.Lib

/-- What the octets read so far still ask for. -/
inductive Utf8State where
  /-- Nothing: they end a character. -/
  | start
  | oneMore
  | twoMore
  | threeMore
  | afterE0
  | afterED
  | afterF0
  | afterF4
  deriving DecidableEq, Repr

namespace Utf8State

/-- The state behind the first octet of a character. -/
def first (octet : UInt8) : Option Utf8State :=
  if octet ≤ 0x7F then some .start
  else if 0xC2 ≤ octet ∧ octet ≤ 0xDF then some .oneMore
  else if octet = 0xE0 then some .afterE0
  else if octet = 0xED then some .afterED
  else if 0xE1 ≤ octet ∧ octet ≤ 0xEF then some .twoMore
  else if octet = 0xF0 then some .afterF0
  else if 0xF1 ≤ octet ∧ octet ≤ 0xF3 then some .threeMore
  else if octet = 0xF4 then some .afterF4
  else none

/-- Go on where the octet is in a range. -/
def within (low high octet : UInt8) (next : Utf8State) : Option Utf8State :=
  if low ≤ octet ∧ octet ≤ high then some next else none

/-- Read one octet. -/
def step (state : Utf8State) (octet : UInt8) : Option Utf8State :=
  match state with
  | .start => first octet
  | .oneMore => within 0x80 0xBF octet .start
  | .twoMore => within 0x80 0xBF octet .oneMore
  | .threeMore => within 0x80 0xBF octet .twoMore
  | .afterE0 => within 0xA0 0xBF octet .oneMore
  | .afterED => within 0x80 0x9F octet .oneMore
  | .afterF0 => within 0x90 0xBF octet .twoMore
  | .afterF4 => within 0x80 0x8F octet .twoMore

end Utf8State

/-- The character of a number in UTF-8. -/
def utf8Octets (code : Nat) : Bytes :=
  if code < 0x80 then
    [UInt8.ofNat code]
  else if code < 0x800 then
    [UInt8.ofNat (0xC0 + code / 64), UInt8.ofNat (0x80 + code % 64)]
  else if code < 0x10000 then
    [UInt8.ofNat (0xE0 + code / 4096), UInt8.ofNat (0x80 + code / 64 % 64),
      UInt8.ofNat (0x80 + code % 64)]
  else
    [UInt8.ofNat (0xF0 + code / 262144), UInt8.ofNat (0x80 + code / 4096 % 64),
      UInt8.ofNat (0x80 + code / 64 % 64), UInt8.ofNat (0x80 + code % 64)]

end Chttp.Lib
