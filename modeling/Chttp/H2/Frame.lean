import Chttp.Lib.Bytes

/-!
# HTTP/2 frames

The codec of `chttp_h2_frame.c`.  Readers take the octets from a position on;
their callers have checked how many there are, as in the source.  `none` is
an error code of the source.
-/

namespace Chttp.H2

open Lib

/-- `chttp_h2_frame_type`. -/
inductive FrameType where
  | data
  | headers
  | priority
  | rstStream
  | settings
  | pushPromise
  | ping
  | goaway
  | windowUpdate
  | continuation
deriving DecidableEq

/-- The octet of a frame type. -/
def FrameType.code : FrameType → UInt8
  | .data => 0
  | .headers => 1
  | .priority => 2
  | .rstStream => 3
  | .settings => 4
  | .pushPromise => 5
  | .ping => 6
  | .goaway => 7
  | .windowUpdate => 8
  | .continuation => 9

/-- The frame type of an octet; unknown types are `none`. -/
def FrameType.ofCode (code : UInt8) : Option FrameType :=
  [FrameType.data, .headers, .priority, .rstStream, .settings, .pushPromise,
    .ping, .goaway, .windowUpdate, .continuation][code.toNat]?

/-- `CHTTP_H2_FLAG_END_STREAM`. -/
def flagEndStream : UInt8 := 0x01

/-- `CHTTP_H2_FLAG_ACK`. -/
def flagAck : UInt8 := 0x01

/-- `CHTTP_H2_FLAG_END_HEADERS`. -/
def flagEndHeaders : UInt8 := 0x04

/-- `CHTTP_H2_FLAG_PADDED`. -/
def flagPadded : UInt8 := 0x08

/-- `CHTTP_H2_FLAG_PRIORITY`. -/
def flagPriority : UInt8 := 0x20

/-- The test `(flags & flag) != 0`. -/
def hasFlag (flags flag : UInt8) : Bool := flags &&& flag != 0

/-- `CHTTP_H2_FRAME_HEADER_SIZE`. -/
def frameHeaderSize : Nat := 9

/-- `CHTTP_H2_MAX_FRAME_BYTES`. -/
def maxFrameBytes : Nat := 0x00ffffff

/-- `chttp_h2_read_u24`. -/
def readU24 : Bytes → Nat
  | a :: b :: c :: _ => (a.toNat * 256 + b.toNat) * 256 + c.toNat
  | _ => 0

/-- `chttp_h2_read_u32`. -/
def readU32 : Bytes → Nat
  | a :: b :: c :: d :: _ =>
    ((a.toNat * 256 + b.toNat) * 256 + c.toNat) * 256 + d.toNat
  | _ => 0

/-- `chttp_h2_write_u24`. -/
def writeU24 (value : Nat) : Bytes :=
  [UInt8.ofNat (value / 2 ^ 16), UInt8.ofNat (value / 2 ^ 8), UInt8.ofNat value]

/-- `chttp_h2_write_u32`. -/
def writeU32 (value : Nat) : Bytes :=
  [UInt8.ofNat (value / 2 ^ 24), UInt8.ofNat (value / 2 ^ 16),
    UInt8.ofNat (value / 2 ^ 8), UInt8.ofNat value]

/-! ## Frame headers -/

/-- `chttp_h2_frame_header`. -/
structure FrameHeader where
  length : Nat
  type : UInt8
  flags : UInt8
  streamId : Nat
deriving DecidableEq

/-- `chttp_h2_frame_header_encode`. -/
def frameHeaderEncode (header : FrameHeader) : Option Bytes :=
  if maxFrameBytes < header.length ∨ 2 ^ 31 ≤ header.streamId then
    none
  else
    some (writeU24 header.length ++ [header.type, header.flags] ++
      writeU32 header.streamId)

/-- `chttp_h2_frame_header_decode`. -/
def frameHeaderDecode (input : Bytes) (maxFrameSize : Nat) :
    Option FrameHeader :=
  if input.length < frameHeaderSize then
    none
  else
    let length := readU24 input
    if maxFrameSize < length then
      none
    else
      some
        { length
          type := input.getD 3 0
          flags := input.getD 4 0
          streamId := readU32 (input.drop 5) % 2 ^ 31 }

/-! ## Payloads -/

variable (payload : Bytes)

/-- `chttp_h2_frame_data_payload`. -/
def frameDataPayload (flags : UInt8) : Option Bytes :=
  if hasFlag flags flagPadded then
    match payload with
    | [] => none
    | padding :: rest =>
      if rest.length < padding.toNat then
        none
      else
        some (rest.take (rest.length - padding.toNat))
  else
    some payload

/--
`chttp_h2_frame_headers_payload`: the header block.  Padding is stripped as
for DATA; the engine does not use the priority fields.
-/
def frameHeadersPayload (flags : UInt8) : Option Bytes :=
  match frameDataPayload payload flags with
  | none => none
  | some rest =>
    if hasFlag flags flagPriority then
      if rest.length < 5 then none else some (rest.drop 5)
    else
      some rest

/-- One identifier and value of a SETTINGS frame. -/
structure Setting where
  id : Nat
  value : Nat
deriving DecidableEq

/--
`chttp_h2_frame_settings_encode`; the engine's buffer of 42 octets holds all
the seven settings it can announce.
-/
def frameSettingsEncode (settings : List Setting) : Bytes :=
  settings.flatMap fun setting =>
    [UInt8.ofNat (setting.id / 2 ^ 8), UInt8.ofNat setting.id] ++
      writeU32 setting.value

/-- The loop of `chttp_h2_frame_settings_parse`. -/
def readSettings : Nat → Bytes → List Setting
  | 0, _ => []
  | count + 1, payload =>
    { id := (payload.getD 0 0).toNat * 256 + (payload.getD 1 0).toNat
      value := readU32 (payload.drop 2) } ::
      readSettings count (payload.drop 6)

/-- `chttp_h2_frame_settings_parse`. -/
def frameSettingsParse (maxCount : Nat) : Option (List Setting) :=
  if payload.length % 6 ≠ 0 then
    none
  else if maxCount < payload.length / 6 then
    none
  else
    some (readSettings (payload.length / 6) payload)

/-- `chttp_h2_frame_rst_encode`. -/
def frameRstEncode (errorCode : Nat) : Bytes := writeU32 errorCode

/-- `chttp_h2_frame_goaway_encode`. -/
def frameGoawayEncode (lastStreamId errorCode : Nat) : Option Bytes :=
  if 2 ^ 31 ≤ lastStreamId then
    none
  else
    some (writeU32 lastStreamId ++ writeU32 errorCode)

/-- `chttp_h2_frame_goaway_parse`: last stream identifier and error code. -/
def frameGoawayParse : Option (Nat × Nat) :=
  if payload.length < 8 then
    none
  else
    some (readU32 payload % 2 ^ 31, readU32 (payload.drop 4))

/-- `chttp_h2_frame_window_update_encode`. -/
def frameWindowUpdateEncode (increment : Nat) : Option Bytes :=
  if increment = 0 ∨ 2 ^ 31 ≤ increment then
    none
  else
    some (writeU32 increment)

/-- `chttp_h2_frame_priority_encode`; the dependency is an `int32_t`. -/
def framePriorityEncode (exclusive : Bool) (dependency : Int) (weight : Nat) :
    Option Bytes :=
  if weight = 0 ∨ 256 < weight ∨ dependency < 0 ∨ 2 ^ 31 ≤ dependency then
    none
  else
    some
      (writeU32 (dependency.toNat + if exclusive then 2 ^ 31 else 0) ++
        [UInt8.ofNat (weight - 1)])

end Chttp.H2
