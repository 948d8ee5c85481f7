import Chttp.H2.World

/-!
# Queueing frames

The output helpers of `chttp_h2_proto.c`: single frames, the connection
preface, GOAWAY and the failure of the connection, and header blocks cut into
HEADERS and CONTINUATION frames.  None of them makes a callback.  A Boolean
result is `true` where the source returns zero.
-/

namespace Chttp.H2

open Lib Hpack

variable (world : World)

/-- `out_frame`. -/
def outFrame (frame : Frame) : World × Bool :=
  if frame.streamId < 0 then
    (world, false)
  else
    match
      frameHeaderEncode
        { length := frame.payload.length
          type := frame.type.code
          flags := frame.flags
          streamId := frame.streamId.toNat }
    with
    | none => (world, false)
    | some header =>
      match world.proto.out.write (header ++ frame.payload) with
      | none => (world, false)
      | some out =>
        ((world.update fun proto => { proto with out }).note
          (.frame frame), true)

/-! ## The connection preface -/

/-- The settings `chttp_h2_proto_submit_settings` announces, in order. -/
def announcedSettings (proto : Proto) : List Setting :=
  let settings := proto.localSettings
  (match proto.mode with
    | .client => [{ id := 0x2, value := settings.enablePush }]
    | .server => []) ++
    [{ id := 0x3, value := settings.maxConcurrentStreams },
      { id := 0x1, value := settings.headerTableSize },
      { id := 0x4, value := settings.initialWindowSize },
      { id := 0x5, value := settings.maxFrameSize },
      { id := 0x6, value := settings.maxHeaderListSize }] ++
    if settings.enableConnectProtocol = 0 then
      []
    else
      [{ id := 0x8, value := 1 }]

/-- `chttp_h2_proto_submit_settings`. -/
def submitSettings : World × Bool :=
  match
    outFrame world
      { type := .settings
        flags := 0
        streamId := 0
        payload := frameSettingsEncode (announcedSettings world.proto) }
  with
  | (world, false) => (world, false)
  | (world, true) =>
    (world.update fun proto => { proto with settingsSent := true }, true)

variable (streamId : Int)

/--
`chttp_h2_proto_submit_window_update` behind its call of
`proto_ensure_preface`.  The credit stays granted when the frame does not fit.
-/
def grantWindow (increment : Nat) : World × Bool :=
  if streamId < 0 ∨ increment = 0 ∨ maxWindow < increment then
    (world, false)
  else
    match frameWindowUpdateEncode increment with
    | none => (world, false)
    | some payload =>
      let queue (world : World) : World × Bool := outFrame world
          { type := .windowUpdate, flags := 0, streamId, payload }
      if streamId = 0 then
        if (maxWindow : Int) - increment < world.proto.connRecvWindow then
          (world, false)
        else
          queue
            (world.update fun proto =>
              { proto with connRecvWindow := proto.connRecvWindow + increment })
      else
        match world.findOpen streamId with
        | none => (world, false)
        | some (slot, stream) =>
          if (maxWindow : Int) - increment < stream.recvWindow then
            (world, false)
          else
            queue
              (world.updateStream slot fun stream =>
                { stream with recvWindow := stream.recvWindow + increment })

/--
The announcement of both prefaces: SETTINGS, and credit when the local target
is larger than the default.  The nested call of `proto_ensure_preface` finds
its work done.
-/
def announce : World × Bool :=
  match submitSettings world with
  | (world, false) => (world, false)
  | (world, true) =>
    if (defaultWindow : Int) < world.proto.connLocalWindow then
      grantWindow world 0 (world.proto.connLocalWindow - defaultWindow).toNat
    else
      (world, true)

/-- `proto_ensure_preface`. -/
def ensurePreface : World × Bool :=
  match world.proto.mode with
  | .client =>
    if world.proto.clientPrefaceDone then
      (world, true)
    else if world.proto.out.reserve
      (prefaceLen + 2 * frameHeaderSize + 42 + 4) then
      match world.proto.out.write clientPreface with
      | none => (world, false)
      | some out =>
        announce
          ((world.update fun proto =>
            { proto with out, clientPrefaceDone := true }).note .preface)
    else
      (world, false)
  | .server =>
    if world.proto.serverPrefaceSeen ∧ ¬world.proto.settingsSent then
      announce world
    else
      (world, true)

/-- `chttp_h2_proto_submit_window_update`. -/
def submitWindowUpdate (increment : Nat) : World × Bool :=
  match ensurePreface world with
  | (world, false) => (world, false)
  | (world, true) => grantWindow world streamId increment

/-- `chttp_h2_proto_submit_ping`. -/
def submitPing (payload : Bytes) : World × Bool :=
  match ensurePreface world with
  | (world, false) => (world, false)
  | (world, true) =>
    outFrame world { type := .ping, flags := 0, streamId := 0, payload }

/-! ## GOAWAY and failure -/

/-- `chttp_h2_proto_submit_goaway`. -/
def submitGoaway (lastStreamId errorCode : Nat) : World × Bool :=
  if maxWindow < lastStreamId then
    (world, false)
  else
    match ensurePreface world with
    | (world, false) => (world, false)
    | (world, true) =>
      match frameGoawayEncode lastStreamId errorCode with
      | none => (world, false)
      | some payload =>
        match
          outFrame world
            { type := .goaway, flags := 0, streamId := 0, payload }
        with
        | (world, false) => (world, false)
        | (world, true) =>
          (world.update fun proto =>
            { proto with goawaySent := true, draining := true }, true)

/-- `proto_fail`. -/
def protoFail (error : ErrorCode) : World :=
  if world.proto.failed then
    world
  else
    let world := world.update fun proto =>
        { proto with failed := true, lastError := error.code }
    (submitGoaway world world.proto.lastProcStreamId.toNat error.code).1

/-! ## Header blocks -/

/--
The loop of `proto_header_bounds`: the bound on the encoded octets and the
size of the header list.
-/
def headerSizes (maxStringBytes : Nat) :
    List Entry → Nat → Nat → Option (Nat × Nat)
  | [], encoded, headerList => some (encoded, headerList)
  | field :: fields, encoded, headerList =>
    let fieldSize := field.name.length + field.value.length
    if maxStringBytes < field.name.length ∨
      maxStringBytes < field.value.length ∨
        sizeMax - field.value.length < field.name.length ∨
        sizeMax - 15 < fieldSize ∨
        sizeMax - (fieldSize + 15) < encoded ∨
        sizeMax - 32 < fieldSize ∨
        sizeMax - (fieldSize + 32) < headerList then
      none
    else
      headerSizes maxStringBytes fields (encoded + (fieldSize + 15))
        (headerList + (fieldSize + 32))

/--
`proto_header_bounds`: a bound on the header block and one on its frames.
-/
def headerBounds (proto : Proto) (headers : List Entry) (hasPriority : Bool) :
    Option (Nat × Nat) :=
  match headerSizes proto.config.maxHpackStringBytes headers 12 0 with
  | none => none
  | some (encoded, headerList) =>
    if proto.config.headerBlockBytes < encoded ∨
      proto.peer.maxHeaderListSize < headerList then
      none
    else
      let priority := if hasPriority then 5 else 0
      if sizeMax - priority < encoded then
        none
      else
        let payload := encoded + priority
        let frameCount :=
          if payload = 0 then
            1
          else
            1 + (payload - 1) / proto.peer.maxFrameSize
        if sizeMax / frameHeaderSize < frameCount ∨
            sizeMax - frameCount * frameHeaderSize < payload then
          none
        else
          some (encoded, payload + frameCount * frameHeaderSize)

/-- The frames of a header block; the flags are those of the first one. -/
def outHeaderFrames (streamId : Int) (firstFlags : UInt8) :
    Nat → FrameType → Bytes → World → World × Bool
  | 0, _, _, world => (world, true)
  | rounds + 1, type, block, world =>
    let maxFrameSize := world.proto.peer.maxFrameSize
    let rest := block.drop maxFrameSize
    let flags := (if type = .headers then firstFlags else 0) |||
        if rest = [] then flagEndHeaders else 0
    match
      outFrame world
        { type, flags, streamId, payload := block.take maxFrameSize }
    with
    | (world, false) =>
      (protoFail (world.note (.blockBroken streamId)) .internalError, false)
    | (world, true) =>
      if rest = [] then
        (world, true)
      else
        outHeaderFrames streamId firstFlags rounds .continuation rest world

/-- The priority fields of a request. -/
structure Priority where
  weight : Nat
  depStreamId : Int
  exclusive : Bool
deriving DecidableEq

/-- Put the priority fields in front of a header block. -/
def addPriority (block : Buffer) : Option Priority → Option Bytes
  | none => some block.data
  | some priority =>
    if block.reserve 5 then
      match
        framePriorityEncode priority.exclusive priority.depStreamId
          priority.weight
      with
      | none => none
      | some octets => some (octets ++ block.data)
    else
      none

/-- `out_headers`. -/
def outHeaders (headers : List Entry) (endStream : Bool)
    (priority : Option Priority) :
    World × Bool :=
  match headerBounds world.proto headers priority.isSome with
  | none => (world, false)
  | some (encodedBound, wireBound) =>
    if world.proto.out.reserve wireBound then
      match
        Buffer.init (min encodedBound 256) world.proto.config.headerBlockBytes
      with
      | none => (world, false)
      | some empty =>
        match Hpack.encode world.proto.hpack empty headers with
        | (hpack, none) =>
          (protoFail
            ((world.update fun proto => { proto with hpack }).note
              (.blockBroken streamId))
            .internalError, false)
        | (hpack, some encoded) =>
          let world := world.update fun proto => { proto with hpack }
          match addPriority encoded priority with
          | none => (world, false)
          | some block =>
            outHeaderFrames streamId
              ((if endStream then flagEndStream else 0) |||
                if priority.isSome then flagPriority else 0)
              (block.length + 1) .headers block world
    else
      (world, false)

end Chttp.H2
