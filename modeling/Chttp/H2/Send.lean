import Chttp.H2.Submit

/-!
# The send path

`proto_emit_data` moves what a stream has to send into the output, one DATA
frame a round, and `chttp_h2_proto_send` does so for every stream and hands
the output to the transport.
-/

namespace Chttp.H2

open Lib Hpack

variable (hook : Hook) (world : World) (slot : Nat) (stream : Stream)

/-- The caps on a DATA payload: the send chunk and both windows. -/
def capChunk (proto : Proto) (stream : Stream) (chunk : Nat) : Nat :=
  let chunk := if proto.sendChunk = 0 then chunk else min chunk proto.sendChunk
  min (min chunk proto.connSendWindow.toNat) stream.sendWindow.toNat

/-- Take octets which were queued out of both send windows. -/
def spendWindows (slot size : Nat) : World :=
  (world.update fun proto =>
    { proto with connSendWindow := proto.connSendWindow - size }).updateStream
    slot fun stream => { stream with sendWindow := stream.sendWindow - size }

/-- A DATA frame. -/
def dataFrame (flags : UInt8) (streamId : Int) (payload : Bytes) : Frame where
  type := .data
  flags
  streamId
  payload

/-- Record that END_STREAM was queued and that the body is gone. -/
def Stream.endBody (stream : Stream) : Stream :=
  { stream.dropBody with bodyEof := false, endStreamSent := true }

/-- The empty DATA frame which ends an empty body. -/
def emitEmpty (room : Nat) : World :=
  if room < frameHeaderSize then
    world
  else
    match outFrame world (dataFrame flagEndStream stream.id []) with
    | (world, false) => protoFail world .internalError
    | (world, true) =>
      maybeClose hook (world.updateStream slot Stream.endBody) slot

/-- Ask the source of a stream; a source without a script waits. -/
def pullSource (limit room : Nat) : World × Pull :=
  match world.pulls with
  | [] =>
    let pull : Pull := { status := .wait, octets := [] }
    (world.note (.pulled stream.id pull limit room), pull)
  | pull :: pulls =>
    (({ world with pulls } : World).note
      (.pulled stream.id pull limit room), pull)

/-- Give up the source of a stream. -/
def dropSource : World :=
  world.updateStream slot fun stream => { stream with source := false }

/--
The part of a round which serves a streaming source, with the octets which
fit a frame.  The second component says whether there is another round.
-/
def emitSource (room limit : Nat) : World × Bool :=
  let chunk := capChunk world.proto stream limit
  if stream.sourceDone ∨ chunk = 0 then
    (world, false)
  else if ¬world.proto.out.reserve (frameHeaderSize + chunk) then
    (protoFail world .internalError, false)
  else
    let (world, pull) := pullSource world stream chunk room
    let size := pull.octets.length
    match pull.status with
    | .wait =>
      if size ≠ 0 then
        (protoFail (dropSource world slot) .internalError, false)
      else
        (world.updateStream slot fun stream =>
          { stream with sourceWaiting := true }, false)
    | .error =>
      ((submitRstStream hook
        (dropSource world slot) stream.id ErrorCode.cancel.code).1, false)
    | .data =>
      if size = 0 ∨ chunk < size then
        (protoFail (dropSource world slot) .internalError, false)
      else
        match outFrame world (dataFrame 0 stream.id pull.octets) with
        | (world, false) => (protoFail world .internalError, false)
        | (world, true) => (spendWindows world slot size, true)
    | .eof =>
      if size ≠ 0 then
        (protoFail (dropSource world slot) .internalError, false)
      else
        let world := (dropSource world slot).updateStream slot fun stream =>
            { stream with sourceDone := true }
        match outFrame world (dataFrame flagEndStream stream.id []) with
        | (world, false) => (protoFail world .internalError, false)
        | (world, true) =>
          (maybeClose hook
            (world.updateStream slot fun stream =>
              { stream with endStreamSent := true })
            slot, false)
    | .other => (protoFail (dropSource world slot) .internalError, false)

/-- Queue the trailer block behind the last DATA frame. -/
def emitTrailers : World × Bool :=
  let world := world.updateStream slot fun stream =>
      { stream with trailersPending := false }
  match
    outFrame world
      { type := .headers
        flags := flagEndHeaders ||| flagEndStream
        streamId := stream.id
        payload := stream.trailers }
  with
  | (world, false) => (protoFail world .internalError, false)
  | (world, true) =>
    (maybeClose hook
      (world.updateStream slot fun stream =>
        { stream.endBody with trailers := [] })
      slot, true)

/--
The part of a round which serves a flat body.  The last branch of the source,
for a final frame which could not carry END_STREAM, is never taken: the flag
is set under the same conditions.
-/
def emitFlat (limit : Nat) : World × Bool :=
  let chunk := capChunk world.proto stream
    (min (stream.bodyLen - stream.bodyOff) limit)
  if ¬stream.bodyPending ∨ chunk = 0 then
    (world, false)
  else
    let final : Bool := stream.bodyOff + chunk = stream.bodyLen
    let ends : Bool := final && stream.bodyEof && !stream.trailersPending
    let payload := ((stream.body.getD []).drop stream.bodyOff).take chunk
    match
      outFrame world
        (dataFrame (if ends then flagEndStream else 0) stream.id payload)
    with
    | (world, false) => (protoFail world .internalError, false)
    | (world, true) =>
      let world :=
        (spendWindows world slot chunk).updateStream slot fun stream =>
          { stream with bodyOff := stream.bodyOff + chunk }
      if ¬final then
        (maybeClose hook world slot, true)
      else if ¬stream.bodyEof then
        (maybeClose hook (world.updateStream slot Stream.dropBody) slot, true)
      else if stream.trailersPending then
        emitTrailers hook world slot stream
      else
        (maybeClose hook (world.updateStream slot Stream.endBody) slot, true)

/-- One round of `proto_emit_data`; whether another one follows. -/
def emitRound : World × Bool :=
  match world.stream? slot with
  | none => (world, false)
  | some stream =>
    let capacity := world.proto.config.outputBufferBytes
    if stream.closed then
      (world, false)
    else if capacity < world.proto.out.size then
      (protoFail world .internalError, false)
    else
      let room := capacity - world.proto.out.size
      if ¬stream.source ∧ stream.body = some [] ∧ stream.bodyOff = 0 ∧
        stream.bodyEof then
        (emitEmpty hook world slot stream room, false)
      else if world.proto.connSendWindow ≤ 0 ∨ stream.sendWindow ≤ 0 then
        (world, false)
      else if room ≤ frameHeaderSize then
        (world, false)
      else
        let limit := min world.proto.peer.maxFrameSize (room - frameHeaderSize)
        if stream.source then
          emitSource hook world slot stream room limit
        else
          emitFlat hook world slot stream limit

/-- The loop of `proto_emit_data`. -/
def emitLoop (hook : Hook) (slot : Nat) : Nat → World → World
  | 0, world => world
  | rounds + 1, world =>
    match emitRound hook world slot with
    | (world, false) => world
    | (world, true) => emitLoop hook slot rounds world

/--
`proto_emit_data`.  Each round but the last takes an octet at least out of the
connection window, which nothing enlarges meanwhile.
-/
def emitData (world : World) : World :=
  emitLoop hook slot (world.proto.connSendWindow.toNat + 1) world

/-- `chttp_h2_proto_send`: the octets handed out are written to the log. -/
def send : World × Bool :=
  match ensurePreface world with
  | (world, false) => (world, false)
  | (world, true) =>
    let world :=
      if world.proto.failed then
        world
      else
        visitSlots (emitData hook) world
    ((world.update fun proto => { proto with out := proto.out.clear }).note
      (.flushed world.proto.out.data), true)

end Chttp.H2
