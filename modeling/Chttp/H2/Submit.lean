import Chttp.H2.Output

/-!
# Submissions

The functions of `chttp_h2_proto.c` by which an application opens streams,
hands over messages, grants credit and resets streams.  Streams are named by
their slot, as the source names them by a pointer into its table, so that a
slot which a callback has given to another stream is seen as the source sees
it.
-/

namespace Chttp.H2

open Lib Hpack

variable (hook : Hook) (world : World)

/-- The loop over the slots of the stream table, whose end is read anew. -/
def forSlots (visit : Nat → World → World) : Nat → Nat → World → World
  | 0, _, world => world
  | rounds + 1, slot, world =>
    if slot < world.proto.streams.length then
      forSlots visit rounds (slot + 1) (visit slot world)
    else
      world

/-- Visit every slot; the table never outgrows its capacity. -/
def visitSlots (visit : Nat → World → World) (world : World) : World :=
  forSlots visit world.proto.streamCap 0 world

/-! ## Opening and closing streams -/

/-- `proto_new_stream`. -/
def openStream (id : Int) : Option (World × Nat) :=
  match world.proto.newStream id with
  | none => none
  | some (proto, slot) =>
    some (({ world with proto } : World).note (.opened id), slot)

/-- `proto_local_reset_record`. -/
def recordReset (id : Int) : World :=
  if id ≤ 0 ∨ world.proto.localResetContains id then
    world
  else
    (world.update fun proto => proto.localResetRecord id).note
      (.resetRecorded id
        (world.proto.localResetIds.getD world.proto.localResetCursor 0))

/-- `proto_local_reset_forget`, which does nothing to an unknown stream. -/
def forgetReset (id : Int) : World :=
  if world.proto.localResetContains id then
    (world.update fun proto => proto.localResetForget id).note
      (.resetForgotten id)
  else
    world

variable (slot : Nat)

/--
Clear the reset flag in a slot and forget the stream of the frame at hand,
whose slot it was.
-/
def settleReset (id : Int) : World :=
  match world.stream? slot with
  | none => world
  | some stream =>
    forgetReset
      ((world.updateStream slot fun stream =>
        { stream with localReset := false }).note
        (.resetCleared stream.id id))
      id

/-- Mark the stream in a slot closed. -/
def markClosed (id : Int) (cause : CloseCause) (change : Stream → Stream) :
    World :=
  (world.updateStream slot fun stream =>
    { change stream with closed := true }).note (.closed id cause)

/-- `proto_maybe_close`. -/
def maybeClose : World :=
  match world.stream? slot with
  | none => world
  | some stream =>
    if ¬stream.closed ∧ stream.endStreamSent ∧ stream.remoteEndStream then
      (callback hook (.streamClose stream.id ErrorCode.noError.code)
        (markClosed world slot stream.id .ended Stream.dropBody)).1
    else
      world

variable (streamId : Int)

/-- `chttp_h2_proto_submit_rst_stream`. -/
def submitRstStream (errorCode : Nat) : World × Bool :=
  if streamId ≤ 0 then
    (world, false)
  else
    match ensurePreface world with
    | (world, false) => (world, false)
    | (world, true) =>
      match world.findOpen streamId with
      | none => (world, false)
      | some (slot, _) =>
        match
          outFrame world
            { type := .rstStream, flags := 0, streamId,
              payload := frameRstEncode errorCode }
        with
        | (world, false) => (world, false)
        | (world, true) =>
          let world := recordReset
              (markClosed world slot streamId .localReset fun stream =>
                { stream.dropBody.dropTrailers with localReset := true })
              streamId
          ((callback hook (.streamClose streamId errorCode) world).1, true)

/-! ## Requests and responses -/

/-- Whether a message ends with its header block. -/
def Body.isEmpty : Body → Bool
  | .flat octets => octets.isEmpty
  | .source => false

/-- Hand a message's body to its stream. -/
def attachBody (body : Body) (stream : Stream) : Stream :=
  match body with
  | .source => { stream with source := true }
  | .flat octets =>
    if octets.isEmpty then
      stream
    else
      { stream with body := some octets, bodyOff := 0, bodyEof := true }

/-- Give up the stream of a request whose header block was not queued. -/
def dropRequest (id : Int) : World :=
  markClosed world slot id .dropped fun stream =>
    { stream with body := none, source := false }

variable (headers : List Entry) (endStream : Bool)

/--
The part which both ways of opening a request share: a new stream and its
header block.  The Boolean says whether the header block ends the stream.
-/
def openRequest (priority : Option Priority) : World × Option (Nat × Int) :=
  let id := world.proto.nextStreamId
  let world := world.update fun proto =>
      { proto with nextStreamId := proto.nextStreamId + 2 }
  match openStream world id with
  | none => (world, none)
  | some (world, slot) =>
    let world := world.updateStream slot fun stream =>
        { stream with endStreamSent := endStream }
    match outHeaders world id headers endStream priority with
    | (world, false) => (dropRequest world slot id, none)
    | (world, true) => (world, some (slot, id))

/-- The checks which both ways of opening a request make first. -/
def mayRequest (proto : Proto) : Bool :=
  proto.mode = .client ∧ ¬proto.draining ∧ ¬proto.failed ∧
    proto.activeLocalStreams < proto.peer.maxConcurrentStreams

/-- `chttp_h2_proto_submit_request_ex`. -/
def submitRequestEx (body : Body) (weight : Nat) (depStreamId : Int)
    (exclusive : Bool) :
    World × Bool :=
  if ¬mayRequest world.proto ∨ 256 < weight ∨
    0x7ffffffe < world.proto.nextStreamId ∨
      depStreamId = world.proto.nextStreamId then
    (world, false)
  else
    match ensurePreface world with
    | (world, false) => (world, false)
    | (world, true) =>
      let priority : Option Priority :=
        if weight ≠ 0 ∨ 0 < depStreamId ∨ exclusive then
          some
            { weight := if weight ≠ 0 then weight else 16
              depStreamId
              exclusive }
        else
          none
      match openRequest world headers body.isEmpty priority with
      | (world, none) => (world, false)
      | (world, some (slot, id)) =>
        ((world.updateStream slot (attachBody body)).note
          (.submitted id (.message body)), true)

/-- `chttp_h2_proto_submit_request_headers`. -/
def submitRequestHeaders : World × Bool :=
  if ¬mayRequest world.proto ∨ 0x7ffffffe < world.proto.nextStreamId then
    (world, false)
  else
    match ensurePreface world with
    | (world, false) => (world, false)
    | (world, true) =>
      match openRequest world headers endStream none with
      | (world, none) => (world, false)
      | (world, some (_, id)) =>
        (world.note (.submitted id (.headers endStream)), true)

/-- `chttp_h2_proto_submit_headers`. -/
def submitHeaders : World × Bool :=
  if world.proto.mode ≠ .server then
    (world, false)
  else
    match world.findOpen streamId with
    | none => (world, false)
    | some (slot, _) =>
      match ensurePreface world with
      | (world, false) => (world, false)
      | (world, true) =>
        match outHeaders world streamId headers endStream none with
        | (world, false) => (world, false)
        | (world, true) =>
          let world := world.note (.submitted streamId (.headers endStream))
          if endStream then
            (maybeClose hook
              (world.updateStream slot fun stream =>
                { stream with endStreamSent := true })
              slot, true)
          else
            (world, true)

/-- `chttp_h2_proto_submit_response_ex`. -/
def submitResponseEx (body : Body) : World × Bool :=
  if world.proto.mode ≠ .server then
    (world, false)
  else
    match world.findOpen streamId with
    | none => (world, false)
    | some (slot, _) =>
      match ensurePreface world with
      | (world, false) => (world, false)
      | (world, true) =>
        let world := world.updateStream slot fun stream =>
            { stream with endStreamSent := body.isEmpty }
        match outHeaders world streamId headers body.isEmpty none with
        | (world, false) => (world, false)
        | (world, true) =>
          let world := (world.updateStream slot (attachBody body)).note
              (.submitted streamId (.message body))
          if body.isEmpty then
            (maybeClose hook world slot, true)
          else
            (world, true)

/-- `chttp_h2_proto_submit_data`. -/
def submitData (data : Bytes) (endStream : Bool) : World × Bool :=
  if data = [] ∧ ¬endStream then
    (world, false)
  else
    match world.findOpen streamId with
    | none => (world, false)
    | some (slot, stream) =>
      if stream.body.isSome ∨ stream.source ∨ stream.endStreamSent then
        (world, false)
      else
        match ensurePreface world with
        | (world, false) => (world, false)
        | (world, true) =>
          ((world.updateStream slot fun stream =>
            { stream with
              body := some data, bodyOff := 0, bodyEof := endStream }).note
            (.submitted streamId (.data data endStream)), true)

/-- Encode a trailer block which waits for the end of the body. -/
def queueTrailers (streamId : Int) (headers : List Entry) : World × Bool :=
  let limit := world.proto.config.headerBlockBytes
  match Buffer.init (min limit 64) limit with
  | none => (world, false)
  | some empty =>
    match Hpack.encode world.proto.hpack empty headers with
    | (hpack, none) =>
      ((world.update fun proto => { proto with hpack }).updateStream slot
        fun stream => { stream with trailers := [] }, false)
    | (hpack, some block) =>
      (((world.update fun proto => { proto with hpack }).updateStream slot
        fun stream =>
          { stream with trailers := block.data, trailersPending := true }).note
        (.submitted streamId .trailers), true)

/-- `chttp_h2_proto_submit_trailers`. -/
def submitTrailers : World × Bool :=
  if world.proto.mode ≠ .server then
    (world, false)
  else
    match world.findOpen streamId with
    | none => (world, false)
    | some (slot, stream) =>
      match ensurePreface world with
      | (world, false) => (world, false)
      | (world, true) =>
        if stream.trailersPending then
          (world, false)
        else if stream.bodyPending then
          queueTrailers world slot streamId headers
        else
          let world := world.updateStream slot fun stream =>
              { stream with endStreamSent := true, bodyEof := false }
          match outHeaders world streamId headers true none with
          | (world, false) => (world, false)
          | (world, true) =>
            (maybeClose hook (world.note (.submitted streamId .trailers)) slot,
              true)

/-! ## Receive credit -/

/-- `chttp_h2_proto_consume_connection`. -/
def consumeConnection (bytes : Nat) : World × Bool :=
  if bytes = 0 ∨ maxWindow < bytes then
    (world, false)
  else if (maxWindow : Int) - bytes < world.proto.connConsumed then
    (world, false)
  else
    let consumed := world.proto.connConsumed + bytes
    if 0 < consumed ∧ world.proto.connLocalWindow / 2 ≤ consumed then
      submitWindowUpdate
        (world.update fun proto => { proto with connConsumed := 0 })
        0 consumed.toNat
    else
      (world.update fun proto => { proto with connConsumed := consumed },
        true)

/-- `chttp_h2_proto_consume_stream`. -/
def consumeStream (bytes : Nat) : World × Bool :=
  if bytes = 0 ∨ maxWindow < bytes then
    (world, false)
  else
    match world.findOpen streamId with
    | none => (world, false)
    | some _ => submitWindowUpdate world streamId bytes

/-! ## Other calls -/

/-- `chttp_h2_proto_resume_source`. -/
def resumeSource : World × Bool :=
  match world.findOpen streamId with
  | none => (world, false)
  | some (slot, stream) =>
    if stream.source ∧ stream.sourceWaiting ∧ ¬stream.sourceDone then
      ((callback hook .wakeWrite
        (world.updateStream slot fun stream =>
          { stream with sourceWaiting := false })).1, true)
    else
      (world, false)

/-- `chttp_h2_proto_set_local_settings`. -/
def setLocalSettings
    (headerTableSize enablePush maxConcurrentStreams initialWindowSize
      maxFrameSize
      maxHeaderListSize : Nat) : World × Bool :=
  let config := world.proto.config
  if world.proto.settingsSent ∨
    config.hpackDynamicTableBytes < headerTableSize ∨ 1 < enablePush ∨
      maxConcurrentStreams = 0 ∨
      config.streamCapacity < maxConcurrentStreams ∨
      maxWindow < initialWindowSize ∨
      maxFrameSize < defaultFrameBytes ∨
      maxFrameBytes < maxFrameSize ∨
      config.inputBufferBytes - frameHeaderSize < maxFrameSize ∨
      maxHeaderListSize = 0 ∨
      config.maxHeaderListBytes < maxHeaderListSize then
    (world, false)
  else
    match decoderSetMaxSize world.proto.hpack headerTableSize with
    | none => (world, false)
    | some hpack =>
      (world.update fun proto =>
        { proto with
          hpack
          localSettings :=
            { proto.localSettings with
              headerTableSize
              enablePush
              maxConcurrentStreams
              initialWindowSize
              maxFrameSize
              maxHeaderListSize } }, true)

/-- `chttp_h2_proto_terminate`. -/
def terminate (errorCode : Nat) : World × Bool :=
  match
    submitGoaway world world.proto.lastProcStreamId.toNat errorCode
  with
  | (world, false) => (world, false)
  | (world, true) =>
    let visit (slot : Nat) (world : World) : World :=
      match world.stream? slot with
      | none => world
      | some stream =>
        if stream.closed then
          world
        else
          (callback hook (.streamClose stream.id errorCode)
            (markClosed world slot stream.id .terminated Stream.dropBody)).1
    (visitSlots visit world, true)

end Chttp.H2
