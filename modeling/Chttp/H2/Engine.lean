import Chttp.H2.Receive

/-!
# Engines and their runs

An `Engine` is a world together with the input buffer.  It takes octets from
the transport, resumes input which a DATA callback has paused, and serves the
calls of the application; a run is any sequence of these.
-/

namespace Chttp.H2

open Lib Hpack

/-! ## The application -/

/-- A call of the application; whether it succeeded. -/
def perform (hook : Hook) (world : World) : Call → World × Bool
  | .setSendChunk chunk =>
    (world.update fun proto => { proto with sendChunk := chunk }, true)
  | .setLocalSettings headerTableSize enablePush maxConcurrentStreams
      initialWindowSize maxFrameSize maxHeaderListSize =>
      setLocalSettings world headerTableSize.toNat enablePush.toNat
        maxConcurrentStreams.toNat initialWindowSize.toNat
        maxFrameSize.toNat maxHeaderListSize.toNat
  | .setLocalEnableConnectProtocol enable =>
    (world.update fun proto =>
      { proto with
        localSettings :=
          { proto.localSettings with
            enableConnectProtocol := if enable = 0 then 0 else 1 } }, true)
  | .submitRequestEx headers body weight depStreamId exclusive =>
    submitRequestEx world headers body weight.toNat depStreamId exclusive
  | .submitRequestHeaders headers endStream =>
    submitRequestHeaders world headers endStream
  | .submitHeaders streamId headers endStream =>
    submitHeaders hook world streamId headers endStream
  | .submitResponseEx streamId headers body =>
    submitResponseEx hook world streamId headers body
  | .submitData streamId data endStream =>
    submitData world streamId data endStream
  | .submitTrailers streamId headers =>
    submitTrailers hook world streamId headers
  | .submitSettings => submitSettings world
  | .submitPing payload => submitPing world payload.toList
  | .submitWindowUpdate streamId increment =>
    submitWindowUpdate world streamId increment.toNat
  | .submitRstStream streamId errorCode =>
    submitRstStream hook world streamId errorCode.toNat
  | .submitGoaway lastStreamId errorCode =>
    submitGoaway world lastStreamId.toNat errorCode.toNat
  | .resumeSource streamId => resumeSource hook world streamId
  | .send => send hook world
  | .consumeConnection bytes => consumeConnection world bytes
  | .consumeStream streamId bytes => consumeStream world streamId bytes
  | .terminate errorCode => terminate hook world errorCode.toNat

/-- A call with its entry in the log. -/
def apiCall (hook : Hook) (world : World) (call : Call) : World :=
  let (world, succeeded) := perform hook world call
  world.note (.called call succeeded)

/-- The next reply; behind the script, callbacks do nothing and return `0`. -/
def takeReply (world : World) : World × Reply :=
  match world.script with
  | [] => (world, { calls := [], result := 0 })
  | reply :: script => ({ world with script }, reply)

/--
The application, with a bound on how deep callbacks nest.  Each callback takes
a reply, so a script cannot nest deeper than it is long.
-/
def application : Nat → Hook
  | 0, event, world =>
    let (world, reply) := takeReply world
    (world.note (.returned event reply.result), reply.result)
  | depth + 1, event, world =>
    let (world, reply) := takeReply world
    let world := reply.calls.foldl (apiCall (application depth)) world
    (world.note (.returned event reply.result), reply.result)

/-! ## Engines -/

/-- An engine, its input buffer, and the bound on the nesting of callbacks. -/
@[ext]
structure Engine where
  world : World
  inbuf : Buffer
  depth : Nat

/-- The state `chttp_h2_proto_create` builds from its buffers. -/
def initialProto (mode : Mode) (config : Config) (cbs : Callbacks)
    (hpack : HpackContext) (out inBlock : Buffer) : Proto where
  mode
  cbs
  config
  hpack
  localSettings :=
    { headerTableSize := min config.hpackDynamicTableBytes 4096
      enablePush := 0
      maxConcurrentStreams := min config.streamCapacity uint32Max
      initialWindowSize :=
        if config.localInitialWindowSize = 0 then
          defaultWindow
        else
          config.localInitialWindowSize
      maxFrameSize := 16384
      maxHeaderListSize := config.maxHeaderListBytes
      enableConnectProtocol := 0 }
  peer :=
    { headerTableSize := 4096
      enablePush := 0
      maxConcurrentStreams := 0x7fffffff
      initialWindowSize := 65535
      maxFrameSize := 16384
      maxHeaderListSize := 0x7fffffff
      enableConnectProtocol := 0 }
  peerSettingsReceived := false
  settingsSent := false
  settingsAcked := false
  streams := []
  streamCap := config.streamCapacity
  localResetIds := List.replicate config.streamCapacity 0
  localResetCursor := 0
  nextStreamId :=
    match mode with
    | .client => 1
    | .server => 2
  maxPeerStreamId := 0
  lastProcStreamId := 0
  goawaySent := false
  goawayReceivedLast := -1
  goawayReceivedError := 0
  draining := false
  connSendWindow := defaultWindow
  connRecvWindow := defaultWindow
  connConsumed := 0
  connLocalWindow :=
    if config.connectionReceiveWindowSize = 0 then
      defaultWindow
    else
      config.connectionReceiveWindowSize
  sendChunk := 0
  out
  inBlock
  inHeaders := false
  inputGeneration := 0
  inHeadersStream := 0
  inHeadersEndStream := false
  inputPaused := false
  inputPausedStream := 0
  inputPausedEndStream := false
  clientPrefaceDone := false
  serverPrefaceSeen := false
  failed := false
  lastError := 0

/-- `chttp_h2_proto_create`, with what the application will do. -/
def Engine.create (mode : Mode) (config : Config) (cbs : Callbacks)
    (script : List Reply) (pulls : List Pull) : Option Engine :=
  if config.valid then
    match
      HpackContext.create
        { maxDynamicTableBytes := config.hpackDynamicTableBytes
          maxHeaderBlockBytes := config.headerBlockBytes
          maxStringBytes := config.maxHpackStringBytes }
    with
    | none => none
    | some hpack =>
      match
        encoderSetMaxSize hpack 0,
        Buffer.init (min config.outputBufferBytes 512) config.outputBufferBytes,
        Buffer.init (min config.inputBufferBytes 512) config.inputBufferBytes,
        Buffer.init (min config.headerBlockBytes 256) config.headerBlockBytes
      with
      | some hpack, some out, some inbuf, some inBlock =>
        some
          { world :=
              { proto := initialProto mode config cbs hpack out inBlock, script,
                pulls, log := [] }
            inbuf
            depth := script.length }
      | _, _, _, _ => none
  else
    none

/-! ## Input -/

/--
The loop of `chttp_h2_proto_recv` over complete frames; the octets it has
consumed.
-/
def receiveFrames (hook : Hook) : Nat → World → Bytes → World × Nat
  | 0, world, _ => (world, 0)
  | rounds + 1, world, input =>
    if world.proto.failed ∨ world.proto.inputPaused ∨
      input.length < frameHeaderSize then
      (world, 0)
    else
      match
        frameHeaderDecode input world.proto.localSettings.maxFrameSize
      with
      | none => (protoFail world .protocolError, 0)
      | some header =>
        if input.length - frameHeaderSize < header.length then
          (world, 0)
        else
          let size := frameHeaderSize + header.length
          let world :=
            dispatch hook world header
              ((input.drop frameHeaderSize).take header.length)
          let world :=
            if world.proto.inHeaders then
              world
            else
              world.update fun proto =>
                { proto with inputGeneration := (proto.inputGeneration + 1) %
                  2 ^ 64 }
          let (world, consumed) :=
            receiveFrames hook rounds world (input.drop size)
          (world, size + consumed)

/-- What `chttp_h2_proto_recv` makes of the octets in its buffer. -/
inductive Intake where
  /-- It returns at once and keeps the buffer. -/
  | hold (world : World)
  /-- It goes on to the frames behind so many octets. -/
  | frames (world : World) (skip : Nat)

/-- The client preface at the start of a server's input. -/
def receivePreface (world : World) (input : Bytes) : Intake :=
  if world.proto.mode = .server ∧ ¬world.proto.serverPrefaceSeen then
    if input.take prefaceLen ≠ clientPreface.take input.length then
      .hold (protoFail world .protocolError)
    else if input.length < prefaceLen then
      .hold world
    else
      let world :=
        (world.update fun proto =>
          { proto with serverPrefaceSeen := true }).note .prefaceSeen
      match ensurePreface world with
      | (world, false) => .hold (protoFail world .internalError)
      | (world, true) => .frames world prefaceLen
  else
    .frames world 0

/-- Remove octets from the front of a buffer. -/
def advance (buffer : Buffer) (count : Nat) : Buffer where
  data := buffer.data.drop count
  maxCapacity := buffer.maxCapacity
  bounded := by
    have bounded := buffer.bounded
    rw [List.length_drop]
    omega

variable (engine : Engine)

/-- The part of `chttp_h2_proto_recv` behind the copy into the buffer. -/
def Engine.process : Engine :=
  if engine.world.proto.inputPaused then
    engine
  else
    match receivePreface engine.world engine.inbuf.data with
    | .hold world => { engine with world }
    | .frames world skip =>
      let input := engine.inbuf.data.drop skip
      let (world, consumed) :=
        receiveFrames (application engine.depth) input.length world input
      { engine with world, inbuf := advance engine.inbuf (skip + consumed) }

/-- `chttp_h2_proto_recv`; input which does not fit the buffer is refused. -/
def Engine.recv (input : Bytes) : Engine :=
  match engine.inbuf.write input with
  | none => engine
  | some inbuf => Engine.process { engine with inbuf }

/-- `chttp_h2_proto_resume_input`. -/
def Engine.resumeInput (streamId : Int) : Engine :=
  let proto := engine.world.proto
  if streamId ≤ 0 ∨ ¬proto.inputPaused ∨ proto.inputPausedStream ≠ streamId then
    engine
  else
    let world := engine.world.update fun proto =>
        { proto with
          inputPaused := false, inputPausedStream := 0,
          inputPausedEndStream := false }
    let world :=
      match proto.find streamId with
      | none => world
      | some slot =>
        if proto.inputPausedEndStream then
          maybeClose (application engine.depth) world slot
        else
          world
    if world.proto.failed then
      { engine with world }
    else
      Engine.recv { engine with world } []

/-! ## Runs -/

/-- What can happen to an engine. -/
inductive Op where
  | recv (input : Bytes)
  | resumeInput (streamId : Int)
  | call (call : Call)
deriving DecidableEq

/-- One operation. -/
def Engine.step : Op → Engine
  | .recv input => engine.recv input
  | .resumeInput streamId => engine.resumeInput streamId
  | .call call =>
    { engine with
      world := apiCall (application engine.depth) engine.world call }

/-- A run of an engine. -/
def Engine.run (ops : List Op) : Engine := ops.foldl Engine.step engine

/-- The engines a run can reach. -/
def Reachable (mode : Mode) (config : Config) (cbs : Callbacks)
    (engine : Engine) : Prop :=
  ∃ script pulls start ops, Engine.create mode config cbs script pulls =
    some start ∧
      engine = start.run ops

end Chttp.H2
