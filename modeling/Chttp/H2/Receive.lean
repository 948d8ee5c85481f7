import Chttp.H2.Send

/-!
# The receive path

`proto_dispatch` and what it calls: the peer's settings, complete header
blocks, and one function for each type of frame.
-/

namespace Chttp.H2

open Lib Hpack

variable (hook : Hook) (world : World) (header : FrameHeader)

/-! ## Settings of the peer -/

/-- A stream's send window after a change of the initial window. -/
def shiftWindow (delta : Int) (stream : Stream) : Stream :=
  if stream.closed then
    stream
  else
    { stream with sendWindow := stream.sendWindow + delta }

/-- Whether a shifted window is still an `int32_t` below the limit. -/
def shiftAllowed (delta : Int) (stream : Stream) : Bool := stream.closed ||
    decide (-2 ^ 31 ≤ stream.sendWindow + delta ∧
      stream.sendWindow + delta ≤ maxWindow)

/-- A setting of the peer other than its initial window. -/
def storePeerSetting (mode : Mode) (peer : Settings) (setting : Setting) :
    Except ErrorCode Settings :=
  let value := setting.value
  match setting.id with
  | 0x1 => .ok { peer with headerTableSize := value }
  | 0x2 =>
    if mode = .client ∨ 1 < value then
      .error .protocolError
    else
      .ok { peer with enablePush := value }
  | 0x8 =>
    if 1 < value ∨ peer.enableConnectProtocol = 1 ∧ value = 0 then
      .error .protocolError
    else
      .ok { peer with enableConnectProtocol := value }
  | 0x3 => .ok { peer with maxConcurrentStreams := value }
  | 0x5 =>
    if value < defaultFrameBytes ∨ maxFrameBytes < value then
      .error .protocolError
    else
      .ok { peer with maxFrameSize := value }
  | 0x6 => .ok { peer with maxHeaderListSize := value }
  | _ => .ok peer

/-- A new initial window, which moves the window of every open stream. -/
def applyInitialWindow (size : Nat) : Except ErrorCode World :=
  let delta : Int := size - world.proto.peer.initialWindowSize
  if maxWindow < size then
    .error .flowControlError
  else if world.proto.streams.all (shiftAllowed delta) then
    .ok
      ((world.update fun proto =>
        { proto with
          streams := proto.streams.map (shiftWindow delta)
          peer := { proto.peer with initialWindowSize := size } }).note
        (.initialWindow size))
  else
    .error .flowControlError

/-- One round of `proto_apply_peer_settings`. -/
def applyPeerSetting (setting : Setting) : Except ErrorCode World :=
  if setting.id = 0x4 then
    applyInitialWindow world setting.value
  else
    match
      storePeerSetting world.proto.mode world.proto.peer setting
    with
    | .error error => .error error
    | .ok peer => .ok (world.update fun proto => { proto with peer })

/-- `proto_apply_peer_settings`: the settings before an error stay applied. -/
def applyPeerSettings (world : World) : List Setting → World × Option ErrorCode
  | [] => (world, none)
  | setting :: settings =>
    match applyPeerSetting world setting with
    | .error error => (world, some error)
    | .ok world => applyPeerSettings world settings

variable (payload : Bytes)

/-- SETTINGS frames. -/
def dispatchSettings : World :=
  if header.streamId ≠ 0 then
    protoFail world .protocolError
  else if hasFlag header.flags flagAck then
    if header.length ≠ 0 then
      protoFail world .frameSizeError
    else
      (callback hook .settingsAck
        (world.update fun proto => { proto with settingsAcked := true })).1
  else
    match
      frameSettingsParse payload world.proto.config.maxSettingsCount
    with
    | none => protoFail world .protocolError
    | some settings =>
      match applyPeerSettings world settings with
      | (world, some error) => protoFail world error
      | (world, none) =>
        let world :=
          (callback hook (.settings settings)
            (world.update fun proto =>
              { proto with peerSettingsReceived := true })).1
        match
          outFrame world
            { type := .settings, flags := flagAck, streamId := 0,
              payload := [] }
        with
        | (world, false) => protoFail world .protocolError
        | (world, true) => world

/-! ## Credit, resets and GOAWAY of the peer -/

variable (streamId : Int)

/-- The end of a WINDOW_UPDATE frame which was applied. -/
def announceCredit (increment : Nat) : World :=
  let world := world.note (.credited streamId increment)
  let world := (callback hook (.windowUpdate streamId increment) world).1
  (callback hook .wakeWrite world).1

/-- WINDOW_UPDATE frames. -/
def dispatchWindowUpdate : World :=
  let increment : Nat := readU32 payload % 2 ^ 31
  if header.length ≠ 4 then
    protoFail world .frameSizeError
  else if increment = 0 then
    protoFail world .flowControlError
  else if header.streamId = 0 then
    if (maxWindow : Int) - increment < world.proto.connSendWindow then
      protoFail world .flowControlError
    else
      announceCredit hook
        (world.update fun proto =>
          { proto with connSendWindow := proto.connSendWindow + increment })
        0 increment
  else
    match world.proto.find header.streamId with
    | none =>
      if world.proto.localResetContains header.streamId then
        world
      else
        protoFail world .protocolError
    | some slot =>
      match world.stream? slot with
      | none => world
      | some stream =>
        if stream.closed then
          world
        else if (maxWindow : Int) - increment < stream.sendWindow then
          protoFail world .flowControlError
        else
          announceCredit hook
            (world.updateStream slot fun stream =>
              { stream with sendWindow := stream.sendWindow + increment })
            header.streamId increment

/-- RST_STREAM frames. -/
def dispatchRstStream : World :=
  let errorCode := readU32 payload
  if header.streamId = 0 then
    protoFail world .protocolError
  else if header.length ≠ 4 then
    protoFail world .frameSizeError
  else
    match world.proto.find header.streamId with
    | none =>
      if world.proto.localResetContains header.streamId then
        forgetReset world header.streamId
      else
        protoFail world .protocolError
    | some slot =>
      match world.stream? slot with
      | none => world
      | some stream =>
        let world :=
          if stream.closed then
            world
          else
            (callback hook (.streamClose header.streamId errorCode)
              (markClosed world slot header.streamId .peerReset
                fun stream => stream.dropBody.dropTrailers)).1
        let world := settleReset world slot header.streamId
        (callback hook (.rstReceived header.streamId errorCode) world).1

/-- GOAWAY frames. -/
def dispatchGoaway : World :=
  if header.streamId ≠ 0 ∨ header.length < 8 then
    protoFail world .protocolError
  else
    match frameGoawayParse payload with
    | none => protoFail world .protocolError
    | some (last, errorCode) =>
      let world :=
        (callback hook (.goaway last errorCode)
          (world.update fun proto =>
            { proto with
              goawayReceivedLast := last
              goawayReceivedError := errorCode
              draining := true })).1
      let visit (slot : Nat) (world : World) : World :=
        match world.stream? slot with
        | none => world
        | some stream =>
          if ¬stream.closed ∧ ¬world.proto.remoteId stream.id ∧
            (last : Int) < stream.id then
            (callback hook (.streamClose stream.id ErrorCode.refusedStream.code)
              (markClosed world slot stream.id .refused
                fun stream => stream.dropBody.dropTrailers)).1
          else
            world
      visitSlots visit world

/-- PING frames. -/
def dispatchPing : World :=
  if header.streamId ≠ 0 ∨ header.length ≠ 8 then
    protoFail world .protocolError
  else if hasFlag header.flags flagAck then
    (callback hook (.pingAck payload) world).1
  else
    match
      outFrame world
        { type := .ping, flags := flagAck, streamId := 0, payload }
    with
    | (world, false) => protoFail world .protocolError
    | (world, true) => world

/-! ## Header blocks -/

/-- `chttp_h2_header_context`, with the engine in it. -/
structure HeaderContext where
  world : World
  streamId : Int
  ignore : Bool
  callbackFailed : Bool

/-- Where the decoder finds its context. -/
def headerContextHpack : ContextIn HeaderContext where
  get context := context.world.proto.hpack
  set context hpack :=
    { context with
      world := context.world.update fun proto => { proto with hpack } }

/-- Remember what a callback for a header block has returned. -/
def HeaderContext.record (context : HeaderContext) (result : World × Int) :
    HeaderContext :=
  if result.2 = 0 then
    { context with world := result.1 }
  else
    { context with world := result.1, ignore := true, callbackFailed := true }

/-- `chttp_h2_header_decode`, which always returns `0`. -/
def headerDecode : FieldCallback HeaderContext := fun context field =>
    if context.ignore then
      (context, 0)
    else
      (context.record
        (callback hook (.header context.streamId field) context.world), 0)

/-- Whether the frames of a stream are ignored since it was reset locally. -/
def resetIgnored : Bool :=
  (match world.proto.find streamId with
    | none => false
    | some slot =>
      match world.stream? slot with
      | none => false
      | some stream => stream.closed && stream.localReset) ||
    world.proto.localResetContains streamId

/-- The first callback of a header block. -/
def beginHeaders (hook : Hook) (world : World) : HeaderContext :=
  let streamId := world.proto.inHeadersStream
  let ignored := resetIgnored world streamId
  let world :=
    world.note
      (.blockComplete streamId (world.findOpen streamId).isSome ignored)
  let context : HeaderContext :=
    { world, streamId, ignore := ignored, callbackFailed := false }
  if ignored then
    context
  else
    context.record (callback hook (.beginHeaders streamId) world)

variable (slot : Option Nat)

/-- The header block ends the peer's side of a stream. -/
def endRemote (ignored : Bool) : World :=
  let streamId := world.proto.inHeadersStream
  if world.proto.inHeadersEndStream then
    match slot with
    | some slot =>
      let world := world.updateStream slot fun stream =>
          { stream with remoteEndStream := true }
      match world.stream? slot with
      | none => world
      | some stream =>
        if stream.localReset then
          settleReset world slot streamId
        else
          world
    | none => if ignored then forgetReset world streamId else world
  else
    world

/-- Whether the stream in a slot is there and open. -/
def slotOpen : Bool :=
  match slot with
  | none => false
  | some slot =>
    match world.stream? slot with
    | none => false
    | some stream => !stream.closed

/-- Reset the stream of a header block which the application refused. -/
def refuseHeaders (error : ErrorCode) : World :=
  let streamId := world.proto.inHeadersStream
  match slot with
  | none => world
  | some slot =>
    if slotOpen world (some slot) then
      match submitRstStream hook world streamId error.code with
      | (world, false) => protoFail world .internalError
      | (world, true) =>
        if world.proto.inHeadersEndStream then
          settleReset world slot streamId
        else
          world
    else
      world

/-- The end of a header block whose stream is not ignored. -/
def concludeHeaders (context : HeaderContext) (slot : Option Nat)
    (tooLarge : Bool) : World :=
  let world := context.world
  if world.proto.failed then
    world
  else if tooLarge then
    refuseHeaders hook world slot .enhanceYourCalm
  else if context.callbackFailed then
    refuseHeaders hook world slot .protocolError
  else
    let (world, result) := callback hook
        (.endHeaders world.proto.inHeadersStream world.proto.inHeadersEndStream)
        world
    if world.proto.failed then
      world
    else if result ≠ 0 then
      refuseHeaders hook world slot .protocolError
    else
      match slot with
      | none => world
      | some slot => maybeClose hook world slot

/-- `proto_finish_headers`. -/
def finishHeaders : World :=
  let slot := world.proto.find world.proto.inHeadersStream
  let ignored := resetIgnored world world.proto.inHeadersStream
  let context := beginHeaders hook world
  let block := context.world.proto.inBlock.data
  let decoded := Hpack.decode headerContextHpack (headerDecode hook)
      context.world.proto.localSettings.maxHeaderListSize context block
  let context := decoded.1
  let context : HeaderContext :=
    match decoded.2.1 with
    | .aborted =>
      { context with world := protoFail context.world .internalError }
    | .malformed =>
      { context with world := protoFail context.world .compressionError }
    | _ => context
  let context : HeaderContext :=
    { context with world := endRemote context.world slot ignored }
  let world :=
    if ignored then
      context.world
    else
      concludeHeaders hook context slot
        (decoded.2.1 = DecodeStatus.listTooLarge)
  world.update fun proto =>
    { proto with inHeaders := false, inBlock := proto.inBlock.clear }

/-- Append to the header block; the block is complete with END_HEADERS. -/
def appendBlock (flags : UInt8) (fragment : Bytes) : World :=
  match world.proto.inBlock.write fragment with
  | none => protoFail world .protocolError
  | some inBlock =>
    let world := world.update fun proto => { proto with inBlock }
    if hasFlag flags flagEndHeaders then
      finishHeaders hook world
    else
      world

/-- A new stream for a request of the peer. -/
def acceptStream (id : Nat) : World × Bool :=
  if id % 2 = 0 ∨ (id : Int) ≤ world.proto.maxPeerStreamId then
    (protoFail world .protocolError, false)
  else if world.proto.localSettings.maxConcurrentStreams ≤
    world.proto.activeStreams then
    (protoFail world .enhanceYourCalm, false)
  else
    match openStream world id with
    | none => (protoFail world .enhanceYourCalm, false)
    | some (world, _) =>
      (world.update fun proto => { proto with maxPeerStreamId := id }, true)

/-- Whether the peer may not send on the stream in a slot any more. -/
def remoteClosed : Bool :=
  match slot with
  | none => true
  | some slot =>
    match world.stream? slot with
    | none => true
    | some stream =>
      (stream.closed && !stream.localReset) ||
        (stream.remoteEndStream && !stream.localReset)

/-- HEADERS frames. -/
def dispatchHeaders : World :=
  if header.streamId = 0 then
    protoFail world .protocolError
  else if world.proto.inHeaders then
    protoFail world .protocolError
  else
    match frameHeadersPayload payload header.flags with
    | none => protoFail world .protocolError
    | some block =>
      let reset := world.proto.localResetContains header.streamId
      let accepted :=
        if world.proto.mode = .server ∧
          world.proto.find header.streamId = none ∧ ¬reset then
          acceptStream world header.streamId
        else
          (world, true)
      match accepted with
      | (world, false) => world
      | (world, true) =>
        if ¬reset ∧ remoteClosed world (world.proto.find header.streamId) then
          protoFail world .streamClosed
        else
          appendBlock hook
            (world.update fun proto =>
              { proto with
                inHeaders := true
                inHeadersStream := header.streamId
                inHeadersEndStream := hasFlag header.flags flagEndStream
                inBlock := proto.inBlock.clear })
            header.flags block

/-- CONTINUATION frames. -/
def dispatchContinuation : World :=
  if header.streamId = 0 ∨ ¬world.proto.inHeaders ∨
      (header.streamId : Int) ≠ world.proto.inHeadersStream then
    protoFail world .protocolError
  else
    appendBlock hook world header.flags payload

/-! ## DATA -/

/-- DATA on a stream which was reset locally: only its credit is returned. -/
def drainData : World :=
  let returned :=
    if header.length = 0 then
      (world, true)
    else
      consumeConnection world header.length
  match returned with
  | (world, false) => protoFail world .internalError
  | (world, true) =>
    if hasFlag header.flags flagEndStream then
      match slot with
      | none => forgetReset world header.streamId
      | some slot =>
        settleReset
          (world.updateStream slot fun stream =>
            { stream with remoteEndStream := true })
          slot header.streamId
    else
      world

/-- Return the credit of padding at once. -/
def consumeHidden (hidden : Nat) : World × Bool :=
  if hidden = 0 then
    (world, true)
  else
    match consumeStream world streamId hidden with
    | (world, false) => (world, false)
    | (world, true) => consumeConnection world hidden

/-- What follows the callback for DATA. -/
def concludeData (slot : Nat) (status : Int) : World :=
  let endStream := hasFlag header.flags flagEndStream
  if status = 1 then
    world.update fun proto =>
      { proto with
        inputPaused := true
        inputPausedStream := header.streamId
        inputPausedEndStream := endStream }
  else if status ≠ 0 then
    protoFail world .internalError
  else if endStream then
    match world.stream? slot with
    | none => world
    | some stream =>
      let world :=
        if stream.localReset then
          settleReset world slot header.streamId
        else
          world
      maybeClose hook world slot
  else
    world

/-- DATA on a stream which is open for the peer. -/
def deliverData (slot : Nat) (data : Bytes) : World :=
  let world := world.updateStream slot fun stream =>
      { stream with recvWindow := stream.recvWindow - header.length }
  match
    consumeHidden world header.streamId (header.length - data.length)
  with
  | (world, false) => protoFail world .internalError
  | (world, true) =>
    let world :=
      if hasFlag header.flags flagEndStream then
        world.updateStream slot fun stream =>
          { stream with remoteEndStream := true }
      else
        world
    let (world, status) := callback hook (.data header.streamId data) world
    concludeData hook world header slot status

/-- DATA frames. -/
def dispatchData : World :=
  if header.streamId = 0 then
    protoFail world .protocolError
  else
    let slot := world.proto.find header.streamId
    let reset := world.proto.localResetContains header.streamId
    match frameDataPayload payload header.flags with
    | none => protoFail world .protocolError
    | some data =>
      if world.proto.connRecvWindow < header.length then
        protoFail world .flowControlError
      else
        let world := world.update fun proto =>
            { proto with
              connRecvWindow := proto.connRecvWindow - header.length }
        match slot with
        | none =>
          if reset then
            drainData world header none
          else
            protoFail world .streamClosed
        | some slot =>
          if remoteClosed world (some slot) then
            protoFail world .streamClosed
          else
            match world.stream? slot with
            | none => world
            | some stream =>
              if stream.localReset then
                drainData world header (some slot)
              else if stream.recvWindow < header.length then
                protoFail world .flowControlError
              else
                deliverData hook world header slot data

/-! ## All frames -/

/-- `proto_dispatch`. -/
def dispatch : World :=
  let world := world.note (.received header payload)
  let type := FrameType.ofCode header.type
  if world.proto.inHeaders ∧ type ≠ some .continuation then
    protoFail world .protocolError
  else if ¬world.proto.peerSettingsReceived ∧
      (type ≠ some .settings ∨ hasFlag header.flags flagAck) then
    protoFail world .protocolError
  else
    match type with
    | some .settings => dispatchSettings hook world header payload
    | some .windowUpdate => dispatchWindowUpdate hook world header payload
    | some .rstStream => dispatchRstStream hook world header payload
    | some .goaway => dispatchGoaway hook world header payload
    | some .ping => dispatchPing hook world header payload
    | some .data => dispatchData hook world header payload
    | some .headers => dispatchHeaders hook world header payload
    | some .continuation => dispatchContinuation hook world header payload
    | some .priority =>
      if header.streamId = 0 then
        protoFail world .protocolError
      else if header.length ≠ 5 then
        protoFail world .frameSizeError
      else
        world
    | some .pushPromise => protoFail world .protocolError
    | none => world

end Chttp.H2
