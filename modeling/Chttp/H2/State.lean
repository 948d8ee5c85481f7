import Chttp.H2.Frame
import Chttp.Hpack.Context

/-!
# The state of the HTTP/2 engine

`Proto` is `chttp_h2_proto` without its input buffer, which only the receive
loop touches.  A `World` puts the engine together with what it calls: the
application's callbacks, which may call the engine again and whose behaviour
is given by a script, and the body sources.  It also keeps a log of
everything the engine does, the frames it queues and the callbacks it makes
among them.
-/

namespace Chttp.H2

open Lib Hpack

/-- `CHTTP_H2_DEFAULT_WINDOW`. -/
def defaultWindow : Nat := 65535

/-- `CHTTP_H2_MAX_WINDOW`. -/
def maxWindow : Nat := 0x7fffffff

/-- `CHTTP_H2_DEFAULT_FRAME_BYTES`. -/
def defaultFrameBytes : Nat := 16384

/-- `CHTTP_H2_PREFACE`. -/
def clientPreface : Bytes := ascii "PRI * HTTP/2.0\r\n\r\nSM\r\n\r\n"

/-- `CHTTP_H2_PREFACE_LEN`. -/
def prefaceLen : Nat := 24

/-- The error codes of RFC 9113 section 7 which the engine itself uses. -/
inductive ErrorCode where
  | noError
  | protocolError
  | internalError
  | flowControlError
  | streamClosed
  | frameSizeError
  | refusedStream
  | cancel
  | compressionError
  | enhanceYourCalm
deriving DecidableEq

/-- The number of an error code on the wire. -/
def ErrorCode.code : ErrorCode → Nat
  | .noError => 0x0
  | .protocolError => 0x1
  | .internalError => 0x2
  | .flowControlError => 0x3
  | .streamClosed => 0x5
  | .frameSizeError => 0x6
  | .refusedStream => 0x7
  | .cancel => 0x8
  | .compressionError => 0x9
  | .enhanceYourCalm => 0xb

/-- `chttp_h2_proto_mode`. -/
inductive Mode where
  | client
  | server
deriving DecidableEq

/-! ## Configuration -/

/-- `chttp_h2_proto_config`. -/
structure Config where
  streamCapacity : Nat
  outputBufferBytes : Nat
  inputBufferBytes : Nat
  headerBlockBytes : Nat
  maxHeaderListBytes : Nat
  hpackDynamicTableBytes : Nat
  maxHpackStringBytes : Nat
  maxSettingsCount : Nat
  localInitialWindowSize : Nat
  connectionReceiveWindowSize : Nat
deriving DecidableEq

/-- `PTRDIFF_MAX` of a 64-bit target. -/
def ptrdiffMax : Nat := 2 ^ 63 - 1

/-- `chttp_h2_proto_config_valid`; a stream record takes 144 bytes. -/
def Config.valid (config : Config) : Bool := config.streamCapacity ≠ 0 ∧
    config.streamCapacity ≤ sizeMax / 144 ∧
    prefaceLen + 2 * frameHeaderSize + 42 + defaultFrameBytes ≤
      config.outputBufferBytes ∧
    config.outputBufferBytes ≤ ptrdiffMax ∧
    frameHeaderSize + defaultFrameBytes ≤ config.inputBufferBytes ∧
    config.inputBufferBytes ≤ ptrdiffMax ∧
    config.headerBlockBytes ≠ 0 ∧
    config.headerBlockBytes ≤ ptrdiffMax ∧
    config.headerBlockBytes ≤ config.outputBufferBytes - frameHeaderSize ∧
    config.maxHeaderListBytes ≠ 0 ∧
    config.maxHeaderListBytes ≤ uint32Max ∧
    config.hpackDynamicTableBytes ≤ uint32Max ∧
    config.maxHpackStringBytes ≠ 0 ∧
    config.maxSettingsCount ≠ 0 ∧
    config.maxSettingsCount ≤ sizeMax / 4 ∧
    (config.localInitialWindowSize = 0 ∨
      config.localInitialWindowSize ≤ maxWindow) ∧
    (config.connectionReceiveWindowSize = 0 ∨
      defaultWindow ≤ config.connectionReceiveWindowSize ∧
        config.connectionReceiveWindowSize ≤ maxWindow)

/-- The settings one endpoint announces. -/
structure Settings where
  headerTableSize : Nat
  enablePush : Nat
  maxConcurrentStreams : Nat
  initialWindowSize : Nat
  maxFrameSize : Nat
  maxHeaderListSize : Nat
  enableConnectProtocol : Nat
deriving DecidableEq

/-! ## Streams -/

/--
`chttp_h2_proto_stream`.  A body is kept with the position `body_off`; the
pointer to a source is kept as the fact that there is one.
-/
structure Stream where
  id : Int
  sendWindow : Int
  recvWindow : Int
  closed : Bool
  localReset : Bool
  endStreamSent : Bool
  remoteEndStream : Bool
  body : Option Bytes
  bodyOff : Nat
  bodyEof : Bool
  source : Bool
  sourceDone : Bool
  sourceWaiting : Bool
  trailers : Bytes
  trailersPending : Bool
  localWindow : Int
deriving DecidableEq

variable (stream : Stream)

/-- `body_len`. -/
def Stream.bodyLen : Nat := (stream.body.getD []).length

/-- `body != NULL && (body_off < body_len || body_eof)`. -/
def Stream.bodyPending : Bool := stream.body.isSome &&
    (decide (stream.bodyOff < stream.bodyLen) || stream.bodyEof)

/-- Drop the body, as every way of closing a stream does. -/
def Stream.dropBody : Stream :=
  { stream with body := none, bodyOff := 0 }

/-- Drop a trailer block which waits for the end of the body. -/
def Stream.dropTrailers : Stream :=
  if stream.trailersPending then
    { stream with trailersPending := false, trailers := [] }
  else
    stream

/-- A record which was just initialized, with its two windows. -/
def Stream.fresh (id : Int) (sendSize recvSize : Nat) : Stream where
  id
  sendWindow := sendSize
  recvWindow := recvSize
  closed := false
  localReset := false
  endStreamSent := false
  remoteEndStream := false
  body := none
  bodyOff := 0
  bodyEof := false
  source := false
  sourceDone := false
  sourceWaiting := false
  trailers := []
  trailersPending := false
  localWindow := recvSize

/-! ## The engine -/

/-- Which members of `chttp_h2_proto_callbacks` are installed. -/
structure Callbacks where
  onBeginHeaders : Bool
  onHeader : Bool
  onEndHeaders : Bool
  onData : Bool
  onStreamClose : Bool
  onSettings : Bool
  onSettingsAck : Bool
  onPingAck : Bool
  onWindowUpdate : Bool
  onGoaway : Bool
  onRstReceived : Bool
  onWakeWrite : Bool
deriving DecidableEq

/-- `chttp_h2_proto` without `inbuf`. -/
structure Proto where
  mode : Mode
  cbs : Callbacks
  config : Config
  hpack : HpackContext
  localSettings : Settings
  peer : Settings
  peerSettingsReceived : Bool
  settingsSent : Bool
  settingsAcked : Bool
  streams : List Stream
  streamCap : Nat
  localResetIds : List Int
  localResetCursor : Nat
  nextStreamId : Int
  maxPeerStreamId : Int
  lastProcStreamId : Int
  goawaySent : Bool
  goawayReceivedLast : Int
  goawayReceivedError : Nat
  draining : Bool
  connSendWindow : Int
  connRecvWindow : Int
  connConsumed : Int
  connLocalWindow : Int
  sendChunk : Nat
  out : Buffer
  inBlock : Buffer
  inHeaders : Bool
  inputGeneration : Nat
  inHeadersStream : Int
  inHeadersEndStream : Bool
  inputPaused : Bool
  inputPausedStream : Int
  inputPausedEndStream : Bool
  clientPrefaceDone : Bool
  serverPrefaceSeen : Bool
  failed : Bool
  lastError : Nat

namespace Proto

variable (proto : Proto)

/-- `proto_find`: the first slot with an identifier. -/
def find (id : Int) : Option Nat :=
  proto.streams.findIdx? fun stream => stream.id == id

/-- `proto_local_reset_contains`. -/
def localResetContains (id : Int) : Bool :=
  decide (0 < id) && proto.localResetIds.contains id

/-- `proto_local_reset_record`. -/
def localResetRecord (id : Int) : Proto :=
  if id ≤ 0 ∨ proto.localResetContains id then
    proto
  else
    { proto with
      localResetIds := proto.localResetIds.set proto.localResetCursor id
      localResetCursor := (proto.localResetCursor + 1) % proto.streamCap }

/-- `proto_local_reset_forget`. -/
def localResetForget (id : Int) : Proto :=
  if id ≤ 0 then
    proto
  else
    { proto with
      localResetIds := proto.localResetIds.map fun entry => if entry =
        id then 0 else entry }

/-- A stream record as `proto_new_stream` initializes it. -/
def freshStream (id : Int) : Stream :=
  Stream.fresh id proto.peer.initialWindowSize
    proto.localSettings.initialWindowSize

/-- Whether the peer opens the streams with an identifier. -/
def remoteId (id : Int) : Bool :=
  match proto.mode with
  | .client => id % 2 == 0
  | .server => id % 2 != 0

/--
`proto_new_stream`: the slot of the first closed stream, or a new slot.
-/
def newStream (id : Int) : Option (Proto × Nat) :=
  let place (streams : List Stream) (slot : Nat) : Option (Proto × Nat) := some
      ({ proto with
          streams
          lastProcStreamId :=
            if proto.remoteId id ∧ proto.lastProcStreamId < id then
              id
            else
              proto.lastProcStreamId },
        slot)
  match proto.streams.findIdx? fun stream => stream.closed with
  | some slot => place (proto.streams.set slot (proto.freshStream id)) slot
  | none =>
    if proto.streamCap ≤ proto.streams.length then
      none
    else
      place (proto.streams ++ [proto.freshStream id]) proto.streams.length

/-- `proto_active_local_streams`. -/
def activeLocalStreams : Nat := proto.streams.countP fun stream =>
    !stream.closed && !proto.remoteId stream.id

/-- `proto_active_streams`. -/
def activeStreams : Nat := proto.streams.countP fun stream => !stream.closed

end Proto

end Chttp.H2
