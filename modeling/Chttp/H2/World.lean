import Chttp.H2.State

/-!
# The engine and what it calls

The application is a script: each callback takes the next reply, which says
what calls the callback makes on the engine before it returns and what it
returns.  The functions which process input are not called from inside a
callback.  Body sources are a second script.
-/

namespace Chttp.H2

open Lib Hpack

/-- The callbacks of `chttp_h2_proto_callbacks` with their arguments. -/
inductive Callback where
  | beginHeaders (streamId : Int)
  | header (streamId : Int) (field : Entry)
  | endHeaders (streamId : Int) (endStream : Bool)
  | data (streamId : Int) (data : Bytes)
  | streamClose (streamId : Int) (errorCode : Nat)
  | settings (settings : List Setting)
  | settingsAck
  | pingAck (payload : Bytes)
  | windowUpdate (streamId : Int) (increment : Nat)
  | goaway (lastStreamId errorCode : Nat)
  | rstReceived (streamId : Int) (errorCode : Nat)
  | wakeWrite
deriving DecidableEq

/-- Whether a callback is installed. -/
def Callbacks.has (cbs : Callbacks) : Callback → Bool
  | .beginHeaders _ => cbs.onBeginHeaders
  | .header _ _ => cbs.onHeader
  | .endHeaders _ _ => cbs.onEndHeaders
  | .data _ _ => cbs.onData
  | .streamClose _ _ => cbs.onStreamClose
  | .settings _ => cbs.onSettings
  | .settingsAck => cbs.onSettingsAck
  | .pingAck _ => cbs.onPingAck
  | .windowUpdate _ _ => cbs.onWindowUpdate
  | .goaway _ _ => cbs.onGoaway
  | .rstReceived _ _ => cbs.onRstReceived
  | .wakeWrite => cbs.onWakeWrite

/-- A message body: borrowed octets, possibly none, or a source. -/
inductive Body where
  | flat (octets : Bytes)
  | source
deriving DecidableEq

/--
The calls an application makes on an engine, other than those which process
input.  Argument combinations which a function refuses before it looks at the
engine (null pointers, a body and a source) are left out.
-/
inductive Call where
  | setSendChunk (chunk : Nat)
  | setLocalSettings
      (headerTableSize enablePush maxConcurrentStreams initialWindowSize
        maxFrameSize maxHeaderListSize : UInt32)
  | setLocalEnableConnectProtocol (enable : UInt32)
  | submitRequestEx (headers : List Entry) (body : Body) (weight : UInt32)
      (depStreamId : Int) (exclusive : Bool)
  | submitRequestHeaders (headers : List Entry) (endStream : Bool)
  | submitHeaders (streamId : Int) (headers : List Entry) (endStream : Bool)
  | submitResponseEx (streamId : Int) (headers : List Entry) (body : Body)
  | submitData (streamId : Int) (data : Bytes) (endStream : Bool)
  | submitTrailers (streamId : Int) (headers : List Entry)
  | submitSettings
  | submitPing (payload : Vector UInt8 8)
  | submitWindowUpdate (streamId : Int) (increment : UInt32)
  | submitRstStream (streamId : Int) (errorCode : UInt32)
  | submitGoaway (lastStreamId errorCode : UInt32)
  | resumeSource (streamId : Int)
  | send
  | consumeConnection (bytes : Nat)
  | consumeStream (streamId : Int) (bytes : Nat)
  | terminate (errorCode : UInt32)
deriving DecidableEq

/-- What a callback does: calls on the engine, then a return value. -/
structure Reply where
  calls : List Call
  result : Int
deriving DecidableEq

/-- `chttp_h2_proto_source_status`; `other` is any other value. -/
inductive SourceStatus where
  | data
  | wait
  | eof
  | error
  | other
deriving DecidableEq

/-- `chttp_h2_proto_source_result` with the octets written. -/
structure Pull where
  status : SourceStatus
  octets : Bytes
deriving DecidableEq

/-- A frame queued for output. -/
structure Frame where
  type : FrameType
  flags : UInt8
  streamId : Int
  payload : Bytes
deriving DecidableEq

/-- The octets of a frame, as `out_frame` writes them. -/
def Frame.octets (frame : Frame) : Bytes :=
  writeU24 frame.payload.length ++ [frame.type.code, frame.flags] ++
    writeU32 frame.streamId.toNat ++ frame.payload

/-- How a stream came to be closed. -/
inductive CloseCause where
  /-- Both sides have ended it. -/
  | ended
  /-- `chttp_h2_proto_submit_rst_stream`. -/
  | localReset
  /-- A RST_STREAM frame of the peer. -/
  | peerReset
  /-- A GOAWAY frame of the peer. -/
  | refused
  /-- `chttp_h2_proto_terminate`. -/
  | terminated
  /-- The header block of a request could not be queued. -/
  | dropped
deriving DecidableEq

/-- What an application has handed over for a stream. -/
inductive Submission where
  | headers (endStream : Bool)
  | message (body : Body)
  | data (octets : Bytes) (endStream : Bool)
  | trailers
deriving DecidableEq

/-- The entries of the log. -/
inductive Event where
  /-- The client preface was queued. -/
  | preface
  /-- A frame was queued. -/
  | frame (frame : Frame)
  /-- `chttp_h2_proto_send` handed octets to the transport. -/
  | flushed (octets : Bytes)
  /-- The client preface was accepted by a server. -/
  | prefaceSeen
  /-- A frame of the peer is dispatched. -/
  | received (header : FrameHeader) (payload : Bytes)
  /-- A callback is entered. -/
  | callback (callback : Callback)
  /-- A callback has returned. -/
  | returned (callback : Callback) (result : Int)
  /-- A call of the application has returned, with success or not. -/
  | called (call : Call) (succeeded : Bool)
  /-- A stream record was initialized. -/
  | opened (streamId : Int)
  /-- A stream was marked closed. -/
  | closed (streamId : Int) (cause : CloseCause)
  /-- A local reset was recorded over the given entry of the history. -/
  | resetRecorded (streamId overwritten : Int)
  /-- A local reset was removed from the history. -/
  | resetForgotten (streamId : Int)
  /-- A slot's reset flag was cleared for a stream, with the slot's stream. -/
  | resetCleared (slotStream streamId : Int)
  /-- A submission was accepted. -/
  | submitted (streamId : Int) (submission : Submission)
  /-- A source was asked for octets, with the room left in the output. -/
  | pulled (streamId : Int) (pull : Pull) (limit room : Nat)
  /-- Credit of the peer was accepted, for the connection or for a stream. -/
  | credited (streamId : Int) (increment : Nat)
  /-- A new initial window of the peer was applied. -/
  | initialWindow (size : Nat)
  /-- A header block is complete; whether its stream is open or ignored. -/
  | blockComplete (streamId : Int) (isOpen ignored : Bool)
  /-- A header block could not be encoded or queued completely. -/
  | blockBroken (streamId : Int)
deriving DecidableEq

/-- An engine, what its callbacks and sources will do, and the log. -/
structure World where
  proto : Proto
  script : List Reply
  pulls : List Pull
  log : List Event

namespace World

variable (world : World)

/-- Write to the log. -/
def note (event : Event) : World :=
  { world with log := world.log ++ [event] }

/-- Change the engine. -/
def update (change : Proto → Proto) : World :=
  { world with proto := change world.proto }

/-- Change the stream in a slot. -/
def updateStream (slot : Nat) (change : Stream → Stream) : World :=
  world.update fun proto =>
    { proto with streams := proto.streams.modify slot change }

/-- The stream in a slot. -/
def stream? (slot : Nat) : Option Stream := world.proto.streams[slot]?

/-- The open stream with an identifier, if there is one, with its slot. -/
def findOpen (id : Int) : Option (Nat × Stream) :=
  match world.proto.find id with
  | none => none
  | some slot =>
    match world.stream? slot with
    | none => none
    | some stream => if stream.closed then none else some (slot, stream)

end World

/--
The application: entering a callback runs its reply and gives what it
returns.
-/
abbrev Hook := Callback → World → World × Int

/-- Make a callback if it is installed; otherwise it counts as `0`. -/
def callback (hook : Hook) (event : Callback) (world : World) : World × Int :=
  if world.proto.cbs.has event then
    hook event (world.note (.callback event))
  else
    (world, 0)

end Chttp.H2
