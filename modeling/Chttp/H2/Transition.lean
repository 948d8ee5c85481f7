import Chttp.H2.Engine

/-!
# The protocol as a transition system

`Conn` is what the guarantees of the engine are about: streams, windows, the
history of local resets, and the log.  A `Step` is what the engine does
between two callbacks at most, with the conditions it checks.  Everything an
engine does is a sequence of steps, so a property which every step preserves
holds of every engine.
-/

namespace Chttp.H2

open Lib Hpack

/-- The part of an engine which the transition system describes. -/
structure Conn where
  mode : Mode
  cbs : Callbacks
  seen : Bool
  announced : Bool
  streams : List Stream
  streamCap : Nat
  resetIds : List Int
  cursor : Nat
  nextStreamId : Int
  maxPeerStreamId : Int
  connSendWindow : Int
  connRecvWindow : Int
  connConsumed : Int
  connLocalWindow : Int
  localInitial : Nat
  peerInitial : Nat
  peerFrame : Nat
  outCapacity : Nat
  outLimit : Nat
  blockEnd : Option Int
  failed : Bool
  /-- The octets which wait in the output, as long as the log tells them. -/
  queue : Option Bytes
  log : List Event

/-- Whether the preface of an engine has been queued. -/
def Proto.announced (proto : Proto) : Bool :=
  match proto.mode with
  | .client => proto.clientPrefaceDone
  | .server => proto.settingsSent

/-- The abstraction of an engine. -/
def World.conn (world : World) : Conn where
  mode := world.proto.mode
  cbs := world.proto.cbs
  seen := world.proto.serverPrefaceSeen
  announced := world.proto.announced
  streams := world.proto.streams
  streamCap := world.proto.streamCap
  resetIds := world.proto.localResetIds
  cursor := world.proto.localResetCursor
  nextStreamId := world.proto.nextStreamId
  maxPeerStreamId := world.proto.maxPeerStreamId
  connSendWindow := world.proto.connSendWindow
  connRecvWindow := world.proto.connRecvWindow
  connConsumed := world.proto.connConsumed
  connLocalWindow := world.proto.connLocalWindow
  localInitial := world.proto.localSettings.initialWindowSize
  peerInitial := world.proto.peer.initialWindowSize
  peerFrame := world.proto.peer.maxFrameSize
  outCapacity := world.proto.out.maxCapacity
  outLimit := world.proto.config.outputBufferBytes
  blockEnd :=
    if world.proto.inHeadersEndStream then
      some world.proto.inHeadersStream
    else
      none
  failed := world.proto.failed
  queue := some world.proto.out.data
  log := world.log

/--
The output behind an event: the preface and frames are appended to it, and all
of it is handed to the transport.
-/
def Event.output (queue : Option Bytes) : Event → Option Bytes
  | .preface => queue.map (· ++ clientPreface)
  | .frame queued => queue.map (· ++ queued.octets)
  | .flushed octets => if queue = some octets then some [] else none
  | _ => queue

variable (conn : Conn)

namespace Conn

/-- Write to the log. -/
@[simps]
def note (event : Event) : Conn :=
  { conn with
    queue := event.output conn.queue
    log := conn.log ++ [event] }

/-- Write several events to the log. -/
@[simps]
def notes (events : List Event) : Conn :=
  { conn with
    queue := events.foldl Event.output conn.queue
    log := conn.log ++ events }

/-- Enter a callback if it is installed. -/
@[simps]
def enter (event : Callback) : Conn :=
  { conn with
    log := conn.log ++ if conn.cbs.has event then [.callback event] else [] }

/-- Change the stream in a slot. -/
@[simps]
def updateStream (slot : Nat) (change : Stream → Stream) : Conn :=
  { conn with streams := conn.streams.modify slot change }

/-- The credit the preface adds to the default connection window. -/
def enlargement : Int :=
  if (defaultWindow : Int) < conn.connLocalWindow then
    conn.connLocalWindow - defaultWindow
  else
    0

/-- An open stream in a slot. -/
def OpenAt (slot : Nat) (stream : Stream) : Prop :=
  conn.streams[slot]? = some stream ∧ stream.closed = false

/-- A stream with an identifier is open. -/
def IsOpen (id : Int) : Prop :=
  ∃ slot stream, conn.OpenAt slot stream ∧ stream.id = id

/-- Take octets out of both send windows. -/
@[simps]
def spend (slot size : Nat) : Conn :=
  { conn with
    connSendWindow := conn.connSendWindow - size
    streams := conn.streams.modify slot fun stream =>
        { stream with sendWindow := stream.sendWindow - size } }

/-- Record a local reset over the entry at the cursor. -/
@[simps]
def recordReset (id : Int) : Conn :=
  let recorded := decide (id ≤ 0 ∨ id ∈ conn.resetIds)
  { conn with
    resetIds :=
      if recorded then
        conn.resetIds
      else
        conn.resetIds.set conn.cursor id
    cursor :=
      if recorded then
        conn.cursor
      else
        (conn.cursor + 1) % conn.streamCap
    log := conn.log ++
        if recorded then
          []
        else
          [.resetRecorded id (conn.resetIds.getD conn.cursor 0)] }

end Conn

/-! ## Kinds of events -/

/-- The stream whose header block a callback belongs to. -/
def Callback.headerStream? : Callback → Option Int
  | .beginHeaders streamId => some streamId
  | .header streamId _ => some streamId
  | .endHeaders streamId _ => some streamId
  | _ => none

/-- The stream of a header block which a callback tells of while the block is
not at its end. -/
def Callback.blockStream? : Callback → Option Int
  | .beginHeaders streamId => some streamId
  | .header streamId _ => some streamId
  | _ => none

/-- Callbacks which are not about the life of a stream. -/
def Callback.neutral : Callback → Bool
  | .beginHeaders _ => false
  | .header _ _ => false
  | .endHeaders _ _ => false
  | .data _ _ => false
  | .streamClose _ _ => false
  | _ => true

/-- Calls which leave receive credit and the preface alone. -/
def Call.neutral : Call → Bool
  | .consumeConnection _ => false
  | .consumeStream _ _ => false
  | .submitWindowUpdate _ _ => false
  | .submitSettings => false
  | _ => true

/-- Events which come with no change of a stream or a window. -/
def Event.neutral : Event → Bool
  | .preface => true
  | .frame queued => queued.type != .data && queued.type != .headers
  | .flushed _ => true
  | .received _ _ => true
  | .callback entered => entered.neutral
  | .returned _ _ => true
  | .called made _ => made.neutral
  | _ => false

/-- The frames of a header block, of which only the first may end a stream. -/
def HeaderFrames (id : Int) (endStream : Bool) (events : List Event) : Prop :=
  ∃ flags payload rest,
    events =
        .frame
            { type := .headers, flags, streamId := id, payload } :: rest ∧
      hasFlag flags flagEndStream = endStream ∧
      ∀ event ∈ rest, ∃ flags payload, event =
            .frame { type := .continuation, flags, streamId := id, payload }

/--
A header block is being delivered: since it was complete, its stream was not
closed, or it was but a later callback of the block has accepted the block.
-/
def HeadersLive (log : List Event) (id : Int) : Prop := ∃ before isOpen after,
    log = before ++ .blockComplete id isOpen false :: after ∧
      ∀ cause, .closed id cause ∈ after → ∃ first callback second,
            after = first ++ .returned callback 0 :: second ∧
              callback.blockStream? = some id ∧
              .closed id cause ∈ first

/-- A frame with which the peer ends its side of a stream. -/
def FrameHeader.Finishes (header : FrameHeader) (id : Int) : Prop :=
  (header.streamId : Int) = id ∧
    (FrameType.ofCode header.type = some .rstStream ∨
      (FrameType.ofCode header.type = some .data ∨
        FrameType.ofCode header.type = some .headers) ∧
        hasFlag header.flags flagEndStream = true)

/-- The peer has ended its side of a stream. -/
def PeerEnded (log : List Event) (id : Int) : Prop :=
  ∃ header payload, .received header payload ∈ log ∧ header.Finishes id

/-! ## Changes of a stream record -/

/-- A change of fields which only steer the peer's side and the source. -/
def QuietChange (change : Stream → Stream) : Prop := ∀ stream, change stream =
      { stream with
        remoteEndStream := (change stream).remoteEndStream
        sourceDone := (change stream).sourceDone
        sourceWaiting := (change stream).sourceWaiting
        trailers := (change stream).trailers }

/-- A change which closes a stream, by a local reset or not. -/
def ClosingChange (reset : Bool) (change : Stream → Stream) : Prop :=
  ∀ stream, change stream =
      { stream with
        closed := true
        localReset := stream.localReset || reset
        body := none
        bodyOff := (change stream).bodyOff
        source := (change stream).source
        endStreamSent := (change stream).endStreamSent
        trailers := (change stream).trailers
        trailersPending := (change stream).trailersPending }

/-- A change of the receive window which stays below the limit. -/
def RecvChange (change : Stream → Stream) : Prop := ∀ stream, change stream =
        { stream with recvWindow := (change stream).recvWindow } ∧
      (change stream).recvWindow ≤ max stream.recvWindow maxWindow

/-- The octets which wait for the next credit, after some more were consumed. -/
def ConsumedBelow (consumed : Int) : Prop :=
  consumed = conn.connConsumed ∨ consumed = 0 ∨
    conn.connConsumed ≤ consumed ∧ consumed < conn.connLocalWindow / 2

/-- How a new record gets into the stream table. -/
def Placed (streams : List Stream) (streamCap : Nat) (stream : Stream)
    (placed : List Stream) : Prop :=
  (∃ slot old, streams[slot]? = some old ∧ old.closed = true ∧
    placed = streams.set slot stream) ∨
    streams.length < streamCap ∧ placed = streams ++ [stream]

/-! ## Steps -/

/-- One step of an engine. -/
inductive Step : Conn → Conn → Prop where
  -- Nothing which the guarantees are about changes.
  | note {conn : Conn} {event : Event} :
      event.neutral = true → Step conn (conn.note event)
  | refused {conn : Conn} {call : Call} :
      Step conn (conn.note (.called call false))
  | fail {conn : Conn} :
      Step conn { conn with failed := true }
  | tune {conn : Conn} {slot : Nat} {change : Stream → Stream} :
      QuietChange change → Step conn (conn.updateStream slot change)
  | localWindow {conn : Conn} {size : Nat} :
      size ≤ maxWindow → Step conn { conn with localInitial := size }
  | peerFrame {conn : Conn} {size : Nat} :
      size ≤ maxFrameBytes → Step conn { conn with peerFrame := size }
  -- The connection preface.
  | announce {conn : Conn} :
      conn.announced = false →
        conn.connRecvWindow + conn.enlargement ≤ maxWindow →
        Step conn
          { conn with
            announced := true,
            connRecvWindow := conn.connRecvWindow + conn.enlargement }
  | announceRefused {conn : Conn} :
      conn.announced = false →
        maxWindow < conn.connRecvWindow + conn.enlargement →
        Step conn { conn with announced := true }
  | settingsCalled {conn : Conn} :
      Step conn
        (Conn.note
          { conn with announced := conn.announced || conn.mode = .server }
          (.called .submitSettings true))
  | prefaceSeen {conn : Conn} :
      conn.mode = .server →
        conn.announced = true →
        Step conn (Conn.note { conn with seen := true } .prefaceSeen)
  | prefaceAnnounced {conn : Conn} :
      conn.mode = .server →
        conn.announced = false →
        conn.connRecvWindow + conn.enlargement ≤ maxWindow →
        Step conn
          (Conn.note
            { conn with
              seen := true
              announced := true
              connRecvWindow := conn.connRecvWindow + conn.enlargement }
            .prefaceSeen)
  | prefaceFailed {conn : Conn} {announced : Bool} {recv : Int} :
      conn.mode = .server →
        (conn.announced = true → announced = true) →
        recv ≤ max conn.connRecvWindow maxWindow →
        Step conn
          (Conn.note
            { conn with
              seen := true, announced, connRecvWindow := recv, failed := true }
            .prefaceSeen)
  -- Receive credit.
  | grantedConn {conn : Conn} {increment : UInt32} {succeeded : Bool} :
      conn.connRecvWindow + increment.toNat ≤ maxWindow → Step conn
          (Conn.note
            { conn with
              connRecvWindow := conn.connRecvWindow + increment.toNat }
            (.called (.submitWindowUpdate 0 increment) succeeded))
  | grantedStream {conn : Conn} {slot : Nat} {stream : Stream}
      {increment : UInt32} {succeeded : Bool} :
      conn.OpenAt slot stream → stream.recvWindow + increment.toNat ≤
        maxWindow → Step conn
          ((conn.updateStream slot fun stream =>
            { stream with
              recvWindow := stream.recvWindow + increment.toNat }).note
            (.called (.submitWindowUpdate stream.id increment) succeeded))
  | consumed {conn : Conn} {bytes : Nat} {recv consumed : Int} :
      recv + consumed = conn.connRecvWindow + conn.connConsumed + bytes →
        ConsumedBelow conn consumed →
        recv ≤ max conn.connRecvWindow maxWindow →
        Step conn
          (Conn.note
            { conn with connRecvWindow := recv, connConsumed := consumed }
            (.called (.consumeConnection bytes) true))
  | consumeFailed {conn : Conn} {bytes : Nat} {recv consumed : Int} :
      ConsumedBelow conn consumed → recv ≤ max conn.connRecvWindow maxWindow →
        Step conn
          (Conn.note
            { conn with connRecvWindow := recv, connConsumed := consumed }
            (.called (.consumeConnection bytes) false))
  | consumedStream {conn : Conn} {slot bytes : Nat} {stream : Stream} :
      conn.OpenAt slot stream → stream.recvWindow + bytes ≤ maxWindow →
        Step conn
          ((conn.updateStream slot fun stream =>
            { stream with recvWindow := stream.recvWindow + bytes }).note
            (.called (.consumeStream stream.id bytes) true))
  | consumeStreamFailed {conn : Conn} {slot bytes : Nat} {id : Int}
      {change : Stream → Stream} :
      RecvChange change → Step conn
          ((conn.updateStream slot change).note
            (.called (.consumeStream id bytes) false))
  | drained {conn : Conn} {recv consumed : Int} :
      recv + consumed = conn.connRecvWindow + conn.connConsumed →
        ConsumedBelow conn consumed →
        recv ≤ max conn.connRecvWindow maxWindow →
        Step conn
          { conn with connRecvWindow := recv, connConsumed := consumed }
  | delivered {conn : Conn} {slot : Nat} {stream : Stream} {data : Bytes}
      {recv consumed streamRecv : Int} {remoteEnd : Bool} :
      conn.OpenAt slot stream → recv + consumed + data.length =
          conn.connRecvWindow + conn.connConsumed →
        ConsumedBelow conn consumed →
        recv ≤ max conn.connRecvWindow maxWindow →
        streamRecv + data.length = stream.recvWindow →
        Step conn
          (Conn.enter
            { conn with
              connRecvWindow := recv
              connConsumed := consumed
              streams := conn.streams.modify slot fun stream =>
                  { stream with
                    recvWindow := streamRecv, remoteEndStream := remoteEnd } }
            (.data stream.id data))
  | spoiled {conn : Conn} {recv consumed : Int} {slot : Nat}
      {change : Stream → Stream} :
      ConsumedBelow conn consumed → recv ≤ max conn.connRecvWindow maxWindow →
        RecvChange change →
        Step conn
          { conn with
            connRecvWindow := recv
            connConsumed := consumed
            streams := conn.streams.modify slot change
            failed := true }
  -- Send credit.
  | creditConn {conn : Conn} {increment : Nat} :
      conn.connSendWindow + increment ≤ maxWindow → Step conn
          (Conn.note
            { conn with connSendWindow := conn.connSendWindow + increment }
            (.credited 0 increment))
  | creditStream {conn : Conn} {slot increment : Nat} {stream : Stream} :
      conn.OpenAt slot stream → stream.sendWindow + increment ≤ maxWindow →
        Step conn
          ((conn.updateStream slot fun stream =>
            { stream with sendWindow := stream.sendWindow + increment }).note
            (.credited stream.id increment))
  | shift {conn : Conn} {size : Nat} :
      size ≤ maxWindow →
        (∀ stream ∈ conn.streams,
          shiftAllowed (size - conn.peerInitial) stream = true) →
        Step conn
          (Conn.note
            { conn with
              streams :=
                conn.streams.map (shiftWindow (size - conn.peerInitial))
              peerInitial := size }
            (.initialWindow size))
  -- The life of a stream.
  | openLocal {conn : Conn} {streams : List Stream} :
      conn.mode = .client →
        conn.announced = true →
        conn.nextStreamId ≤ 0x7ffffffe →
        Placed conn.streams conn.streamCap
          (Stream.fresh conn.nextStreamId conn.peerInitial conn.localInitial)
          streams →
        Step conn
          (Conn.note
            { conn with nextStreamId := conn.nextStreamId + 2, streams }
            (.opened conn.nextStreamId))
  | openRemote {conn : Conn} {id : Nat} {streams : List Stream} :
      conn.mode = .server →
        conn.announced = true →
        id % 2 = 1 →
        conn.maxPeerStreamId < id →
        id ≤ maxWindow →
        Placed conn.streams conn.streamCap
          (Stream.fresh id conn.peerInitial conn.localInitial) streams →
        Step conn
          (Conn.note
            { conn with maxPeerStreamId := id, streams }
            (.opened id))
  | burn {conn : Conn} :
      conn.mode = .client →
        conn.nextStreamId ≤ 0x7ffffffe →
        Step conn { conn with nextStreamId := conn.nextStreamId + 2 }
  | close {conn : Conn} {slot : Nat} {stream : Stream}
      {change : Stream → Stream} {cause : CloseCause} {errorCode : Nat} :
      conn.OpenAt slot stream → ClosingChange false change →
        cause ≠ .localReset → Step conn
          (((conn.updateStream slot change).note
            (.closed stream.id cause)).enter
            (.streamClose stream.id errorCode))
  | closeReset {conn : Conn} {slot : Nat} {stream : Stream}
      {change : Stream → Stream} {errorCode : Nat} :
      conn.OpenAt slot stream → ClosingChange true change → Step conn
          ((((conn.updateStream slot change).note
            (.closed stream.id .localReset)).recordReset stream.id).enter
            (.streamClose stream.id errorCode))
  | drop {conn : Conn} {slot : Nat} {stream : Stream}
      {change : Stream → Stream} :
      conn.OpenAt slot stream → ClosingChange false change → Step conn
          ((conn.updateStream slot change).note (.closed stream.id .dropped))
  | clearReset {conn : Conn} {slot : Nat} {stream : Stream} {id : Int} :
      conn.streams[slot]? = some stream → PeerEnded conn.log id → Step conn
          ((conn.updateStream slot fun stream =>
            { stream with localReset := false }).note
            (.resetCleared stream.id id))
  | forget {conn : Conn} {id : Int} :
      0 < id →
        id ∈ conn.resetIds →
        PeerEnded conn.log id →
        Step conn
          (Conn.note
            { conn with
              resetIds := conn.resetIds.map fun entry =>
                  if entry = id then 0 else entry }
            (.resetForgotten id))
  -- Submissions.
  | message {conn : Conn} {slot : Nat} {stream : Stream} {body : Body}
      {events : List Event} :
      conn.OpenAt slot stream → HeaderFrames stream.id body.isEmpty events →
        Step conn
          (((conn.updateStream slot fun stream =>
            attachBody body
              { stream with endStreamSent := body.isEmpty }).notes
            events).note (.submitted stream.id (.message body)))
  | headersOnly {conn : Conn} {slot : Nat} {stream : Stream}
      {endStream : Bool} {events : List Event} :
      conn.OpenAt slot stream → HeaderFrames stream.id endStream events →
        Step conn
          (((conn.updateStream slot fun stream =>
            { stream with endStreamSent := stream.endStreamSent ||
              endStream }).notes
            events).note (.submitted stream.id (.headers endStream)))
  | bodyData {conn : Conn} {slot : Nat} {stream : Stream} {data : Bytes}
      {endStream : Bool} :
      conn.OpenAt slot stream → stream.body = none → stream.source = false →
        stream.endStreamSent = false →
        (data = [] → endStream = true) →
        Step conn
          ((conn.updateStream slot fun stream =>
            { stream with
              body := some data, bodyOff := 0, bodyEof := endStream }).note
            (.submitted stream.id (.data data endStream)))
  | trailersQueued {conn : Conn} {slot : Nat} {stream : Stream}
      {block : Bytes} :
      conn.OpenAt slot stream → Step conn
          ((conn.updateStream slot fun stream =>
            { stream with trailers := block, trailersPending := true }).note
            (.submitted stream.id .trailers))
  | trailersSent {conn : Conn} {slot : Nat} {stream : Stream}
      {events : List Event} :
      conn.OpenAt slot stream → HeaderFrames stream.id true events → Step conn
          (((conn.updateStream slot fun stream =>
            { stream with endStreamSent := true, bodyEof := false }).notes
              events).note
            (.submitted stream.id .trailers))
  | messageRefused {conn : Conn} {slot : Nat} {stream : Stream}
      {headers : List Entry} {body : Body} :
      conn.OpenAt slot stream → Step conn
          ((conn.updateStream slot fun stream =>
            { stream with endStreamSent := body.isEmpty }).note
            (.called (.submitResponseEx stream.id headers body) false))
  | trailersRefused {conn : Conn} {slot : Nat} {stream : Stream}
      {headers : List Entry} :
      conn.OpenAt slot stream → Step conn
          ((conn.updateStream slot fun stream =>
            { stream with endStreamSent := true, bodyEof := false }).note
            (.called (.submitTrailers stream.id headers) false))
  | blockBroken {conn : Conn} {slot : Nat} {stream : Stream}
      {endStream ended eof : Bool} {events : List Event} :
      conn.OpenAt slot stream →
        (events = [] ∨ HeaderFrames stream.id endStream events) → Step conn
          (((Conn.updateStream { conn with failed := true } slot
            fun stream =>
              { stream with endStreamSent := ended, bodyEof := eof }).notes
                events).note
            (.blockBroken stream.id))
  -- Message bodies.
  | emitEmpty {conn : Conn} {slot : Nat} {stream : Stream} :
      conn.OpenAt slot stream → stream.body = some [] → stream.bodyOff = 0 →
        stream.bodyEof = true →
        stream.source = false →
        Step conn
          ((conn.note
            (.frame (dataFrame flagEndStream stream.id []))).updateStream
            slot Stream.endBody)
  | emitChunk {conn : Conn} {slot : Nat} {stream : Stream} {body : Bytes}
      {size : Nat} :
      conn.OpenAt slot stream → stream.body = some body →
        stream.source = false → size ≠ 0 →
        stream.bodyOff + size ≤ body.length →
        size ≤ conn.connSendWindow →
        size ≤ stream.sendWindow →
        Step conn
          (((conn.note
            (.frame (dataFrame 0 stream.id
              ((body.drop stream.bodyOff).take size)))).spend slot
            size).updateStream slot fun stream =>
              { stream with bodyOff := stream.bodyOff + size })
  | emitLast {conn : Conn} {slot : Nat} {stream : Stream} {body : Bytes}
      {size : Nat} :
      conn.OpenAt slot stream → stream.body = some body →
        stream.source = false → size ≠ 0 →
        stream.bodyOff + size = body.length →
        stream.bodyEof = false →
        size ≤ conn.connSendWindow →
        size ≤ stream.sendWindow →
        Step conn
          (((conn.note
            (.frame (dataFrame 0 stream.id
              ((body.drop stream.bodyOff).take size)))).spend slot
            size).updateStream slot Stream.dropBody)
  | emitFinal {conn : Conn} {slot : Nat} {stream : Stream} {body : Bytes}
      {size : Nat} :
      conn.OpenAt slot stream → stream.body = some body →
        stream.source = false → size ≠ 0 →
        stream.bodyOff + size = body.length →
        stream.bodyEof = true →
        stream.trailersPending = false →
        size ≤ conn.connSendWindow →
        size ≤ stream.sendWindow →
        Step conn
          (((conn.note
            (.frame
              (dataFrame flagEndStream stream.id
                ((body.drop stream.bodyOff).take size)))).spend slot
            size).updateStream slot Stream.endBody)
  | emitTrailers {conn : Conn} {slot : Nat} {stream : Stream} {frame : Frame} :
      conn.OpenAt slot stream → stream.trailersPending = true →
        frame.type = .headers →
        frame.streamId = stream.id →
        Step conn
          ((conn.note (.frame frame)).updateStream slot fun stream =>
            { stream.endBody with trailersPending := false, trailers := [] })
  | trailersBroken {conn : Conn} {slot : Nat} {stream : Stream} :
      conn.OpenAt slot stream → stream.trailersPending = true → Step conn
          (conn.updateStream slot fun stream =>
            { stream with trailersPending := false })
  -- Sources.
  | pullWait {conn : Conn} {slot limit room : Nat} {stream : Stream}
      {pull : Pull} :
      conn.OpenAt slot stream → pull.status = .wait →
        Step conn (conn.note (.pulled stream.id pull limit room))
  | pullData {conn : Conn} {slot limit room : Nat} {stream : Stream}
      {pull : Pull} :
      conn.OpenAt slot stream → stream.source = true → pull.status = .data →
        pull.octets ≠ [] →
        pull.octets.length ≤ limit →
        pull.octets.length ≤ conn.connSendWindow →
        pull.octets.length ≤ stream.sendWindow →
        Step conn
          (((conn.note (.pulled stream.id pull limit room)).note
            (.frame (dataFrame 0 stream.id pull.octets))).spend slot
            pull.octets.length)
  | pullEnd {conn : Conn} {slot limit room : Nat} {stream : Stream}
      {pull : Pull} :
      conn.OpenAt slot stream → stream.source = true → pull.status = .eof →
        Step conn
          (((conn.note (.pulled stream.id pull limit room)).note
            (.frame (dataFrame flagEndStream stream.id []))).updateStream slot
            fun stream =>
              { stream with
                source := false, sourceDone := true, endStreamSent := true })
  | pullBroken {conn : Conn} {slot limit room : Nat} {stream : Stream}
      {pull : Pull} :
      conn.OpenAt slot stream → (pull.status = .error → room < 13) →
        (pull.status = .data →
          pull.octets = [] ∨ limit < pull.octets.length) →
        Step conn
          ((conn.note (.pulled stream.id pull limit room)).updateStream slot
            fun stream => { stream with source := false })
  | pullError {conn : Conn} {slot limit room errorCode : Nat}
      {stream : Stream} {change : Stream → Stream} {pull : Pull} :
      conn.OpenAt slot stream → pull.status = .error →
        ClosingChange true change → Step conn
          (((((conn.note (.pulled stream.id pull limit room)).note
            (.frame
              { type := .rstStream
                flags := 0
                streamId := stream.id
                payload := frameRstEncode errorCode })).updateStream slot
            change).note (.closed stream.id .localReset)).recordReset
            stream.id |>.enter (.streamClose stream.id errorCode))
  -- Header blocks of the peer.
  | blockBegins {conn : Conn} {blockEnd : Option Int} :
      (∀ id, blockEnd = some id → PeerEnded conn.log id) →
        Step conn { conn with blockEnd }
  | blockComplete {conn : Conn} {id : Int} {isOpen ignored : Bool} :
      (isOpen = true ↔ conn.IsOpen id) →
        Step conn (conn.note (.blockComplete id isOpen ignored))
  | headerCallback {conn : Conn} {event : Callback} {id : Int} :
      event.headerStream? = some id → HeadersLive conn.log id →
        Step conn (conn.note (.callback event))

/-- Any number of steps. -/
abbrev Steps : Conn → Conn → Prop := Relation.ReflTransGen Step

end Chttp.H2
