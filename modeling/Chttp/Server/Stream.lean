import Chttp.Lib.Chunked
import Chttp.Server.Buffer

/-!
# Streamed bodies of HTTP/1 responses

A handler may answer with a body source instead of a body.  The head of the
response is sent first; each completed send then asks the source for the next
part of the body, which is placed in the outbound buffer as it is or as a
chunk.  The source is the environment: what one call gets from it, and from
the memory the buffer lives in, is a parameter of the call.
-/

namespace Chttp.Server

open Lib

/-- Room in front of a chunk for its size. -/
def chunkReserve : Nat := 32

/-- The line end behind a chunk. -/
def chunkTrailerBytes : Nat := 2

/-- The limits of a server which a streamed body meets. -/
structure StreamConfig where
  maxSendBytes : Nat
  streamChunkBytes : Nat
  deriving DecidableEq, Repr

/-- The part of a response builder which is about its body source. -/
structure ResponseBuilder where
  /-- `source_enabled`. -/
  sourceEnabled : Bool
  /-- `content_length` of the source, where it is known. -/
  contentLength : Option Nat
  sourceTransferred : Nat
  sourceCapacity : Nat
  replied : Bool
  deferred : Bool
  deriving DecidableEq, Repr

/-- What a connection keeps of the response it is sending. -/
structure Outgoing where
  builder : ResponseBuilder
  responseStreaming : Bool
  responseSourceChunked : Bool
  responseCloseAfterStream : Bool
  closeAfterWrite : Bool
  /-- The outbound buffer; its length is `outbound_capacity`. -/
  outbound : Bytes
  outboundSize : Nat
  deriving DecidableEq, Repr

/-- The octets which are ready to be sent. -/
def Outgoing.ready (out : Outgoing) : Bytes :=
  out.outbound.take out.outboundSize

/-- What one read from a file transfer gives. -/
inductive FileRead where
  | data (data : Bytes)
  | wait
  | eof
  /-- The status of the transfer when a read fails. -/
  | error (status : Status)
  deriving DecidableEq, Repr

/-- What one read from a body source gives. -/
inductive SourceRead where
  | file (result : FileRead)
  | callback (status : Status) (data : Bytes)
  deriving DecidableEq, Repr

/-- What one call gets from the environment. -/
structure Supply where
  memory : Memory
  read : SourceRead
  deriving DecidableEq, Repr

/-! ## The code -/

variable (builder : ResponseBuilder)

/-- `chttp_server_response_source_owned`, past the checks of its arguments. -/
def ResponseBuilder.responseSource (contentLength : Option Nat) :
    Except Status ResponseBuilder :=
  if builder.deferred then
    .error .ealready
  else if builder.replied then
    .error .ealready
  else if contentLength.any (builder.sourceCapacity < ·) then
    .error .emsgsize
  else
    .ok { builder with
      contentLength := contentLength
      sourceTransferred := 0
      sourceEnabled := true
      replied := true }

/-- `chttp_server_response_builder_close_source`. -/
def ResponseBuilder.closeSource : ResponseBuilder :=
  if builder.sourceEnabled then
    { builder with sourceEnabled := false, contentLength := none }
  else
    builder

/-- What a response depends on in its request: the version, and whether the
connection is kept. -/
structure RequestLine where
  httpMajor : Nat
  httpMinor : Nat
  protocolKeepAlive : Bool
  deriving DecidableEq, Repr

/-- The request is an HTTP/1.1 one. -/
def RequestLine.http11 (request : RequestLine) : Bool :=
  request.httpMajor == 1 && request.httpMinor == 1

/-- The branch of `chttp_server_on_request` for a body source. -/
def Outgoing.startStreaming (out : Outgoing) (request : RequestLine) :
    Outgoing :=
  let known := out.builder.contentLength.isSome
  let chunked := !known && request.http11
  { out with
    responseStreaming := true
    responseSourceChunked := chunked
    responseCloseAfterStream := !request.protocolKeepAlive ||
      (!known && !chunked) }

variable (config : StreamConfig) (out : Outgoing)

/-- `chttp_server_connection_reserve_outbound`. -/
def reserveOutbound (required : Nat) (memory : Memory) : Status × Outgoing :=
  if !memory.idle then
    (.ebusy, out)
  else
    match bufferGrow out.outbound.length required config.maxSendBytes
        memory with
    | .error status => (status, out)
    | .ok capacity =>
      -- The new octets of a buffer have no fixed value; nothing reads them.
      let grown := { out with
        outbound := out.outbound ++ List.replicate
          (capacity - out.outbound.length) 0 }
      if capacity = 0 then (.ok, grown) else (memory.bound, grown)

/-- `chttp_server_response_stream_finish`. -/
def streamFinish (status : Status) : Status × Outgoing :=
  (status, { out with
    builder := out.builder.closeSource
    responseStreaming := false
    closeAfterWrite :=
      if status = .ok then out.responseCloseAfterStream
      else out.closeAfterWrite })

/-- Where the source writes in the outbound buffer, how much it may write, and
how much of the body is left. -/
structure Window where
  offset : Nat
  capacity : Nat
  remaining : Nat
  deriving DecidableEq, Repr

/-- How much of the body is left. -/
def ResponseBuilder.remaining : Except Status Nat :=
  match builder.contentLength with
  | some length =>
    if length < builder.sourceTransferred then
      .error .eproto
    else
      .ok (length - builder.sourceTransferred)
  | none =>
    if builder.sourceCapacity < builder.sourceTransferred then
      .error .emsgsize
    else
      .ok (builder.sourceCapacity - builder.sourceTransferred)

/-- The limits of the next read. -/
def streamWindow : Except Status Window :=
  let reserve := chunkReserve + chunkTrailerBytes
  if out.responseSourceChunked && out.outbound.length ≤ reserve then
    .error .emsgsize
  else
    let offset := if out.responseSourceChunked then chunkReserve else 0
    let room :=
      if out.responseSourceChunked then out.outbound.length - reserve
      else out.outbound.length
    let capacity := min room config.streamChunkBytes
    match out.builder.remaining with
    | .error status => .error status
    | .ok remaining =>
      let capacity := if remaining = 0 then capacity
        else min capacity remaining
      .ok ⟨offset, max capacity 1, remaining⟩

/-- Read from the source: nothing while it waits, or a status and octets. -/
def SourceRead.result : SourceRead → Option (Except Status Bytes)
  | .file (.data data) => some (.ok data)
  | .file .wait => none
  | .file .eof => some (.ok [])
  | .file (.error status) =>
    some (.error (if status = .ok then .eio else status))
  | .callback status data =>
    some (if status = .ok then .ok data else .error status)

/-- Place what was read in the outbound buffer, as a chunk where the body is
chunked: its size goes in front and the octets are moved behind it. -/
def streamAppend (offset size : Nat) : Status × Outgoing :=
  let out :=
    { out with
      builder.sourceTransferred := out.builder.sourceTransferred + size }
  if out.responseSourceChunked then
    let line := hexOctets size ++ crlf
    if chunkReserve ≤ line.length then
      streamFinish out .emsgsize
    else
      let moved := overlay out.outbound line.length
        (slice out.outbound offset size)
      let fronted := overlay moved 0 line
      (.ok, { out with
        outbound := overlay fronted (line.length + size) crlf
        outboundSize := line.length + size + chunkTrailerBytes })
  else
    (.ok, { out with outboundSize := size })

/-- End the body: a chunked one with the last chunk. -/
def streamEnd : Status × Outgoing :=
  if out.responseSourceChunked then
    streamFinish { out with
      outbound := overlay out.outbound 0 lastChunk
      outboundSize := lastChunk.length } .ok
  else
    streamFinish out .ok

/-- What follows a successful read of so many octets. -/
def streamAccept (window : Window) (size : Nat) : Status × Outgoing :=
  if window.capacity < size then
    streamFinish out .eproto
  else if out.builder.contentLength.isSome then
    if window.remaining = 0 then
      if size = 0 then streamFinish out .ok else streamFinish out .eproto
    else if size = 0 then
      streamFinish out .eproto
    else
      streamAppend out window.offset size
  else if window.remaining = 0 && size != 0 then
    streamFinish out .emsgsize
  else if size = 0 then
    streamEnd out
  else
    streamAppend out window.offset size

/-- `chttp_server_response_stream_next`. -/
def streamNext (supply : Supply) : Status × Outgoing :=
  if !out.responseStreaming || out.outboundSize != 0 then
    (.einval, out)
  else
    match reserveOutbound config out
        (config.streamChunkBytes + chunkReserve + chunkTrailerBytes)
        supply.memory with
    | (.ok, out) =>
      if !out.builder.sourceEnabled then
        streamFinish out .eproto
      else
        match streamWindow config out with
        | .error status => streamFinish out status
        | .ok window =>
          match supply.read.result with
          | none => (.ok, out)
          | some (.error status) => streamFinish out status
          | some (.ok data) =>
            streamAccept
              { out with outbound := overlay out.outbound window.offset data }
              window data.length
    | (status, out) => streamFinish out status

/-- The calls of a streamed body, what they handed to the transport, and how
the body ended. -/
structure StreamRun where
  calls : List Supply
  sent : Bytes
  ended : Option Status
  /-- The connection was closed because of an error. -/
  closed : Bool
  deriving DecidableEq, Repr

/-- One call after another, from `chttp_server_on_send` once the octets of the
last call are sent or from `chttp_server_h1_file_ready` once a file is ready;
both close the connection when a call fails. -/
def streamRun (config : StreamConfig) :
    Outgoing → List Supply → StreamRun × Outgoing
  | out, [] => (⟨[], [], none, false⟩, out)
  | out, supply :: supplies =>
    let (status, next) := streamNext config out supply
    if status ≠ .ok then
      (⟨[supply], [], some status, true⟩, next)
    else if !next.responseStreaming then
      (⟨[supply], next.ready, some status, false⟩, next)
    else
      let (rest, last) := streamRun config
        { next with outboundSize := 0 } supplies
      (⟨supply :: rest.calls, next.ready ++ rest.sent, rest.ended, rest.closed⟩,
        last)

/-! ## One call -/

/-- What stays the same while a body is streamed. -/
structure BodyStream where
  contentLength : Option Nat
  sourceCapacity : Nat
  chunked : Bool
  closeAfter : Bool
  /-- A body of known length is not chunked. -/
  unknown : chunked = true → contentLength = none

variable (body : BodyStream)

/-- The most octets the body may have. -/
def BodyStream.limit : Nat := body.contentLength.getD body.sourceCapacity

/-- A part of the body as it is sent. -/
def BodyStream.frame (data : Bytes) : Bytes :=
  if body.chunked then encodeChunk data else data

/-- What is sent behind the last part of the body. -/
def BodyStream.terminator : Bytes :=
  if body.chunked then lastChunk else []

/-- The connection is streaming the body and so many octets of it are sent. -/
structure Streams (body : BodyStream) (transferred : Nat) (out : Outgoing) :
    Prop where
  streaming : out.responseStreaming = true
  idle : out.outboundSize = 0
  enabled : out.builder.sourceEnabled = true
  contentLength : out.builder.contentLength = body.contentLength
  capacity : out.builder.sourceCapacity = body.sourceCapacity
  counted : out.builder.sourceTransferred = transferred
  chunked : out.responseSourceChunked = body.chunked
  closeAfter : out.responseCloseAfterStream = body.closeAfter
  within : transferred ≤ body.limit

/-- The octets which the source returned in a call. -/
def Supply.octets (supply : Supply) : Bytes :=
  match supply.read.result with
  | some (.ok data) => data
  | _ => []

/-- What one call does to a body of which so many octets are sent. -/
inductive Turn (body : BodyStream) (transferred : Nat) (supply : Supply) :
    Status × Outgoing → Prop where
  /-- The file is not ready; nothing is sent. -/
  | waited {next : Outgoing}
      (waits : supply.read.result = none)
      (streams : Streams body transferred next) :
      Turn body transferred supply (.ok, next)
  /-- A part of the body is sent. -/
  | appended {next : Outgoing} {data : Bytes}
      (returned : supply.read.result = some (.ok data))
      (nonempty : data ≠ [])
      (sent : next.ready = body.frame data)
      (streams : Streams body (transferred + data.length)
        { next with outboundSize := 0 }) :
      Turn body transferred supply (.ok, next)
  /-- The source has no more and the body may end here. -/
  | ended {next : Outgoing}
      (returned : supply.read.result = some (.ok []))
      (sent : next.ready = body.terminator)
      (stopped : next.responseStreaming = false)
      (close : next.closeAfterWrite = body.closeAfter)
      (whole : ∀ length, body.contentLength = some length →
        transferred = length) :
      Turn body transferred supply (.ok, next)
  /-- Anything else is an error. -/
  | failed {status : Status} {next : Outgoing} (error : status ≠ .ok) :
      Turn body transferred supply (status, next)

/-- Reserving room touches only the buffer, which is then large enough. -/
theorem reserveOutbound_spec (out : Outgoing) (required : Nat)
    (memory : Memory) :
    ∃ outbound, (reserveOutbound config out required memory).2 =
        { out with outbound := outbound } ∧
      out.outbound <+: outbound ∧
      ((reserveOutbound config out required memory).1 = .ok →
        required ≤ outbound.length) := by
  have grows :=
    bufferGrow_yields out.outbound.length required config.maxSendBytes memory
  unfold reserveOutbound
  split
  · exact ⟨out.outbound, rfl, List.prefix_rfl, nofun⟩
  split
  · rename_i status refused
    rw [refused] at grows
    exact ⟨out.outbound, rfl, List.prefix_rfl, fun equal => absurd equal grows⟩
  rename_i capacity granted
  rw [granted] at grows
  have ⟨enough, keeps⟩ := grows
  refine ⟨out.outbound ++ List.replicate (capacity - out.outbound.length) 0, ?_,
    List.prefix_append _ _, fun _ => ?_⟩
  · simp only
    split <;> rfl
  · rw [List.length_append, List.length_replicate]
    omega

variable {body : BodyStream} {transferred : Nat} {out : Outgoing}
  {supply : Supply} {data : Bytes}

theorem Streams.remaining (streams : Streams body transferred out) :
    out.builder.remaining = .ok (body.limit - transferred) := by
  have within := streams.within
  rw [ResponseBuilder.remaining, streams.contentLength, streams.counted,
    streams.capacity]
  rw [BodyStream.limit] at within ⊢
  cases known : body.contentLength with
  | none | some length =>
    rw [known] at within
    exact if_neg (Nat.not_lt.mpr within)

/-- The window lies in the buffer, with room for the framing around it, and
within what is left of the body. -/
structure Window.Fits (window : Window) (body : BodyStream)
    (transferred size : Nat) : Prop where
  offset : window.offset = if body.chunked then chunkReserve else 0
  inside : window.offset + window.capacity ≤ size
  trailer : body.chunked = true →
    window.offset + window.capacity + chunkTrailerBytes ≤ size
  remaining : window.remaining = body.limit - transferred
  capacity : window.remaining ≠ 0 → window.capacity ≤ window.remaining

/-- The window of a stream fits its buffer. -/
theorem Streams.window (streams : Streams body transferred out)
    (config : StreamConfig)
    (room : chunkReserve + chunkTrailerBytes ≤ out.outbound.length) :
    Yields (fun window => window.Fits body transferred out.outbound.length)
      (streamWindow config out) := by
  rw [streamWindow, streams.remaining, streams.chunked]
  simp only [chunkReserve, chunkTrailerBytes] at room ⊢
  cases chunked : body.chunked with
  | true =>
    simp only [Bool.true_and, ↓reduceIte]
    split
    · exact Status.noConfusion
    rename_i small
    have large : 34 < out.outbound.length :=
      Nat.lt_of_not_le fun less => small (decide_eq_true less)
    refine ⟨by rw [chunked]; rfl, ?_, fun _ => ?_, rfl, fun left => ?_⟩
    · simp only
      split <;> omega
    · simp only [chunkTrailerBytes]
      split <;> omega
    · simp only at left ⊢
      rw [if_neg left]
      omega
  | false =>
    simp only [Bool.false_and, Bool.false_eq_true, ↓reduceIte]
    refine ⟨by rw [chunked]; rfl, ?_, ?_, rfl, fun left => ?_⟩
    · simp only
      split <;> omega
    · rw [chunked]
      rintro ⟨⟩
    · simp only at left ⊢
      rw [if_neg left]
      omega

theorem streamFinish_ended (returned : supply.read.result = some (.ok []))
    (sent : out.ready = body.terminator)
    (close : out.responseCloseAfterStream = body.closeAfter)
    (whole : ∀ length, body.contentLength = some length →
      transferred = length) :
    Turn body transferred supply (streamFinish out .ok) :=
  .ended returned sent rfl close whole

theorem Streams.advance {size : Nat} (streams : Streams body transferred out)
    (outbound : Bytes) (within : transferred + size ≤ body.limit) :
    Streams body (transferred + size)
      { out with
        builder.sourceTransferred := out.builder.sourceTransferred + size
        outbound := outbound
        outboundSize := 0 } :=
  { streams with
    idle := rfl, counted := congrArg (· + size) streams.counted,
    within := within }

/-- The octets of a chunk in the buffer: the octets read are moved behind the
line with their size, and the line end is put behind them. -/
theorem take_chunk {buffer line : Bytes}
    (room : line.length + data.length ≤ buffer.length) :
    (overlay (overlay (overlay buffer line.length data) 0 line)
        (line.length + data.length) crlf).take
        (line.length + data.length + chunkTrailerBytes) =
      line ++ data ++ crlf := by
  have moved : (overlay buffer line.length data).length = buffer.length :=
    length_overlay room
  have fronted : (overlay (overlay buffer line.length data) 0 line).length =
      buffer.length := by
    rw [length_overlay, moved]
    rw [moved]
    omega
  refine take_overlay_behind crlf (take_overlay_front buffer line data ?_) ?_
  · omega
  · rw [fronted]
    exact room

/-- Octets which were read are appended as one frame. -/
theorem streamAppend_turn {window : Window}
    (streams : Streams body transferred out)
    (fits : window.Fits body transferred out.outbound.length)
    (returned : supply.read.result = some (.ok data)) (nonempty : data ≠ [])
    (capacity : data.length ≤ window.capacity) (left : window.remaining ≠ 0) :
    Turn body transferred supply
      (streamAppend
        { out with outbound := overlay out.outbound window.offset data }
        window.offset data.length) := by
  have within : transferred + data.length ≤ body.limit := by
    have remaining := fits.remaining
    have bounded := fits.capacity left
    have sofar := streams.within
    omega
  have inside := fits.inside
  have copied : slice (overlay out.outbound window.offset data) window.offset
      data.length = data :=
    slice_overlay data (by omega)
  have size : (overlay out.outbound window.offset data).length =
      out.outbound.length :=
    length_overlay (by omega)
  rw [streamAppend, copied]
  simp only
  split
  · rename_i chunking
    have chunked := streams.chunked.symm.trans chunking
    have trailer := fits.trailer chunked
    have start : window.offset = chunkReserve := by
      rw [fits.offset, chunked]
      rfl
    split
    · exact .failed Status.noConfusion
    rename_i short
    refine .appended returned nonempty ?_ (streams.advance _ within)
    rw [BodyStream.frame, chunked]
    exact take_chunk (by omega)
  rename_i plain
  have chunked : body.chunked = false := by
    rw [← streams.chunked]
    exact Bool.eq_false_of_not_eq_true plain
  refine .appended returned nonempty ?_ (streams.advance _ within)
  have start : window.offset = 0 := by
    rw [fits.offset, chunked]
    rfl
  rw [slice, start, List.drop_zero] at copied
  rw [BodyStream.frame, chunked, start]
  exact copied

theorem streamEnd_turn (streams : Streams body transferred out)
    (unknown : body.contentLength = none)
    (returned : supply.read.result = some (.ok [])) :
    Turn body transferred supply (streamEnd out) := by
  have whole : ∀ length, body.contentLength = some length →
      transferred = length := by
    intro length known
    rw [unknown] at known
    cases known
  rw [streamEnd]
  split
  · rename_i chunking
    have chunked := streams.chunked.symm.trans chunking
    refine streamFinish_ended returned ?_ streams.closeAfter whole
    rw [BodyStream.terminator, chunked]
    exact take_overlay_behind lastChunk (List.take_zero ..) (Nat.zero_le _)
  · rename_i plain
    refine streamFinish_ended returned ?_ streams.closeAfter whole
    rw [BodyStream.terminator, ← streams.chunked, if_neg plain,
      Outgoing.ready, streams.idle, List.take_zero]

/-- What follows a successful read. -/
theorem streamAccept_turn {window : Window}
    (streams : Streams body transferred out)
    (fits : window.Fits body transferred out.outbound.length)
    (returned : supply.read.result = some (.ok data)) :
    Turn body transferred supply
      (streamAccept
        { out with outbound := overlay out.outbound window.offset data }
        window data.length) := by
  have written : Streams body transferred
      { out with outbound := overlay out.outbound window.offset data } :=
    { streams with }
  have failed : ∀ {status : Status}, status ≠ .ok →
      Turn body transferred supply (streamFinish
        { out with outbound := overlay out.outbound window.offset data }
        status) :=
    fun error => .failed error
  rw [streamAccept]
  split
  · exact failed Status.noConfusion
  rename_i capacity
  simp only [streams.contentLength]
  have appended : window.remaining ≠ 0 → data.length ≠ 0 → _ :=
    fun left size => streamAppend_turn streams fits returned
      (mt List.length_eq_zero_iff.mpr size) (Nat.le_of_not_lt capacity) left
  have nothing : data.length = 0 → supply.read.result = some (.ok []) := by
    intro size
    rw [returned, List.length_eq_zero_iff.mp size]
  split
  · rename_i known
    have plain : body.chunked = false := by
      refine Bool.eq_false_of_not_eq_true fun chunked => ?_
      rw [body.unknown chunked] at known
      cases known
    split
    · rename_i complete
      split
      · rename_i size
        refine streamFinish_ended (nothing size) ?_ streams.closeAfter ?_
        · rw [BodyStream.terminator, plain, Outgoing.ready, streams.idle,
            List.take_zero]
          rfl
        intro length declared
        have remaining := fits.remaining
        have sofar := streams.within
        rw [BodyStream.limit, declared, Option.getD_some] at remaining sofar
        omega
      · exact failed Status.noConfusion
    rename_i left
    split
    · exact failed Status.noConfusion
    · rename_i size
      exact appended left size
  rename_i unknown
  have undeclared : body.contentLength = none :=
    Option.not_isSome_iff_eq_none.mp unknown
  split
  · exact failed Status.noConfusion
  rename_i full
  split
  · rename_i size
    exact streamEnd_turn written undeclared (nothing size)
  · rename_i size
    refine appended (fun complete => full ?_) size
    rw [complete]
    exact bne_iff_ne.mpr size

theorem SourceRead.error_ne_ok {read : SourceRead} {status : Status}
    (failed : read.result = some (.error status)) : status ≠ .ok := by
  cases read with
  | file result =>
    cases result with
    | error status =>
      rw [SourceRead.result] at failed
      split at failed
      · cases failed
        exact Status.noConfusion
      · cases failed
        assumption
    | _ => cases failed
  | callback status data =>
    rw [SourceRead.result] at failed
    split at failed
    · cases failed
    · cases failed
      assumption

theorem streamNext_turn (streams : Streams body transferred out)
    (config : StreamConfig)
    (supply : Supply) :
    Turn body transferred supply (streamNext config out supply) := by
  obtain ⟨outbound, reserved, -, enough⟩ := reserveOutbound_spec config out
    (config.streamChunkBytes + chunkReserve + chunkTrailerBytes)
    supply.memory
  have open' : (!out.responseStreaming || out.outboundSize != 0) = false := by
    rw [streams.streaming, streams.idle]
    rfl
  rw [streamNext, open', if_neg Bool.false_ne_true]
  split
  · rename_i grown granted
    rw [granted] at reserved enough
    cases reserved
    have room : chunkReserve + chunkTrailerBytes ≤ outbound.length :=
      Nat.le_trans (by omega) (enough rfl)
    have held : Streams body transferred { out with outbound := outbound } :=
      { streams with }
    have fits := held.window config room
    simp only [streams.enabled, Bool.not_true, Bool.false_eq_true, ↓reduceIte]
    split
    · rename_i status refused
      rw [refused] at fits
      exact .failed fits
    rename_i window granted
    rw [granted] at fits
    split
    · rename_i waits
      exact .waited waits held
    · rename_i status returned
      exact .failed (SourceRead.error_ne_ok returned)
    · rename_i data returned
      exact streamAccept_turn held fits returned
  · rename_i status grown mismatch refused
    exact .failed mismatch

/-! ## The whole body -/

/-- The octets which the source returned over a run. -/
def StreamRun.octets (run : StreamRun) : Bytes :=
  run.calls.flatMap Supply.octets

/-- The calls of a run in which the source did not wait. -/
def StreamRun.reads (run : StreamRun) : Nat :=
  run.calls.countP fun supply => supply.read.result.isSome

/-- What a run sent is the framing of parts of the body. -/
structure StreamRun.Frames (run : StreamRun) (body : BodyStream)
    (transferred : Nat) (parts : List Bytes) : Prop where
  nonempty : ∀ part ∈ parts, part ≠ []
  within : transferred + parts.flatten.length ≤ body.limit
  sent : run.sent = parts.flatMap body.frame ++
    (if run.ended = some .ok then body.terminator else [])
  returned : parts.flatten <+: run.octets
  closed : run.closed = true ↔ ∃ status, run.ended = some status ∧ status ≠ .ok
  exact : run.closed = false → run.octets = parts.flatten
  whole : run.ended = some .ok → ∀ length, body.contentLength = some length →
      transferred + parts.flatten.length = length
  unfinished : run.ended = none → run.reads ≤ parts.flatten.length

theorem StreamRun.Frames.waited {run : StreamRun} {parts : List Bytes}
    (frames : run.Frames body transferred parts)
    (waits : supply.read.result = none) :
    StreamRun.Frames { run with calls := supply :: run.calls } body
      transferred parts := by
  have none : supply.octets = [] := by
    rw [Supply.octets, waits]
  have octets : (supply :: run.calls).flatMap Supply.octets = run.octets := by
    rw [List.flatMap_cons, none]
    rfl
  have reads : StreamRun.reads { run with calls := supply :: run.calls } =
      run.reads := by
    simp [StreamRun.reads, waits]
  exact { frames with
    returned := frames.returned.trans (octets ▸ List.prefix_rfl)
    exact := fun finished => octets.trans (frames.exact finished)
    unfinished := fun going => reads ▸ frames.unfinished going }

/-- One more frame in front of a run. -/
theorem StreamRun.Frames.appended {run : StreamRun} {parts : List Bytes}
    (frames : run.Frames body (transferred + data.length) parts)
    (returned : supply.read.result = some (.ok data)) (nonempty : data ≠ []) :
    StreamRun.Frames
      { run with
        calls := supply :: run.calls, sent := body.frame data ++ run.sent }
      body transferred (data :: parts) := by
  have got : supply.octets = data := by
    rw [Supply.octets, returned]
  have octets : (supply :: run.calls).flatMap Supply.octets =
      data ++ run.octets := by
    rw [List.flatMap_cons, got]
    rfl
  have length : (data :: parts).flatten.length =
      data.length + parts.flatten.length := by
    rw [List.flatten_cons, List.length_append]
  have size := List.length_pos_iff.mpr nonempty
  constructor
  case nonempty => exact List.forall_mem_cons.mpr ⟨nonempty, frames.nonempty⟩
  case within =>
    rw [length, ← Nat.add_assoc]
    exact frames.within
  case sent =>
    rw [frames.sent, List.flatMap_cons, List.append_assoc]
  case returned =>
    rw [StreamRun.octets, octets, List.flatten_cons]
    exact (List.prefix_append_right_inj data).mpr frames.returned
  case closed => exact frames.closed
  case exact =>
    intro finished
    refine octets.trans ?_
    rw [frames.exact finished, List.flatten_cons]
  case whole =>
    intro ended total known
    rw [length, ← Nat.add_assoc]
    exact frames.whole ended total known
  case unfinished =>
    intro going
    have fewer := frames.unfinished going
    have reads : StreamRun.reads
        { run with
          calls := supply :: run.calls
          sent := body.frame data ++ run.sent } = run.reads + 1 := by
      simp [StreamRun.reads, returned]
    rw [reads, length]
    omega

/-- A run which starts in the middle of a body frames the rest of it. -/
theorem streamRun_frames (streams : Streams body transferred out)
    (config : StreamConfig) (supplies : List Supply) :
    ∃ parts, (streamRun config out supplies).1.Frames body transferred
      parts := by
  induction supplies generalizing transferred out with
  | nil =>
    exact ⟨[], {
      nonempty := List.forall_mem_nil _
      within := streams.within
      sent := rfl
      returned := List.nil_prefix
      closed := by simp [streamRun]
      exact := fun _ => rfl
      whole := nofun
      unfinished := fun _ => Nat.zero_le _ }⟩
  | cons supply supplies induction =>
    have turn := streamNext_turn streams config supply
    rw [streamRun]
    generalize streamNext config out supply = result at turn
    cases turn with
    | @waited next waits held =>
      have sent : Streams body transferred
          { next with outboundSize := 0 } :=
        { held with idle := rfl }
      obtain ⟨parts, frames⟩ := induction sent
      refine ⟨parts, ?_⟩
      have nothing : next.ready = [] := by
        rw [Outgoing.ready, held.idle, List.take_zero]
      simpa [held.streaming, nothing] using frames.waited waits
    | @appended next data returned nonempty sent held =>
      obtain ⟨parts, frames⟩ := induction held
      refine ⟨data :: parts, ?_⟩
      have going : next.responseStreaming = true := held.streaming
      simpa [going, sent] using frames.appended returned nonempty
    | @ended next returned sent stopped close whole =>
      refine ⟨[], ?_⟩
      simp only [stopped]
      exact {
        nonempty := List.forall_mem_nil _
        within := streams.within
        sent := sent
        returned := List.nil_prefix
        closed := by simp
        exact := fun _ => by
          simp [StreamRun.octets, Supply.octets, returned]
        whole := fun _ => whole
        unfinished := nofun }
    | @failed status next error =>
      refine ⟨[], ?_⟩
      simp only [ne_eq, error, not_false_eq_true, ↓reduceIte]
      exact {
        nonempty := List.forall_mem_nil _
        within := streams.within
        sent := by simp [error]
        returned := List.nil_prefix
        closed := by simp [error]
        exact := nofun
        whole := fun ended => by simp [error] at ended
        unfinished := nofun }

/-- The body which a response with a source has. -/
def bodyStream (request : RequestLine) (builder : ResponseBuilder) :
    BodyStream where
  contentLength := builder.contentLength
  sourceCapacity := builder.sourceCapacity
  chunked := !builder.contentLength.isSome && request.http11
  closeAfter := !request.protocolKeepAlive ||
    (!builder.contentLength.isSome &&
      !(!builder.contentLength.isSome && request.http11))
  unknown := by
    intro chunked
    cases known : builder.contentLength with
    | none => rfl
    | some length =>
      rw [known] at chunked
      cases chunked

/-- The connection once the head of a response with a source is sent. -/
def Outgoing.afterHead (out : Outgoing) (request : RequestLine)
    (builder : ResponseBuilder) : Outgoing :=
  { ({ out with builder := builder } : Outgoing).startStreaming
    request with outboundSize := 0 }

theorem responseSource_spec {builder attached : ResponseBuilder}
    {contentLength : Option Nat}
    (accepted : builder.responseSource contentLength = .ok attached) :
    attached = { builder with
      contentLength := contentLength
      sourceTransferred := 0
      sourceEnabled := true
      replied := true } := by
  rw [ResponseBuilder.responseSource] at accepted
  split_ifs at accepted
  cases accepted
  rfl

theorem afterHead_streams {builder attached : ResponseBuilder}
    {contentLength : Option Nat}
    (accepted : builder.responseSource contentLength = .ok attached)
    (out : Outgoing) (request : RequestLine) :
    Streams (bodyStream request attached) 0
      (out.afterHead request attached) := by
  rw [responseSource_spec accepted]
  exact ⟨rfl, rfl, rfl, rfl, rfl, rfl, rfl, rfl, Nat.zero_le _⟩

theorem flatMap_frame (body : BodyStream) (parts : List Bytes) :
    parts.flatMap body.frame =
    if body.chunked then parts.flatMap encodeChunk else parts.flatten := by
  cases chunked : body.chunked with
  | true =>
    refine congrArg (parts.flatMap ·) (funext fun part => ?_)
    rw [BodyStream.frame, chunked]
    rfl
  | false =>
    have plain : body.frame = id := by
      funext part
      rw [BodyStream.frame, chunked]
      rfl
    rw [plain, List.flatMap_id]
    rfl

/-- A streamed body is framed exactly.

A body which ends well is, where its length was declared, the octets of the
source and so many of them; otherwise it is, for an HTTP/1.1 request, a chunked
coding of the octets of the source with one last chunk, and the octets as they
are for an older one.  A body which does not end well closes the connection
behind the framing of a part of what the source returned, without a last
chunk; while it goes on, that is what is sent so far, and a source which does
not wait makes it end within its limit. -/
theorem streamed_body_framed (config : StreamConfig) (request : RequestLine)
    (out : Outgoing)
    (supplies : List Supply) {builder attached : ResponseBuilder}
    {contentLength : Option Nat}
    (accepted : builder.responseSource contentLength = .ok attached) :
    let run := (streamRun config (out.afterHead request attached) supplies).1
    let limit := contentLength.getD builder.sourceCapacity
    let chunked := contentLength.isNone && request.http11
    (run.ended = some .ok →
      run.closed = false ∧ run.octets.length ≤ limit ∧
      (∀ length, contentLength = some length → run.sent = run.octets ∧
        run.sent.length = length) ∧
      (chunked = true →
        dechunk run.sent = some run.octets ∧
        ∃ chunks : List Bytes, (∀ chunk ∈ chunks, chunk ≠ []) ∧
          chunks.flatten = run.octets ∧
          run.sent = chunks.flatMap encodeChunk ++ lastChunk) ∧
      (chunked = false → run.sent = run.octets)) ∧
    (run.ended ≠ some .ok → ∃ parts : List Bytes, (∀ part ∈ parts, part ≠ []) ∧
        parts.flatten <+: run.octets ∧ parts.flatten.length ≤ limit ∧
        run.sent =
          if chunked then parts.flatMap encodeChunk else parts.flatten) ∧
    (∀ status, run.ended = some status → status ≠ .ok → run.closed = true) ∧
    (run.ended = none → run.closed = false ∧ run.reads ≤ limit) := by
  intro run limit chunked
  obtain ⟨parts, frames⟩ :=
    streamRun_frames (afterHead_streams accepted out request) config supplies
  have shape := responseSource_spec accepted
  have bound : (bodyStream request attached).limit = limit := by
    rw [shape]
    rfl
  have coding : (bodyStream request attached).chunked = chunked := by
    rw [shape]
    cases contentLength <;> rfl
  have within : parts.flatten.length ≤ limit := by
    have within := frames.within
    rwa [Nat.zero_add, bound] at within
  have sent := frames.sent
  rw [flatMap_frame, coding] at sent
  refine ⟨fun ended => ?_, fun unended => ?_, fun status ended error => ?_,
    fun going => ?_⟩
  · have finished : run.closed = false := by
      refine Bool.eq_false_of_not_eq_true fun closed => ?_
      obtain ⟨status, other, error⟩ := frames.closed.mp closed
      exact error (Option.some.inj (other.symm.trans ended))
    have octets := frames.exact finished
    have plain : chunked = false → run.sent = run.octets := by
      intro unchunked
      rw [if_pos ended, BodyStream.terminator, coding, unchunked] at sent
      exact sent.trans ((List.append_nil _).trans octets.symm)
    refine ⟨finished, octets ▸ within, fun length known => ?_,
      fun chunking => ?_, plain⟩
    · have same := plain (by simp [chunked, known])
      have whole := frames.whole ended length (by rw [shape]; exact known)
      rw [Nat.zero_add, ← octets] at whole
      exact ⟨same, same ▸ whole⟩
    · rw [if_pos ended, BodyStream.terminator, coding, chunking] at sent
      refine ⟨?_, parts, frames.nonempty, octets.symm, sent⟩
      rw [sent, octets]
      exact dechunk_flatMap parts frames.nonempty
  · rw [if_neg unended, List.append_nil] at sent
    exact ⟨parts, frames.nonempty, frames.returned, within, sent⟩
  · exact frames.closed.mpr ⟨status, ended, error⟩
  · refine ⟨Bool.eq_false_of_not_eq_true fun closed => ?_,
      (frames.unfinished going).trans within⟩
    obtain ⟨status, other, -⟩ := frames.closed.mp closed
    cases going.symm.trans other

/-- A builder which has room for sixteen octets from a source. -/
def ResponseBuilder.empty : ResponseBuilder where
  sourceEnabled := false
  contentLength := none
  sourceTransferred := 0
  sourceCapacity := 16
  replied := false
  deferred := false

/-- A connection on which nothing is being sent. -/
def Outgoing.quiet : Outgoing where
  builder := .empty
  responseStreaming := false
  responseSourceChunked := false
  responseCloseAfterStream := false
  closeAfterWrite := false
  outbound := []
  outboundSize := 0

/-- A read from a callback, with memory to spare. -/
def Supply.callback (text : String) : Supply where
  memory := ⟨true, true, true, .ok⟩
  read := .callback .ok (ascii text)

/-- The same builder with a source of unknown length. -/
def ResponseBuilder.unknown : ResponseBuilder :=
  { ResponseBuilder.empty with sourceEnabled := true, replied := true }

/-- Two reads and the end of the source make two chunks and the last one. -/
theorem streamed_body_framed_chunks :
    let run := (streamRun ⟨4096, 8⟩ (Outgoing.quiet.afterHead ⟨1, 1, true⟩
      .unknown) [.callback "ab", .callback "c", .callback ""]).1
    run.ended = some .ok ∧ run.octets = ascii "abc" ∧
      run.sent = ascii "2\r\nab\r\n1\r\nc\r\n0\r\n\r\n" ∧
      dechunk run.sent = some run.octets := by
  intro run
  have ended : run.ended = some .ok := by decide +kernel
  have framed := @streamed_body_framed ⟨4096, 8⟩ ⟨1, 1, true⟩ .quiet
    [.callback "ab", .callback "c", .callback ""] .empty .unknown none rfl
  obtain ⟨-, -, -, chunked, -⟩ := framed.1 ended
  exact ⟨ended, by decide +kernel, by decide +kernel, (chunked rfl).1⟩

end Chttp.Server
