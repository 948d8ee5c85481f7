import Chttp.H2.Simulation.Submit

/-!
# Steps of the send path

Each round of `proto_emit_data` is one step, possibly with the end of the
stream or of the connection behind it.
-/

namespace Chttp.H2

open Lib Hpack

variable {hook : Hook}

/-! ## Flat bodies -/

variable {world pulled : World} {slot limit room : Nat} {stream : Stream}
  {pull : Pull}

theorem emitEmpty_moves (faithful : Faithful hook) (live : Live world.conn)
    (isOpen : world.conn.OpenAt slot stream) (noSource : stream.source = false)
    (emptyBody : stream.body = some []) (atStart : stream.bodyOff = 0)
    (isFinal : stream.bodyEof = true) (room : Nat) :
    Moves world (emitEmpty hook world slot stream room) := by
  rw [emitEmpty]
  split
  · exact .refl world
  rcases outFrame_spec world (dataFrame flagEndStream stream.id []) with
    ⟨equal, -⟩ | ⟨queued, equal, isQueued⟩
  · rw [equal]
    exact protoFail_moves live .internalError
  rw [equal]
  have emitted : Moves world (queued.updateStream slot Stream.endBody) := by
    refine ⟨.single ?_, isQueued.becomes.reading⟩
    rw [conn_updateStream, isQueued.becomes.conn]
    exact Step.emitEmpty isOpen emptyBody atStart isFinal noSource
  exact emitted.trans (maybeClose_moves faithful (emitted.live live) slot)

theorem capChunk_le (proto : Proto) (stream : Stream) (chunk : Nat) :
    capChunk proto stream chunk ≤ chunk ∧
      (capChunk proto stream chunk ≠ 0 →
        (capChunk proto stream chunk : Int) ≤ proto.connSendWindow ∧
          (capChunk proto stream chunk : Int) ≤ stream.sendWindow) := by
  rw [capChunk]
  generalize chosenEq :
    (if proto.sendChunk = 0 then chunk else min chunk proto.sendChunk) = chosen
  have below : chosen ≤ chunk := by
    rw [← chosenEq]
    split
    · exact le_rfl
    · exact min_le_left _ _
  omega

theorem conn_spendWindows (world : World) (slot size : Nat) :
    (spendWindows world slot size).conn = world.conn.spend slot size := rfl

theorem OpenAt.spend {conn : Conn} (isOpen : conn.OpenAt slot stream)
    (size : Nat) :
    (conn.spend slot size).OpenAt slot
      { stream with sendWindow := stream.sendWindow - size } :=
  OpenAt.updateStream isOpen
    (fun stream => { stream with sendWindow := stream.sendWindow - size }) rfl

theorem emitTrailers_moves (faithful : Faithful hook) (live : Live world.conn)
    {old : Stream}
    (isOpen : world.conn.OpenAt slot stream)
    (pending : stream.trailersPending = true)
    (sameId : old.id = stream.id) :
    Moves world (emitTrailers hook world slot old).1 := by
  rw [emitTrailers]
  simp only
  rcases outFrame_spec
      (world.updateStream slot fun stream =>
        { stream with trailersPending := false })
      { type := .headers
        flags := flagEndHeaders ||| flagEndStream
        streamId := old.id
        payload := old.trailers } with
    ⟨equal, -⟩ | ⟨queued, equal, isQueued⟩
  · rw [equal]
    have broken : Moves world
        (world.updateStream slot fun stream =>
          { stream with trailersPending := false }) :=
      ⟨.single (Step.trailersBroken isOpen pending), rfl⟩
    exact broken.trans (protoFail_moves (broken.live live) .internalError)
  rw [equal]
  have emitted : Moves world
      (queued.updateStream slot fun stream =>
        { stream.endBody with trailers := [] }) := by
    refine ⟨.single ?_, isQueued.becomes.reading⟩
    rw [conn_updateStream, isQueued.becomes.conn, conn_updateStream,
      updateStream_note_updateStream]
    exact Step.emitTrailers isOpen pending rfl sameId
  exact emitted.trans (maybeClose_moves faithful (emitted.live live) slot)

/-- A round for a flat body makes steps. -/
theorem emitFlat_moves (faithful : Faithful hook) (live : Live world.conn)
    (isOpen : world.conn.OpenAt slot stream) (noSource : stream.source = false)
    (limit : Nat) :
    Moves world (emitFlat hook world slot stream limit).1 := by
  rw [emitFlat]
  have caps := capChunk_le world.proto stream
    (min (stream.bodyLen - stream.bodyOff) limit)
  generalize capChunk world.proto stream
      (min (stream.bodyLen - stream.bodyOff) limit) = chunk at caps ⊢
  simp only
  split
  · exact .refl world
  rename_i going
  rw [not_or, not_not] at going
  rcases going with ⟨pending, nonzero⟩
  rcases caps with ⟨small, windows⟩
  rcases windows nonzero with ⟨connWindow, streamWindow⟩
  have inside : stream.bodyOff + chunk ≤ stream.bodyLen := by
    omega
  rcases Option.isSome_iff_exists.mp (Bool.and_eq_true_iff.mp pending).1 with
    ⟨body, hasBody⟩
  have sameLength : stream.bodyLen = body.length := by
    rw [Stream.bodyLen, hasBody]
    rfl
  rw [hasBody, Option.getD_some]
  rw [sameLength] at inside ⊢
  -- The flag is set exactly on the last frame of a body without trailers.
  generalize endsEq :
    (decide (stream.bodyOff + chunk = body.length) && stream.bodyEof &&
      !stream.trailersPending) = ends
  rcases outFrame_spec world
      (dataFrame (if ends = true then flagEndStream else 0) stream.id
        ((body.drop stream.bodyOff).take chunk)) with
    ⟨equal, -⟩ | ⟨queued, equal, isQueued⟩
  · rw [equal]
    exact protoFail_moves live .internalError
  rw [equal]
  simp only
  have reading := isQueued.becomes.reading
  have after := isQueued.becomes.conn
  have close : ∀ {next : World}, Moves world next →
      Moves world (maybeClose hook next slot) := fun moved =>
    moved.trans (maybeClose_moves faithful (moved.live live) slot)
  -- A frame which does not end the stream leaves the body in place.
  have chunked (unended : ends = false) : Moves world
      ((spendWindows queued slot chunk).updateStream slot fun stream =>
        { stream with bodyOff := stream.bodyOff + chunk }) := by
    refine ⟨.single ?_, reading⟩
    rw [unended] at after
    rw [conn_updateStream, conn_spendWindows, after]
    exact Step.emitChunk isOpen hasBody noSource nonzero inside connWindow
      streamWindow
  by_cases final : stream.bodyOff + chunk = body.length
  · simp only [final, decide_true, Bool.true_and] at endsEq
    simp only [final, decide_true, not_true_eq_false, if_false]
    by_cases isFinal : stream.bodyEof = true
    · rw [isFinal, Bool.true_and] at endsEq
      simp only [isFinal, not_true_eq_false, if_false]
      by_cases trailers : stream.trailersPending = true
      · rw [trailers, Bool.not_true] at endsEq
        rw [if_pos trailers]
        have moved := chunked endsEq.symm
        have stillOpen :
            ((spendWindows queued slot chunk).updateStream slot fun stream =>
                { stream with
                  bodyOff := stream.bodyOff + chunk }).conn.OpenAt slot
              { stream with
                sendWindow := stream.sendWindow - chunk
                bodyOff := stream.bodyOff + chunk } := by
          rw [conn_updateStream, conn_spendWindows, after]
          exact OpenAt.updateStream (OpenAt.spend isOpen chunk) _ rfl
        exact moved.trans
          (emitTrailers_moves faithful (moved.live live) stillOpen trailers
            rfl)
      rw [Bool.eq_false_of_not_eq_true trailers, Bool.not_false] at endsEq
      rw [if_neg trailers]
      apply close
      refine ⟨.single ?_, reading⟩
      rw [← endsEq] at after
      rw [conn_updateStream, conn_updateStream, conn_spendWindows, after,
        updateStream_updateStream]
      exact Step.emitFinal isOpen hasBody noSource nonzero final isFinal
        (Bool.eq_false_of_not_eq_true trailers) connWindow streamWindow
    rw [Bool.eq_false_of_not_eq_true isFinal, Bool.false_and] at endsEq
    rw [if_pos (by simpa using isFinal)]
    apply close
    refine ⟨.single ?_, reading⟩
    rw [← endsEq] at after
    rw [conn_updateStream, conn_updateStream, conn_spendWindows, after,
      updateStream_updateStream]
    exact Step.emitLast isOpen hasBody noSource nonzero final
      (Bool.eq_false_of_not_eq_true isFinal) connWindow streamWindow
  · rw [decide_eq_false final, Bool.false_and, Bool.false_and] at endsEq
    rw [if_pos (by simpa using final)]
    exact close (chunked endsEq.symm)

/-! ## Sources -/

theorem pullSource_spec (world : World) (stream : Stream) (limit room : Nat) :
    ∃ pulled pull,
    pullSource world stream limit room = (pulled, pull) ∧
      pulled.proto = world.proto ∧
      pulled.conn = world.conn.note (.pulled stream.id pull limit room) := by
  rw [pullSource]
  split <;> exact ⟨_, _, rfl, rfl, rfl⟩

theorem dropSource_moves (isOpen : world.conn.OpenAt slot stream)
    (sameProto : pulled.proto = world.proto)
    (after : pulled.conn = world.conn.note (.pulled stream.id pull limit room))
    (noRoom : pull.status = .error → room < 13)
    (broken : pull.status = .data → pull.octets = [] ∨
      limit < pull.octets.length) :
    Moves world (dropSource pulled slot) := by
  constructor
  · refine .single ?_
    rw [dropSource, conn_updateStream, after]
    exact Step.pullBroken isOpen noRoom broken
  · rw [← sameProto]
    rfl

/-- The reset of a stream whose source has failed. -/
theorem sourceError_moves (faithful : Faithful hook) (live : Live world.conn)
    (isOpen : world.conn.OpenAt slot stream)
    (sameProto : pulled.proto = world.proto)
    (after : pulled.conn = world.conn.note (.pulled stream.id pull limit room))
    (failed : pull.status = .error)
    (roomEq : room = world.proto.config.outputBufferBytes -
      world.proto.out.size)
    (errorCode : Nat) :
    Moves world
      (submitRstStream hook (dropSource pulled slot) stream.id
        errorCode).1 := by
  have bounds := id_bounds live isOpen.1
  have sent := announced_of_getElem? live isOpen.1
  have dropped : (dropSource pulled slot).conn =
      (world.conn.note (.pulled stream.id pull limit room)).updateStream slot
        fun stream => { stream with source := false } := by
    rw [dropSource, conn_updateStream, after]
  have announced : (dropSource pulled slot).conn.announced = true := by
    rw [dropped]
    exact sent
  have distinct : (dropSource pulled slot).conn.ids.Nodup := by
    have same : (dropSource pulled slot).conn.ids = world.conn.ids := by
      simp [dropped, Conn.ids, map_modify_of_eq]
    rw [same]
    exact live.table.nodup
  have droppedOpen : (dropSource pulled slot).conn.OpenAt slot
      { stream with source := false } := by
    rw [dropped]
    exact OpenAt.updateStream isOpen
      (fun stream => { stream with source := false }) rfl
  have found := findOpen_of_openAt distinct droppedOpen
  rw [submitRstStream, if_neg (by omega), ensurePreface_of_announced announced]
  simp only at found ⊢
  rw [found]
  simp only
  rcases outFrame_spec (dropSource pulled slot)
      { type := .rstStream
        flags := 0
        streamId := stream.id
        payload := frameRstEncode errorCode } with
    ⟨equal, unfit⟩ | ⟨queued, equal, isQueued⟩
  · rw [equal]
    refine dropSource_moves isOpen sameProto after ?_ ?_
    · intro _
      by_contra enough
      apply unfit
      have capacity : world.proto.out.maxCapacity =
          world.proto.config.outputBufferBytes := live.bounded.outCapacity
      have sameOut : (dropSource pulled slot).proto.out = world.proto.out := by
        rw [← sameProto]
        rfl
      refine ⟨le_of_lt bounds.1,
        bounds.2, by simp [frameRstEncode, writeU32, maxFrameBytes], ?_⟩
      rw [sameOut, capacity]
      change 13 ≤ _
      omega
    · intro impossible
      rw [failed] at impossible
      cases impossible
  rw [equal]
  have closing : ClosingChange true fun stream =>
      { ({ stream with source := false }).dropBody.dropTrailers with
        localReset := true
        closed := true } := by
    intro item
    cases pending : item.trailersPending <;>
      simp [Stream.dropTrailers, Stream.dropBody, pending]
  apply Moves.callback faithful live
  · refine .single ?_
    rw [conn_recordReset, conn_markClosed, isQueued.becomes.conn, dropped,
      updateStream_note_updateStream]
    exact Step.pullError isOpen failed closing
  · rw [recordReset_reading, ← sameProto]
    exact isQueued.becomes.reading

theorem sourceData_moves (live : Live world.conn)
    (isOpen : world.conn.OpenAt slot stream)
    (hasSource : stream.source = true) (sameProto : pulled.proto = world.proto)
    (after : pulled.conn = world.conn.note (.pulled stream.id pull limit room))
    (status : pull.status = .data) (some : pull.octets ≠ [])
    (fits : pull.octets.length ≤ limit)
    (small : limit ≤ world.proto.peer.maxFrameSize)
    (reserved : world.proto.out.reserve (frameHeaderSize + limit) = true)
    (connWindow : (limit : Int) ≤ world.proto.connSendWindow)
    (streamWindow : (limit : Int) ≤ stream.sendWindow) :
    ∃ queued, outFrame pulled (dataFrame 0 stream.id pull.octets) =
      (queued, true) ∧
        Moves world (spendWindows queued slot pull.octets.length) := by
  have bounds := id_bounds live isOpen.1
  rcases outFrame_spec pulled (dataFrame 0 stream.id pull.octets) with
    ⟨-, unfit⟩ | ⟨queued, equal, isQueued⟩
  · exfalso
    apply unfit
    have frameLimit : world.proto.peer.maxFrameSize ≤ maxFrameBytes :=
      live.bounded.peerFrame
    rw [Buffer.reserve, decide_eq_true_eq] at reserved
    rw [FrameFits, sameProto]
    refine ⟨le_of_lt bounds.1, bounds.2, ?_, ?_⟩ <;>
      simp only [dataFrame] <;> omega
  refine ⟨queued, equal, .single ?_, ?_⟩
  · rw [conn_spendWindows, isQueued.becomes.conn, after]
    have connFits : (pull.octets.length : Int) ≤
        world.proto.connSendWindow := by
      omega
    exact Step.pullData isOpen hasSource status some fits connFits (by omega)
  · rw [← sameProto]
    exact isQueued.becomes.reading

section

variable (faithful : Faithful hook)

include faithful

section

variable (live : Live world.conn) (isOpen : world.conn.OpenAt slot stream)
  (hasSource : stream.source = true)

include live isOpen hasSource

/-- A source which has ended follows the connection. -/
theorem sourceEnd_moves (sameProto : pulled.proto = world.proto)
    (after : pulled.conn = world.conn.note (.pulled stream.id pull limit room))
    (status : pull.status = .eof) :
    Moves world
      (match
        outFrame
          ((dropSource pulled slot).updateStream slot fun stream =>
            { stream with sourceDone := true })
          (dataFrame flagEndStream stream.id [])
      with
      | (world, false) => (protoFail world .internalError, false)
      | (world, true) =>
        (maybeClose hook
          (world.updateStream slot fun stream =>
            { stream with endStreamSent := true })
          slot, false)).1 := by
  rcases outFrame_spec
      ((dropSource pulled slot).updateStream slot fun stream =>
        { stream with sourceDone := true })
      (dataFrame flagEndStream stream.id []) with
    ⟨equal, -⟩ | ⟨queued, equal, isQueued⟩
  · rw [equal]
    have dropped := dropSource_moves isOpen sameProto after (by simp [status])
      (by simp [status])
    have done : Moves (dropSource pulled slot)
        ((dropSource pulled slot).updateStream slot fun stream =>
          { stream with sourceDone := true }) :=
      ⟨.single (Step.tune fun stream => rfl), rfl⟩
    have both := dropped.trans done
    exact both.trans (protoFail_moves (both.live live) .internalError)
  rw [equal]
  have ended : Moves world
      (queued.updateStream slot fun stream =>
        { stream with endStreamSent := true }) := by
    constructor
    · refine .single ?_
      rw [conn_updateStream, isQueued.becomes.conn, conn_updateStream,
        dropSource, conn_updateStream, after, updateStream_updateStream,
        updateStream_note_updateStream]
      exact Step.pullEnd isOpen hasSource status
    · rw [← sameProto]
      exact isQueued.becomes.reading
  exact ended.trans (maybeClose_moves faithful (ended.live live) slot)

/-- A round for a source makes steps. -/
theorem emitSource_moves
    (roomEq : room = world.proto.config.outputBufferBytes -
      world.proto.out.size)
    (small : limit ≤ world.proto.peer.maxFrameSize) :
    Moves world (emitSource hook world slot stream room limit).1 := by
  rw [emitSource]
  have caps := capChunk_le world.proto stream limit
  generalize capChunk world.proto stream limit = chunk at caps ⊢
  simp only
  split
  · exact .refl world
  rename_i going
  rw [not_or] at going
  split
  · exact protoFail_moves live .internalError
  rename_i reserved
  rw [not_not] at reserved
  rcases caps.2 going.2 with ⟨connWindow, streamWindow⟩
  rcases pullSource_spec world stream chunk room with
    ⟨pulled, pull, equal, sameProto, after⟩
  rw [equal]
  simp only
  have breaks (noError : pull.status ≠ .error)
      (broken : pull.status = .data →
        pull.octets = [] ∨ chunk < pull.octets.length) :
      Moves world (protoFail (dropSource pulled slot) .internalError) := by
    have dropped := dropSource_moves isOpen sameProto after
      (fun failed => absurd failed noError) broken
    exact dropped.trans (protoFail_moves (dropped.live live) .internalError)
  split
  · rename_i status
    split
    · exact breaks (by simp [status]) (by simp [status])
    have waiting : Moves world pulled := by
      constructor
      · rw [after]
        exact .single (Step.pullWait isOpen status)
      · rw [sameProto]
    have tuned : Moves pulled
        (pulled.updateStream slot fun stream =>
          { stream with sourceWaiting := true }) :=
      ⟨.single (Step.tune fun stream => rfl), rfl⟩
    exact waiting.trans tuned
  · rename_i status
    exact sourceError_moves faithful live isOpen sameProto after status roomEq _
  · rename_i status
    split
    · rename_i broken
      refine breaks (by simp [status]) fun _ => ?_
      exact broken.imp_left List.length_eq_zero_iff.mp
    rename_i sound
    rw [not_or] at sound
    rcases sourceData_moves live isOpen hasSource sameProto after status
        (fun empty => sound.1 (by rw [empty]; rfl)) (by omega)
        (caps.1.trans small) reserved connWindow streamWindow with
      ⟨queued, queuedEq, moves⟩
    rw [queuedEq]
    exact moves
  · rename_i status
    split
    · exact breaks (by simp [status]) (by simp [status])
    · exact sourceEnd_moves faithful live isOpen hasSource sameProto after
        status
  · rename_i status
    exact breaks (by simp [status]) (by simp [status])

end

/-! ## The loop -/

theorem emitRound_moves (live : Live world.conn) (slot : Nat) :
    Moves world (emitRound hook world slot).1 := by
  rw [emitRound]
  split
  · exact .refl world
  rename_i stream present
  simp only
  split
  · exact .refl world
  rename_i notClosed
  have isOpen : world.conn.OpenAt slot stream :=
    ⟨present, Bool.eq_false_of_not_eq_true notClosed⟩
  split
  · exact protoFail_moves live .internalError
  split
  · rename_i emptyBody
    rcases emptyBody with ⟨noSource, body, atStart, isFinal⟩
    exact emitEmpty_moves faithful live isOpen
      (Bool.eq_false_of_not_eq_true noSource) body atStart isFinal _
  split
  · exact .refl world
  split
  · exact .refl world
  split
  · rename_i hasSource
    exact emitSource_moves faithful live isOpen hasSource rfl (min_le_left _ _)
  · rename_i noSource
    exact emitFlat_moves faithful live isOpen
      (Bool.eq_false_of_not_eq_true noSource) _

theorem emitData_moves (slot : Nat) (live : Live world.conn) :
    Moves world (emitData hook slot world) := by
  rw [emitData]
  generalize world.proto.connSendWindow.toNat + 1 = rounds
  induction rounds generalizing world with
  | zero => exact .refl world
  | succ rounds induction =>
    have first := emitRound_moves faithful live slot
    rw [emitLoop]
    rcases round : emitRound hook world slot with ⟨next, _ | _⟩ <;>
      rw [round] at first
    · exact first
    exact first.trans (induction (first.live live))

theorem send_moves (live : Live world.conn) :
    Moves world (send hook world).1 := by
  have before := ensurePreface_moves live
  rw [send]
  rcases preface : ensurePreface world with ⟨prefaced, _ | _⟩ <;>
    rw [preface] at before
  · exact before
  have flush (world : World) : Moves world
      ((world.update fun proto =>
        { proto with out := proto.out.clear }).note
        (.flushed world.proto.out.data)) := by
    -- All octets of the output leave it.
    have flushed := @conn_output world world.proto.out.clear
        (.flushed world.proto.out.data) rfl (if_pos rfl)
    exact Becomes.step ⟨flushed, rfl⟩ (Step.note rfl)
  simp only
  split
  · exact before.trans (flush prefaced)
  · have each : ∀ slot world, Live world.conn →
        Moves world (emitData hook slot world) :=
      fun slot world live => emitData_moves faithful slot live
    have emitted := visitSlots_moves each (before.live live)
    exact before.trans (emitted.trans (flush _))

end

end Chttp.H2
