import Chttp.H2.Simulation.Send

/-!
# Steps of the receive path

What the dispatch of a frame does to the abstraction of an engine, one
theorem for each type of frame.
-/

namespace Chttp.H2

open Lib Hpack

variable {hook : Hook}

variable {world world' start after charged : World} {slot : Nat}
  {header : FrameHeader}
  {payload : Bytes} {ignored : Bool} {context : HeaderContext}

theorem Moves.of_conn_eq (same : world'.conn = world.conn)
    (reading : world'.proto.inHeadersStream = world.proto.inHeadersStream) :
    Moves world world' := by
  refine ⟨?_, reading⟩
  rw [same]

/-! ## Settings of the peer -/

theorem storePeerSetting_spec {mode : Mode} {peer stored : Settings}
    {setting : Setting}
    (isStored : storePeerSetting mode peer setting = .ok stored) :
    stored.initialWindowSize = peer.initialWindowSize ∧
      (stored.maxFrameSize = peer.maxFrameSize ∨
        stored.maxFrameSize ≤ maxFrameBytes) := by
  rw [storePeerSetting] at isStored
  split at isStored <;> grind [maxFrameBytes]

theorem applyPeerSetting_moves {applied : World} {setting : Setting}
    (isApplied : applyPeerSetting world setting = .ok applied) :
    Moves world applied := by
  rw [applyPeerSetting] at isApplied
  split at isApplied
  · rw [applyInitialWindow] at isApplied
    simp only at isApplied
    split at isApplied
    · cases isApplied
    rename_i small
    split at isApplied
    · rename_i allowed
      cases isApplied
      refine ⟨.single ?_, rfl⟩
      exact Step.shift (Nat.le_of_not_lt small) (List.all_eq_true.mp allowed)
    · cases isApplied
  split at isApplied
  · cases isApplied
  rename_i stored isStored
  cases isApplied
  rcases storePeerSetting_spec isStored with ⟨sameWindow, frameSize⟩
  have changed : (world.update fun proto =>
    { proto with peer := stored }).conn =
      { world.conn with peerFrame := stored.maxFrameSize } := by
    simp only [World.conn, World.update, sameWindow]
    rfl
  rcases frameSize with same | small
  · refine Moves.of_conn_eq ?_ rfl
    rw [changed, same]
    rfl
  · refine ⟨.single ?_, rfl⟩
    rw [changed]
    exact Step.peerFrame small

theorem applyPeerSettings_moves (settings : List Setting) (world : World) :
    Moves world (applyPeerSettings world settings).1 := by
  induction settings generalizing world with
  | nil => exact .refl world
  | cons setting settings induction =>
    rw [applyPeerSettings]
    split
    · exact .refl world
    · rename_i applied isApplied
      exact (applyPeerSetting_moves isApplied).trans (induction applied)

/-- A SETTINGS frame follows the connection. -/
theorem dispatchSettings_moves (faithful : Faithful hook)
    (live : Live world.conn) (header : FrameHeader) (payload : Bytes) :
    Moves world (dispatchSettings hook world header payload) := by
  rw [dispatchSettings]
  split
  · exact protoFail_moves live .protocolError
  split
  · split
    · exact protoFail_moves live .frameSizeError
    have acked : Moves world
        (world.update fun proto =>
          { proto with settingsAcked := true }) :=
      Moves.of_conn_eq rfl rfl
    exact acked.trans (callback_moves faithful rfl (acked.live live))
  split
  · exact protoFail_moves live .protocolError
  rename_i settings _
  have applied := applyPeerSettings_moves settings world
  cases result : applyPeerSettings world settings with
  | mk after failure =>
    rw [result] at applied
    cases failure with
    | some error =>
      exact applied.trans (protoFail_moves (applied.live live) error)
    | none =>
      have received : Moves world
          (after.update fun proto =>
            { proto with peerSettingsReceived := true }) :=
        applied.trans (Moves.of_conn_eq rfl rfl)
      have called := received.trans
          (callback_moves faithful
            (rfl : (Callback.settings settings).neutral = true)
            (received.live live))
      simp only
      rcases outFrame_spec
          (callback hook (.settings settings)
            (after.update fun proto =>
              { proto with peerSettingsReceived := true })).1
          { type := .settings, flags := flagAck, streamId := 0,
            payload := [] } with
        ⟨equal, -⟩ | ⟨queued, equal, isQueued⟩
      · rw [equal]
        exact called.trans (protoFail_moves (called.live live) .protocolError)
      · rw [equal]
        exact called.trans (isQueued.moves rfl)

/-! ## Credit, resets and GOAWAY of the peer -/

theorem announceCredit_moves (faithful : Faithful hook) (live : Live start.conn)
    {streamId : Int}
    {increment : Nat}
    (before : Moves start (world.note (.credited streamId increment))) :
    Moves start (announceCredit hook world streamId increment) := by
  rw [announceCredit]
  have first := before.trans
    (callback_moves faithful
      (rfl : (Callback.windowUpdate streamId increment).neutral = true)
      (before.live live))
  exact first.trans (callback_moves faithful rfl (first.live live))

theorem find_spec {id : Int} (found : world.proto.find id = some slot) :
    ∃ stream, world.stream? slot = some stream ∧ stream.id = id := by
  rcases getElem?_of_findIdx? found with ⟨-, stream, present, same⟩
  exact ⟨stream, present, beq_iff_eq.mp same⟩

section

variable (faithful : Faithful hook) (live : Live world.conn)

include faithful live

theorem dispatchWindowUpdate_moves (header : FrameHeader) (payload : Bytes) :
    Moves world (dispatchWindowUpdate hook world header payload) := by
  rw [dispatchWindowUpdate]
  generalize readU32 payload % 2 ^ 31 = increment
  split
  · exact protoFail_moves live .frameSizeError
  split
  · exact protoFail_moves live .flowControlError
  split
  · split
    · exact protoFail_moves live .flowControlError
    rename_i fits
    refine announceCredit_moves faithful live ⟨.single ?_, rfl⟩
    have below : world.conn.connSendWindow + increment ≤ maxWindow := by
      change world.proto.connSendWindow + _ ≤ _
      omega
    exact Step.creditConn below
  split
  · split
    · exact .refl world
    · exact protoFail_moves live .protocolError
  rename_i slot found
  rcases find_spec found with ⟨stream, present, sameId⟩
  rw [present]
  simp only
  split
  · exact .refl world
  rename_i notClosed
  split
  · exact protoFail_moves live .flowControlError
  rename_i fits
  refine announceCredit_moves faithful live ⟨.single ?_, rfl⟩
  have below : stream.sendWindow + increment ≤ maxWindow := by
    omega
  rw [← sameId]
  exact Step.creditStream ⟨present, Bool.eq_false_of_not_eq_true notClosed⟩
    below

theorem dispatchRstStream_moves (noted : .received header payload ∈ world.log)
    (isRst : FrameType.ofCode header.type = some .rstStream) :
    Moves world (dispatchRstStream hook world header payload) := by
  have ended : PeerEnded world.log header.streamId :=
    ⟨header, payload, noted, rfl, .inl isRst⟩
  rw [dispatchRstStream]
  generalize readU32 payload = errorCode
  split
  · exact protoFail_moves live .protocolError
  split
  · exact protoFail_moves live .frameSizeError
  split
  · split
    · exact forgetReset_moves ended
    · exact protoFail_moves live .protocolError
  rename_i slot found
  rcases find_spec found with ⟨stream, present, sameId⟩
  rw [← sameId] at ended
  rw [present, ← sameId]
  simp only
  have closed : Moves world
      (if stream.closed then
        world
      else
        (callback hook (.streamClose stream.id errorCode)
          (markClosed world slot stream.id .peerReset
            fun stream => stream.dropBody.dropTrailers)).1) := by
    split
    · exact .refl world
    · rename_i notClosed
      exact close_moves faithful live
        ⟨present, Bool.eq_false_of_not_eq_true notClosed⟩
        closing_dropTrailers (by decide) errorCode
  have settled :=
    closed.trans (settleReset_moves slot (ended.mono closed.steps.log))
  exact settled.trans (callback_moves faithful rfl (settled.live live))

theorem dispatchGoaway_moves (header : FrameHeader) (payload : Bytes) :
    Moves world (dispatchGoaway hook world header payload) := by
  rw [dispatchGoaway]
  split
  · exact protoFail_moves live .protocolError
  split
  · exact protoFail_moves live .protocolError
  rename_i last errorCode _
  have draining : Moves world
      (world.update fun proto =>
        { proto with
          goawayReceivedLast := last
          goawayReceivedError := errorCode
          draining := true }) :=
    Moves.of_conn_eq rfl rfl
  have called := draining.trans
    (callback_moves faithful
      (rfl : (Callback.goaway last errorCode).neutral = true)
      (draining.live live))
  refine called.trans (visitSlots_moves ?_ (called.live live))
  intro slot world live
  split
  · exact .refl world
  rename_i stream present
  split
  · rename_i refused
    exact close_moves faithful live
      ⟨present, Bool.eq_false_of_not_eq_true refused.1⟩
      closing_dropTrailers (by decide) _
  · exact .refl world

theorem dispatchPing_moves (header : FrameHeader) (payload : Bytes) :
    Moves world (dispatchPing hook world header payload) := by
  rw [dispatchPing]
  split
  · exact protoFail_moves live .protocolError
  split
  · exact callback_moves faithful rfl live
  rcases outFrame_spec world
      { type := .ping, flags := flagAck, streamId := 0, payload } with
    ⟨equal, -⟩ | ⟨queued, equal, isQueued⟩
  · rw [equal]
    exact protoFail_moves live .protocolError
  · rw [equal]
    exact isQueued.moves rfl

end

/-! ## Header blocks -/

/-- The log grew without closing a stream. -/
def Unclosing (world world' : World) : Prop :=
  ∃ events, world'.log = world.log ++ events ∧
      ∀ id cause, .closed id cause ∉ events

theorem Unclosing.refl (world : World) : Unclosing world world :=
  ⟨[], by simp, by simp⟩

/-- What closes nothing composes. -/
theorem Unclosing.trans {first second third : World}
    (left : Unclosing first second)
    (right : Unclosing second third) : Unclosing first third := by
  rcases left with ⟨before, equal, unclosed⟩
  rcases right with ⟨after, equal', unclosed'⟩
  refine ⟨before ++ after, ?_, ?_⟩
  · rw [equal', equal, List.append_assoc]
  · intro id cause member
    exact (List.mem_append.mp member).elim (unclosed id cause)
      (unclosed' id cause)

theorem HeadersLive.unclosing {id : Int} (alive : HeadersLive world.log id)
    (unclosing : Unclosing world world') : HeadersLive world'.log id := by
  rcases alive with ⟨before, isOpen, after, equal, excused⟩
  rcases unclosing with ⟨events, equal', unclosed⟩
  refine ⟨before, isOpen, after ++ events, ?_, ?_⟩
  · rw [equal', equal, List.append_assoc, List.cons_append]
  intro cause member
  rcases List.mem_append.mp member with old | new
  · rcases excused cause old with
      ⟨first, callback, second, split, header, closed⟩
    refine ⟨first, callback, second ++ events, ?_, header, closed⟩
    rw [split, List.append_assoc, List.cons_append]
  · exact absurd new (unclosed id cause)

/-- Neutral events close nothing. -/
theorem Unclosing.neutral {events : List Event}
    (equal : world'.log = world.log ++ events)
    (neutral : Neutral events) : Unclosing world world' := by
  refine ⟨events, equal, ?_⟩
  intro id cause member
  cases neutral _ member

theorem protoFail_unclosing (live : Live world.conn)
    (error : ErrorCode) : Unclosing world (protoFail world error) := by
  rw [protoFail]
  split
  · exact Unclosing.refl world
  rcases submitGoaway_spec
      (world.update fun proto =>
        { proto with failed := true, lastError := error.code })
      world.proto.lastProcStreamId.toNat error.code
      (live.step Step.fail).bounded with
    ⟨conn', events, announced, neutral, becomes⟩
  rcases announced.log with ⟨earlier, alsoNeutral, equal⟩
  refine Unclosing.neutral ?_ (alsoNeutral.append neutral)
  have after := congrArg Conn.log becomes.conn
  rw [Conn.notes_log, equal, List.append_assoc] at after
  exact after

theorem forgetReset_unclosing (world : World) (id : Int) :
    Unclosing world (forgetReset world id) := by
  rw [forgetReset]
  split
  · exact ⟨[.resetForgotten id], rfl, by simp⟩
  · exact Unclosing.refl world

theorem settleReset_unclosing (world : World) (slot : Nat) (id : Int) :
    Unclosing world (settleReset world slot id) := by
  rw [settleReset]
  split
  · exact Unclosing.refl world
  rename_i stream _
  have cleared : Unclosing world
      ((world.updateStream slot fun stream =>
        { stream with localReset := false }).note
        (.resetCleared stream.id id)) :=
    ⟨[.resetCleared stream.id id], rfl, by simp⟩
  exact cleared.trans (forgetReset_unclosing _ id)

theorem endRemote_moves (live : Live world.conn) (slot : Option Nat)
    (ignored : Bool) :
    Moves world (endRemote world slot ignored) ∧
      Unclosing world (endRemote world slot ignored) := by
  unfold endRemote
  split
  · rename_i ends
    have ended : PeerEnded world.log world.proto.inHeadersStream :=
      live.blockEnd (if_pos ends)
    split
    · rename_i slot
      have marked : Moves world
          (world.updateStream slot fun stream =>
            { stream with remoteEndStream := true }) :=
        ⟨.single (Step.tune fun stream => rfl), rfl⟩
      have unclosing : Unclosing world
          (world.updateStream slot fun stream =>
            { stream with remoteEndStream := true }) :=
        Unclosing.refl world
      simp only
      split
      · exact ⟨marked, unclosing⟩
      · split
        · exact ⟨marked.trans (settleReset_moves slot ended),
            unclosing.trans (settleReset_unclosing _ slot _)⟩
        · exact ⟨marked, unclosing⟩
    · split
      · exact ⟨forgetReset_moves ended, forgetReset_unclosing world _⟩
      · exact ⟨Moves.refl world, Unclosing.refl world⟩
  · exact ⟨Moves.refl world, Unclosing.refl world⟩

theorem refuseHeaders_moves (faithful : Faithful hook)
    (live : Live world.conn) (slot : Option Nat) (error : ErrorCode) :
    Moves world (refuseHeaders hook world slot error) := by
  unfold refuseHeaders
  split
  · exact .refl world
  rename_i slot
  split
  · simp only
    have reset :=
      submitRstStream_moves faithful live world.proto.inHeadersStream error.code
    cases result : submitRstStream hook world world.proto.inHeadersStream
      error.code with
    | mk after succeeded =>
      rw [result] at reset
      cases succeeded with
      | false =>
        exact reset.trans (protoFail_moves (reset.live live) _)
      | true =>
        simp only
        split
        · rename_i ends
          have ended : PeerEnded after.log after.proto.inHeadersStream :=
            (reset.live live).blockEnd (if_pos ends)
          rw [reset.reading] at ended
          exact reset.trans (settleReset_moves slot ended)
        · exact reset
  · exact .refl world

theorem headerCallback_moves (faithful : Faithful hook) (live : Live world.conn)
    {event : Callback} {id : Int} (header : event.headerStream? = some id)
    (alive : HeadersLive world.log id) :
    Moves world (callback hook event world).1 ∧
      (event.blockStream? = some id → (callback hook event world).2 = 0 →
        HeadersLive (callback hook event world).1.log id) := by
  rw [callback]
  split
  · have entered : Moves world (world.note (.callback event)) :=
      ⟨.single (Step.headerCallback header alive), rfl⟩
    refine ⟨entered.trans (faithful.moves _ _ (entered.live live)), ?_⟩
    intro inBlock accepted
    rcases faithful.returned event _ (entered.live live) with
      ⟨events, equal⟩
    rw [accepted] at equal
    rcases alive with ⟨before, isOpen, after, original, -⟩
    refine ⟨before, isOpen,
      after ++ [.callback event] ++ events ++ [.returned event 0], ?_, ?_⟩
    · rw [equal]
      change (world.log ++ [.callback event]) ++ events ++ _ = _
      rw [original]
      simp
    · intro cause closed
      refine ⟨after ++ [.callback event] ++ events, event, [], rfl, inBlock, ?_⟩
      simpa using closed
  · exact ⟨.refl world, fun _ _ => alive⟩

theorem Callback.headerStream?_of_blockStream? {event : Callback} {id : Int}
    (inBlock : event.blockStream? = some id) :
    event.headerStream? = some id := by
  cases event with
  | beginHeaders | header => exact inBlock
  | _ => cases inBlock

/-- What holds while the header block of a stream is read. -/
structure Reading (start : World) (id : Int) (ignored : Bool)
    (context : HeaderContext) : Prop where
  moves : Moves start context.world
  streamId : context.streamId = id
  alive : context.ignore = false → HeadersLive context.world.log id
  agree : ignored = false → context.callbackFailed = context.ignore

/-- A field which is delivered keeps the block being read. -/
theorem Reading.record (faithful : Faithful hook) (live : Live start.conn)
    {id : Int}
    (reading : Reading start id ignored context)
    (active : context.ignore = false)
    {event : Callback} (inBlock : event.blockStream? = some id) :
    Reading start id ignored
      (context.record (callback hook event context.world)) := by
  rcases headerCallback_moves faithful (reading.moves.live live)
    (Callback.headerStream?_of_blockStream? inBlock) (reading.alive active) with
    ⟨moves, alive⟩
  rw [HeaderContext.record]
  split
  · rename_i accepted
    exact { reading with
            moves := reading.moves.trans moves,
            alive _ := alive inBlock accepted }
  · exact ⟨reading.moves.trans moves, reading.streamId, nofun, fun _ => rfl⟩

theorem findOpen_isSome_iff (live : Live world.conn)
    (id : Int) : (world.findOpen id).isSome = true ↔ world.conn.IsOpen id := by
  constructor
  · intro found
    rcases Option.isSome_iff_exists.mp found with ⟨⟨slot, stream⟩, equal⟩
    rcases findOpen_spec equal with ⟨isOpen, sameId⟩
    exact ⟨slot, stream, isOpen, sameId⟩
  · rintro ⟨slot, stream, isOpen, rfl⟩
    rw [findOpen_of_openAt live.table.nodup isOpen]
    rfl

theorem beginHeaders_reading (faithful : Faithful hook)
    (live : Live world.conn) :
    Reading world world.proto.inHeadersStream
      (resetIgnored world world.proto.inHeadersStream)
      (beginHeaders hook world) := by
  generalize idEq : world.proto.inHeadersStream = id
  generalize ignoredEq : resetIgnored world id = ignored
  have complete : Moves world
      (world.note (.blockComplete id (world.findOpen id).isSome ignored)) :=
    ⟨.single (Step.blockComplete (findOpen_isSome_iff live id)), rfl⟩
  rw [beginHeaders, idEq, ignoredEq]
  cases ignored with
  | true =>
    rw [if_pos rfl]
    exact ⟨complete, rfl, nofun, nofun⟩
  | false =>
    rw [if_neg (by simp)]
    have start : Reading world id false
        { world :=
            world.note (.blockComplete id (world.findOpen id).isSome false)
          streamId := id
          ignore := false
          callbackFailed := false } :=
      ⟨complete, rfl, fun _ => ⟨world.log, _, [], rfl, by simp⟩, fun _ => rfl⟩
    exact start.record faithful live rfl rfl

theorem decode_reading (faithful : Faithful hook) (live : Live start.conn)
    {id : Int}
    (reading : Reading start id ignored context) (maxHeaderListSize : Nat)
    (block : Bytes) :
    Reading start id ignored
      (Hpack.decode headerContextHpack (headerDecode hook) maxHeaderListSize
        context block).1 := by
  refine decode_keeps maxHeaderListSize ?_ ?_ reading block
  · intro context hpack reading
    exact ⟨⟨reading.moves.steps, reading.moves.reading⟩, reading.streamId,
      reading.alive, reading.agree⟩
  intro context field reading
  rw [headerDecode]
  split
  · exact reading
  · rename_i active
    refine reading.record faithful live (Bool.eq_false_of_not_eq_true active) ?_
    rw [reading.streamId]
    rfl

/-- The end of a header block follows the connection. -/
theorem concludeHeaders_moves (faithful : Faithful hook)
    (live : Live start.conn)
    (reading : Reading start start.proto.inHeadersStream false context)
    (slot : Option Nat)
    (tooLarge : Bool) :
    Moves start (concludeHeaders hook context slot tooLarge) := by
  have before := reading.moves
  unfold concludeHeaders
  simp only
  split
  · exact before
  split
  · exact before.trans (refuseHeaders_moves faithful (before.live live) slot _)
  split
  · exact before.trans (refuseHeaders_moves faithful (before.live live) slot _)
  rename_i accepted
  have active : context.ignore = false := by
    rw [← reading.agree rfl]
    exact Bool.eq_false_of_not_eq_true accepted
  have header :
      (Callback.endHeaders context.world.proto.inHeadersStream
        context.world.proto.inHeadersEndStream).headerStream? =
        some start.proto.inHeadersStream := by
    rw [before.reading]
    rfl
  have called := before.trans
    (headerCallback_moves faithful (before.live live) header
      (reading.alive active)).1
  generalize callback hook
      (.endHeaders context.world.proto.inHeadersStream
        context.world.proto.inHeadersEndStream)
      context.world = result at called ⊢
  split
  · exact called
  split
  · exact called.trans (refuseHeaders_moves faithful (called.live live) slot _)
  · split
    · exact called
    · exact called.trans (maybeClose_moves faithful (called.live live) _)

theorem Reading.unclosing {id : Int}
    (reading : Reading start id ignored context)
    (moves : Moves context.world after)
    (unclosing : Unclosing context.world after) :
    Reading start id ignored { context with world := after } :=
  { reading with
    moves := reading.moves.trans moves
    alive active := (reading.alive active).unclosing unclosing }

/-- A header block which is complete follows the connection. -/
theorem finishHeaders_moves (faithful : Faithful hook)
    (live : Live world.conn) : Moves world (finishHeaders hook world) := by
  have begun := beginHeaders_reading faithful live
  rw [finishHeaders]
  generalize slotEq : world.proto.find world.proto.inHeadersStream = slot
  generalize ignoredEq : resetIgnored world world.proto.inHeadersStream =
    ignored at begun ⊢
  generalize beginHeaders hook world = context at begun ⊢
  simp only
  have decoded := decode_reading faithful live begun
    context.world.proto.localSettings.maxHeaderListSize
    context.world.proto.inBlock.data
  generalize Hpack.decode headerContextHpack (headerDecode hook)
      context.world.proto.localSettings.maxHeaderListSize context
      context.world.proto.inBlock.data = result at decoded ⊢
  have failing (error : ErrorCode) :
    Reading world world.proto.inHeadersStream ignored
      { result.1 with world := protoFail result.1.world error } :=
    decoded.unclosing (protoFail_moves (decoded.moves.live live) error)
      (protoFail_unclosing (decoded.moves.live live) error)
  have finish (context : HeaderContext) (tooLarge : Bool)
      (judged : Reading world world.proto.inHeadersStream ignored context) :
      Moves world
        ((if ignored then
          endRemote context.world slot ignored
        else
          concludeHeaders hook
            { context with world := endRemote context.world slot ignored }
            slot tooLarge).update fun proto =>
          { proto with
            inHeaders := false
            inBlock := proto.inBlock.clear }) := by
    have ended := endRemote_moves (judged.moves.live live) slot ignored
    have settled := judged.unclosing ended.1 ended.2
    cases ignored with
    | true => exact settled.moves.trans (Moves.of_conn_eq rfl rfl)
    | false =>
      exact (concludeHeaders_moves faithful live settled slot _).trans
        (Moves.of_conn_eq rfl rfl)
  rcases result with ⟨context, status, consumed⟩
  cases status with
  | ok | listTooLarge => exact finish context _ decoded
  | malformed => exact finish _ _ (failing .compressionError)
  | aborted => exact finish _ _ (failing .internalError)

theorem appendBlock_moves (faithful : Faithful hook) (live : Live world.conn)
    (flags : UInt8)
    (fragment : Bytes) :
    Moves world (appendBlock hook world flags fragment) := by
  rw [appendBlock]
  split
  · exact protoFail_moves live .protocolError
  rename_i inBlock _
  have appended : Moves world
      (world.update fun proto => { proto with inBlock }) :=
    Moves.of_conn_eq rfl rfl
  simp only
  split
  · exact appended.trans (finishHeaders_moves faithful (appended.live live))
  · exact appended

theorem acceptStream_moves (live : Live world.conn)
    (server : world.conn.mode = .server)
    (announced : world.conn.announced = true) {id : Nat}
    (small : id ≤ maxWindow) : Moves world (acceptStream world id).1 := by
  rw [acceptStream]
  split
  · exact protoFail_moves live .protocolError
  rename_i fresh
  split
  · exact protoFail_moves live .enhanceYourCalm
  split
  · exact protoFail_moves live .enhanceYourCalm
  rename_i opened slot isOpened
  rcases openStream_spec isOpened with ⟨streams, placed, -, becomes⟩
  refine ⟨.single ?_, becomes.reading⟩
  have after :
      (opened.update fun proto =>
        { proto with maxPeerStreamId := id }).conn =
        { opened.conn with maxPeerStreamId := id } := rfl
  rw [after, becomes.conn]
  rw [not_or] at fresh
  have above : world.conn.maxPeerStreamId < id := Int.lt_of_not_ge fresh.2
  exact Step.openRemote server announced (by omega) above small placed

theorem dispatchContinuation_moves (faithful : Faithful hook)
    (live : Live world.conn) (header : FrameHeader) (payload : Bytes) :
    Moves world (dispatchContinuation hook world header payload) := by
  rw [dispatchContinuation]
  split
  · exact protoFail_moves live .protocolError
  · exact appendBlock_moves faithful live header.flags payload

/-- HEADERS frames. -/
theorem dispatchHeaders_steps (faithful : Faithful hook)
    (live : Live world.conn)
    (announced : world.conn.mode = .server → world.conn.announced = true)
    (small : header.streamId ≤ maxWindow)
    (noted : .received header payload ∈ world.log)
    (isHeaders : FrameType.ofCode header.type = some .headers) :
    Steps world.conn (dispatchHeaders hook world header payload).conn := by
  rw [dispatchHeaders]
  split
  · exact (protoFail_moves live .protocolError).steps
  split
  · exact (protoFail_moves live .protocolError).steps
  split
  · exact (protoFail_moves live .protocolError).steps
  rename_i block _
  have accepted : Moves world
      (if world.proto.mode = .server ∧ world.proto.find header.streamId = none ∧
          ¬world.proto.localResetContains header.streamId then
        acceptStream world header.streamId
      else
        (world, true)).1 := by
    split
    · rename_i request
      exact acceptStream_moves live request.1 (announced request.1) small
    · exact .refl world
  simp only
  generalize
    (if world.proto.mode = .server ∧ world.proto.find header.streamId = none ∧
        ¬world.proto.localResetContains header.streamId then
      acceptStream world header.streamId
    else
      (world, true)) = result at accepted ⊢
  cases result with
  | mk after succeeded =>
    cases succeeded with
    | false => exact accepted.steps
    | true =>
      simp only
      split
      · exact accepted.steps.trans
          (protoFail_moves (accepted.live live) _).steps
      have begins : Step after.conn
          (after.update fun proto =>
            { proto with
              inHeaders := true
              inHeadersStream := header.streamId
              inHeadersEndStream := hasFlag header.flags flagEndStream
              inBlock := proto.inBlock.clear }).conn := by
        apply Step.blockBegins
        intro id isId
        change
          (if hasFlag header.flags flagEndStream then
            some (header.streamId : Int)
          else
            none) = some id at isId
        rw [Option.ite_none_right_eq_some, Option.some.injEq] at isId
        exact ⟨header, payload, accepted.steps.log.subset noted,
          isId.2, .inr ⟨.inr isHeaders, isId.1⟩⟩
      have started := (accepted.live live).step begins
      exact (accepted.steps.tail begins).trans
        (appendBlock_moves faithful started header.flags block).steps

/-! ## DATA -/

/-- The connection after octets were taken from its receive window. -/
def Conn.charge (conn : Conn) (size : Nat) : Conn :=
  { conn with connRecvWindow := conn.connRecvWindow - size }

theorem spoiled_moves (live : Live world.conn) (recv consumed : Int)
    (slot : Nat)
    (change : Stream → Stream) (events : List Event)
    (below : ConsumedBelow world.conn consumed)
    (fits : recv ≤ max world.conn.connRecvWindow maxWindow)
    (changes : RecvChange change)
    (neutral : Neutral events)
    (becomes : Becomes world
      (Conn.notes
        { world.conn with
          connRecvWindow := recv
          connConsumed := consumed
          streams := world.conn.streams.modify slot change }
        events)
      after) (error : ErrorCode) : Moves world (protoFail after error) := by
  apply Moves.protoFail error live
  · rw [becomes.conn]
    exact .head (Step.spoiled below fits changes) (neutral.steps _)
  · exact becomes.reading

theorem overdrawn_moves (live : Live world.conn) (recv consumed : Int)
    (events : List Event)
    (below : ConsumedBelow world.conn consumed)
    (fits : recv ≤ max world.conn.connRecvWindow maxWindow)
    (neutral : Neutral events)
    (becomes : Becomes world
      (Conn.notes
        { world.conn with connRecvWindow := recv, connConsumed := consumed }
        events)
      after) (error : ErrorCode) : Moves world (protoFail after error) := by
  refine spoiled_moves live recv consumed 0 id events below fits ?_ neutral
    ⟨?_, becomes.reading⟩ error
  · exact fun stream => ⟨rfl, le_max_left _ _⟩
  · rw [becomes.conn, List.modify_id]

theorem consumeConnection_announced (bounded : Bounded world.conn)
    (announced : world.conn.announced = true) (bytes : Nat) :
    ∃ recv consumed events, ConsumedBelow world.conn consumed ∧
        recv ≤ max world.conn.connRecvWindow maxWindow ∧ Neutral events ∧
        ((consumeConnection world bytes).2 = true → recv + consumed =
            world.conn.connRecvWindow + world.conn.connConsumed + bytes) ∧
        Becomes world
          (Conn.notes
            { world.conn with connRecvWindow := recv, connConsumed := consumed }
            events)
          (consumeConnection world bytes).1 := by
  rcases consumeConnection_spec world bytes bounded with
    ⟨conn', ⟨mid, recv, consumed, events, isAnnounced, neutral, below, fits,
      balance, rfl⟩, becomes⟩
  rw [isAnnounced.eq_of_announced announced] at below fits balance becomes
  exact ⟨recv, consumed, events, below, fits, neutral, balance, becomes⟩

theorem Bounded.charge {conn : Conn} (bounded : Bounded conn) (size : Nat) :
    Bounded (conn.charge size) :=
  { bounded with
    connRecvWindow := by
      have below := bounded.connRecvWindow
      change conn.connRecvWindow - size ≤ maxWindow
      omega }

/-- DATA on a stream which was reset makes steps. -/
theorem drainData_moves (live : Live world.conn)
    (announced : world.conn.announced = true)
    (ends : hasFlag header.flags flagEndStream = true →
      PeerEnded world.log header.streamId)
    (becomes : Becomes world (world.conn.charge header.length) charged)
    (slot : Option Nat) : Moves world (drainData charged header slot) := by
  have sent : charged.conn.announced = true := by
    rw [becomes.conn]
    exact announced
  have bounded : Bounded charged.conn := by
    rw [becomes.conn]
    exact live.bounded.charge header.length
  have drained : ∃ after succeeded,
      (if header.length = 0 then
        (charged, true)
      else
        consumeConnection charged header.length) = (after, succeeded) ∧
        ∃ recv consumed events, ConsumedBelow world.conn consumed ∧
            recv ≤ max world.conn.connRecvWindow maxWindow ∧
            Neutral events ∧
            (succeeded = true →
              recv + consumed =
                world.conn.connRecvWindow + world.conn.connConsumed) ∧
            Becomes world
              (Conn.notes
                { world.conn with
                  connRecvWindow := recv, connConsumed := consumed }
                events)
              after := by
    split
    · rename_i empty
      refine ⟨charged, true, rfl, world.conn.connRecvWindow - header.length,
        world.conn.connConsumed, [], .inl rfl, by omega, by simp [Neutral],
        fun _ => by omega, ?_, becomes.reading⟩
      rw [becomes.conn, notes_nil]
      rfl
    rcases consumeConnection_announced bounded sent header.length with
      ⟨recv, consumed, events, below, fits, neutral, balance, after⟩
    rw [becomes.conn] at below fits balance after
    simp only [Conn.charge] at fits balance
    refine ⟨(consumeConnection charged header.length).1,
      (consumeConnection charged header.length).2, rfl, recv, consumed,
      events, below, by omega, neutral, fun succeeded => ?_, ?_,
      after.reading.trans becomes.reading⟩
    · have balanced := balance succeeded
      omega
    · rw [after.conn]
      rfl
  rcases drained with
    ⟨after, succeeded, equal, recv, consumed, events, below, fits, neutral,
      balance, after'⟩
  rw [drainData, equal]
  cases succeeded with
  | false =>
    exact overdrawn_moves live recv consumed events below fits neutral after'
      .internalError
  | true =>
    have credited : Moves world after := by
      refine after'.moves ?_
      exact .head (Step.drained (balance rfl) below fits) (neutral.steps _)
    simp only
    split
    · rename_i flagged
      have peerEnded := (ends flagged).mono credited.steps.log
      split
      · exact credited.trans (forgetReset_moves peerEnded)
      rename_i slot
      have ended : Moves after
          (after.updateStream slot fun stream =>
            { stream with remoteEndStream := true }) :=
        ⟨.single (Step.tune fun stream => rfl), rfl⟩
      exact credited.trans (ended.trans (settleReset_moves slot peerEnded))
    · exact credited

/-- The credit of padding was returned, or could not be. -/
structure HiddenConsumed (world : World) (slot : Nat) (stream : Stream)
    (size visible : Nat) (after : World) (succeeded : Bool) : Prop where
  effect : ∃ recv consumed change events, ConsumedBelow world.conn consumed ∧
      recv ≤ max world.conn.connRecvWindow maxWindow ∧
      RecvChange change ∧ Neutral events ∧
      (succeeded = true →
        recv + consumed + visible =
          world.conn.connRecvWindow + world.conn.connConsumed ∧
          change stream =
            { stream with recvWindow := stream.recvWindow - visible }) ∧
      Becomes world
        (Conn.notes
          { world.conn with
            connRecvWindow := recv
            connConsumed := consumed
            streams := world.conn.streams.modify slot change }
          events)
        after

theorem recvChange_sub (size returned : Nat) (fewer : returned ≤ size) :
    RecvChange fun stream =>
    { stream with
      recvWindow := stream.recvWindow - size + returned } := by
  intro stream
  refine ⟨rfl, le_max_of_le_left ?_⟩
  simp only
  omega

/-- Padding is charged and returned at once. -/
theorem consumeHidden_spec (live : Live world.conn) {size visible : Nat}
    {stream : Stream}
    (isOpen : world.conn.OpenAt slot stream) (fewer : visible ≤ size)
    (becomes : Becomes world (world.conn.charge size) charged) :
    ∃ after succeeded, consumeHidden
          (charged.updateStream slot fun stream =>
            { stream with recvWindow := stream.recvWindow - size })
          stream.id (size - visible) = (after, succeeded) ∧
        HiddenConsumed world slot stream size visible after succeeded := by
  have sent := announced_of_getElem? live isOpen.1
  have bounds := id_bounds live isOpen.1
  generalize reducedEq :
    (charged.updateStream slot fun stream =>
      { stream with recvWindow := stream.recvWindow - size }) = reduced
  have reducedConn : reduced.conn =
    (world.conn.charge size).updateStream slot fun stream =>
        { stream with recvWindow := stream.recvWindow - size } := by
    rw [← reducedEq, conn_updateStream, becomes.conn]
  have reading : reduced.proto.inHeadersStream =
      world.proto.inHeadersStream := by
    rw [← reducedEq]
    exact becomes.reading
  have unreturned (succeeded : Bool)
    (whole : succeeded = true → visible = size) :
      HiddenConsumed world slot stream size visible reduced succeeded := by
    refine ⟨world.conn.connRecvWindow - size, world.conn.connConsumed, _, [],
      .inl rfl, by omega, recvChange_sub size 0 (Nat.zero_le size),
      by simp [Neutral], fun succeeds => ⟨?_, ?_⟩, ?_, reading⟩
    · rw [whole succeeds, sub_add_eq_add_sub, sub_add_cancel]
    · simp only [whole succeeds, Nat.cast_zero, Int.add_zero]
    · rw [notes_nil, reducedConn]
      simp only [Conn.updateStream, Conn.charge, Nat.cast_zero, Int.add_zero]
  rw [consumeHidden]
  split
  · exact ⟨reduced, true, rfl, unreturned true fun _ => by omega⟩
  have announced : reduced.conn.announced = true := by
    rw [reducedConn]
    exact sent
  rcases consumeStream_spec reduced announced (by omega : stream.id ≠ 0)
    (size - visible) with
    equal | ⟨granted, succeeded, equal, isGranted⟩
  · rw [equal]
    exact ⟨reduced, false, rfl, unreturned false (by simp)⟩
  rw [equal]
  rcases isGranted with
    ⟨slot', stream', events, isOpen', sameId, -, neutral, after⟩
  have sameSlot : slot' = slot := by
    have distinct : reduced.conn.ids.Nodup := by
      have sameIds : reduced.conn.ids = world.conn.ids := by
        simp [reducedConn, Conn.ids, Conn.charge, map_modify_of_eq]
      rw [sameIds]
      exact live.table.nodup
    have here : reduced.conn.OpenAt slot
        { stream with recvWindow := stream.recvWindow - size } := by
      rw [reducedConn]
      exact OpenAt.updateStream isOpen
        (fun stream =>
          { stream with recvWindow := stream.recvWindow - size }) rfl
    have found := find_of_getElem? distinct here.1
    have found' := find_of_getElem? distinct isOpen'.1
    rw [sameId, found] at found'
    exact (Option.some.inj found').symm
  have grantedConn : granted.conn = Conn.notes
        { world.conn with
          connRecvWindow := world.conn.connRecvWindow - size
          streams := world.conn.streams.modify slot fun stream =>
              { stream with recvWindow := stream.recvWindow - size +
                (size - visible : Nat) } }
        events := by
    rw [after.conn, reducedConn, sameSlot, updateStream_updateStream]
    rfl
  have changes := recvChange_sub size (size - visible) (by omega)
  have sameReading :
      granted.proto.inHeadersStream = world.proto.inHeadersStream :=
    after.reading.trans reading
  cases succeeded with
  | false =>
    refine ⟨granted, false, rfl, ⟨world.conn.connRecvWindow - size,
      world.conn.connConsumed, _, events, .inl rfl, by omega, changes,
      neutral, by simp, grantedConn, sameReading⟩⟩
  | true =>
    have boundedGranted : Bounded granted.conn := by
      rw [grantedConn]
      exact { live.bounded.charge size with }
    have sentGranted : granted.conn.announced = true := by
      rw [grantedConn]
      exact sent
    rcases consumeConnection_announced boundedGranted sentGranted
      (size - visible) with
      ⟨recv, consumed, more, below, fits, alsoNeutral, balance, last⟩
    rw [grantedConn] at below fits balance last
    simp only [Conn.notes_connRecvWindow, Conn.notes_connConsumed]
      at fits balance
    refine ⟨(consumeConnection granted (size - visible)).1,
      (consumeConnection granted (size - visible)).2, rfl,
      ⟨recv, consumed, _, events ++ more, below, by omega, changes,
        neutral.append alsoNeutral, fun succeeded => ⟨?_, ?_⟩, ?_,
        last.reading.trans sameReading⟩⟩
    · have balanced := balance succeeded
      omega
    · have amount : stream.recvWindow - size + (size - visible : Nat) =
          stream.recvWindow - visible := by
        omega
      rw [amount]
    · rw [last.conn, ← notes_notes]
      rfl

theorem concludeData_moves (faithful : Faithful hook) (live : Live world.conn)
    (ends : hasFlag header.flags flagEndStream = true →
      PeerEnded world.log header.streamId)
    (slot : Nat) (status : Int) :
    Moves world (concludeData hook world header slot status) := by
  rw [concludeData]
  split
  · exact Moves.of_conn_eq rfl rfl
  split
  · exact protoFail_moves live .internalError
  split
  · rename_i flagged
    split
    · exact .refl world
    rename_i stream _
    have settled : Moves world
        (if stream.localReset then
          settleReset world slot header.streamId
        else
          world) := by
      split
      · exact settleReset_moves slot (ends flagged)
      · exact .refl world
    exact settled.trans (maybeClose_moves faithful (settled.live live) slot)
  · exact .refl world

/-- DATA on a stream which is open for the peer makes steps. -/
theorem deliverData_moves (faithful : Faithful hook) (live : Live world.conn)
    {stream : Stream}
    (isOpen : world.conn.OpenAt slot stream)
    (sameId : stream.id = header.streamId) {data : Bytes}
    (fewer : data.length ≤ header.length)
    (ends : hasFlag header.flags flagEndStream = true →
      PeerEnded world.log header.streamId)
    (becomes : Becomes world (world.conn.charge header.length) charged) :
    Moves world (deliverData hook charged header slot data) := by
  rcases consumeHidden_spec live isOpen fewer becomes with
    ⟨after, succeeded, equal, recv, consumed, change, events, below, fits,
      changes, neutral, effect, becomes'⟩
  rw [deliverData, ← sameId, equal]
  cases succeeded with
  | false =>
    exact spoiled_moves live recv consumed slot change events below fits
      changes neutral becomes' .internalError
  | true =>
    rcases effect rfl with ⟨balance, changed⟩
    simp only
    generalize endedEq :
      (if hasFlag header.flags flagEndStream then
        after.updateStream slot fun stream =>
          { stream with remoteEndStream := true }
      else
        after) = ended
    let target : Stream → Stream := fun item =>
        { item with
          recvWindow := stream.recvWindow - data.length
          remoteEndStream :=
            hasFlag header.flags flagEndStream || stream.remoteEndStream }
    have endedConn : ended.conn = Conn.notes
          { world.conn with
            connRecvWindow := recv
            connConsumed := consumed
            streams := world.conn.streams.modify slot target }
          events := by
      rw [← endedEq]
      split
      · rename_i flagged
        have same : world.conn.streams.modify slot
              ((fun stream => { stream with remoteEndStream := true }) ∘
                change) =
            world.conn.streams.modify slot target := by
          refine modify_congr_at isOpen.1 ?_
          simp only [target]
          rw [Function.comp_apply, changed, flagged, Bool.true_or]
        rw [conn_updateStream, becomes'.conn, ← same]
        simp only [Conn.updateStream, Conn.notes, List.modify_modify_eq]
      rename_i unflagged
      have same : world.conn.streams.modify slot change =
          world.conn.streams.modify slot target := by
        refine modify_congr_at isOpen.1 ?_
        simp only [target]
        rw [changed, Bool.eq_false_of_not_eq_true unflagged, Bool.false_or]
      rw [becomes'.conn, same]
    have endedReading : ended.proto.inHeadersStream =
        world.proto.inHeadersStream := by
      rw [← endedEq]
      split <;> exact becomes'.reading
    have delivered : Moves world
        (callback hook (.data stream.id data) ended).1 := by
      apply Moves.callback faithful live
      · rw [endedConn]
        refine (neutral.steps world.conn).tail ?_
        exact Step.delivered isOpen balance below fits (Int.sub_add_cancel _ _)
      · exact endedReading
    refine delivered.trans
      (concludeData_moves faithful (delivered.live live) ?_ slot _)
    exact fun flagged => (ends flagged).mono delivered.steps.log

theorem length_of_frameDataPayload {data : Bytes} {flags : UInt8}
    (visible : frameDataPayload payload flags = some data) :
    data.length ≤ payload.length := by
  cases payload <;> grind [frameDataPayload]

/-- DATA frames. -/
theorem dispatchData_moves (faithful : Faithful hook) (live : Live world.conn)
    (complete : payload.length = header.length)
    (noted : .received header payload ∈ world.log)
    (isData : FrameType.ofCode header.type = some .data) :
    Moves world (dispatchData hook world header payload) := by
  have ends (flagged : hasFlag header.flags flagEndStream = true) :
      PeerEnded world.log header.streamId :=
    ⟨header, payload, noted, rfl, .inr ⟨.inl isData, flagged⟩⟩
  rw [dispatchData]
  split
  · exact protoFail_moves live .protocolError
  simp only
  split
  · exact protoFail_moves live .protocolError
  rename_i data visible
  have fewer := length_of_frameDataPayload visible
  rw [complete] at fewer
  split
  · exact protoFail_moves live .flowControlError
  generalize chargedEq :
    (world.update fun proto =>
      { proto with connRecvWindow := proto.connRecvWindow - header.length }) =
      charged
  have becomes : Becomes world (world.conn.charge header.length) charged := by
    rw [← chargedEq]
    exact ⟨rfl, rfl⟩
  have sameStreams : charged.proto.streams = world.proto.streams := by
    rw [← chargedEq]
    rfl
  have failing (error : ErrorCode) : Moves world (protoFail charged error) := by
    refine overdrawn_moves live (world.conn.connRecvWindow - header.length)
      world.conn.connConsumed [] (.inl rfl) (by omega)
      (by simp [Neutral]) ⟨?_, becomes.reading⟩ error
    rw [becomes.conn, notes_nil]
    rfl
  split
  · split
    · rename_i known
      rcases (localResetContains_iff world _).mp known with
        ⟨positive, member⟩
      exact drainData_moves live
        (live.prefaced.resets _ member (by omega)) ends becomes none
    · exact failing .streamClosed
  rename_i slot found
  rcases find_spec found with ⟨stream, present, sameId⟩
  have present' : charged.stream? slot = some stream := by
    rw [World.stream?, sameStreams]
    exact present
  split
  · exact failing .streamClosed
  rename_i stillOpen
  rw [present']
  simp only
  split
  · exact drainData_moves live (announced_of_getElem? live present) ends becomes
      (some slot)
  rename_i notReset
  split
  · exact failing .flowControlError
  have isOpen : world.conn.OpenAt slot stream := by
    refine ⟨present, ?_⟩
    by_contra closed
    apply stillOpen
    simp [remoteClosed, present', Bool.eq_true_of_not_eq_false closed, notReset]
  exact deliverData_moves faithful live isOpen sameId fewer ends becomes

/-! ## All frames -/

/-- A frame of any type takes steps of the connection. -/
theorem dispatch_steps (faithful : Faithful hook) (live : Live world.conn)
    (announced : world.conn.mode = .server → world.conn.announced = true)
    (header : FrameHeader) (small : header.streamId ≤ maxWindow)
    (complete : payload.length = header.length) :
    Steps world.conn (dispatch hook world header payload).conn := by
  have received : Moves world (world.note (.received header payload)) :=
    ⟨.single (@Step.note _ (.received header payload) rfl), rfl⟩
  have failing (error : ErrorCode) : Steps world.conn
      (protoFail (world.note (.received header payload)) error).conn :=
    (received.trans (protoFail_moves (received.live live) error)).steps
  rw [dispatch]
  split
  · exact failing .protocolError
  split
  · exact failing .protocolError
  refine received.steps.trans ?_
  have live' := received.live live
  have noted : .received header payload ∈
      (world.note (.received header payload)).log :=
    List.mem_concat_self
  split
  · exact (dispatchSettings_moves faithful live' header payload).steps
  · exact (dispatchWindowUpdate_moves faithful live' header payload).steps
  · rename_i isRst
    exact (dispatchRstStream_moves faithful live' noted isRst).steps
  · exact (dispatchGoaway_moves faithful live' header payload).steps
  · exact (dispatchPing_moves faithful live' header payload).steps
  · rename_i isData
    exact (dispatchData_moves faithful live' complete noted isData).steps
  · rename_i isHeaders
    exact dispatchHeaders_steps faithful live' announced small noted isHeaders
  · exact (dispatchContinuation_moves faithful live' header payload).steps
  · split
    · exact (protoFail_moves live' _).steps
    · split
      · exact (protoFail_moves live' _).steps
      · exact .refl
  · exact (protoFail_moves live' _).steps
  · exact .refl

end Chttp.H2
