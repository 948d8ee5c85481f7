import Chttp.Hpack.Lockstep
import Chttp.H2.Lifecycle

/-!
# Late frames on streams which were reset

A peer may go on sending on a stream until it has seen our RST_STREAM.  The
engine remembers such a stream in the flag of its slot, and in a ring for the
time when the slot has been given away.  This file states when the ring
remembers all of them, and that a frame on a remembered stream has no effect
but on credit and on the header compression.
-/

namespace Chttp.H2

open Lib Hpack

/-! ## Streams which the peer has not ended -/

instance decidableFinishes (header : FrameHeader) (id : Int) :
    Decidable (header.Finishes id) :=
  inferInstanceAs (Decidable (_ ∧ _))

/-- An event with which the peer ends its side of a stream. -/
def Event.finishes (id : Int) : Event → Bool
  | .received header _ => decide (header.Finishes id)
  | _ => false

theorem any_finishes_iff (log : List Event) (id : Int) :
    log.any (Event.finishes id) = true ↔ PeerEnded log id := by
  rw [List.any_eq_true]
  constructor
  · rintro ⟨event, member, finishes⟩
    cases event with
    | received header payload =>
      exact ⟨header, payload, member, of_decide_eq_true finishes⟩
    | _ => cases finishes
  · rintro ⟨header, payload, member, finishes⟩
    exact ⟨_, member, decide_eq_true finishes⟩

instance decidablePeerEnded (log : List Event) (id : Int) :
    Decidable (PeerEnded log id) :=
  decidable_of_iff _ (any_finishes_iff log id)

/--
The streams which were reset locally, and for which neither END_STREAM nor
RST_STREAM has arrived since.
-/
def pendingResets : List Event → List Int
  | [] => []
  | .closed id .localReset :: later =>
    if PeerEnded later id then
      pendingResets later
    else
      id :: pendingResets later
  | _ :: later => pendingResets later

variable {log : List Event} {id : Int} {conn : Conn} {stream : Stream}
  {slot : Nat} {world : World}
  {header : FrameHeader}

theorem exists_of_mem_pendingResets (pending : id ∈ pendingResets log) :
    ∃ before later, log = before ++ .closed id .localReset :: later ∧
      ¬PeerEnded later id := by
  induction log using pendingResets.induct with
  | case1 => cases pending
  | case2 reset later ended induction =>
    rw [pendingResets, if_pos ended] at pending
    rcases induction pending with ⟨before, rest, rfl, open'⟩
    exact ⟨_ :: before, rest, rfl, open'⟩
  | case3 reset later notEnded induction =>
    rw [pendingResets, if_neg notEnded, List.mem_cons] at pending
    rcases pending with rfl | pending
    · exact ⟨[], later, rfl, notEnded⟩
    · rcases induction pending with ⟨before, rest, rfl, open'⟩
      exact ⟨_ :: before, rest, rfl, open'⟩
  | case4 event later other induction =>
    have skipped : pendingResets (event :: later) = pendingResets later := by
      rw [pendingResets]
      exact other
    rw [skipped] at pending
    rcases induction pending with ⟨before, rest, rfl, open'⟩
    exact ⟨event :: before, rest, rfl, open'⟩

/-! ## Runs which the history keeps up with -/

/--
What the history of a stream rests on.  It is reset before the peer has ended
it; no reset which is recorded overwrites its entry of the ring; and its slot is
not cleared by the frame which ends another stream.
-/
def Event.tidy (id : Int) (before : List Event) : Event → Bool
  | .closed reset .localReset => decide (reset = id → ¬PeerEnded before id)
  | .resetRecorded _ overwritten => decide (overwritten ≠ id)
  | .resetCleared slotStream ended => decide (slotStream = id → ended = id)
  | _ => true

/-- Every event of a log is tidy for a stream. -/
def Tidy (log : List Event) (id : Int) : Prop :=
  ∀ before event, before ++ [event] <+: log → event.tidy id before = true

instance decidableTidy (log : List Event) (id : Int) :
    Decidable (Tidy log id) :=
  inferInstanceAs (Decidable
    (∀ before event, before ++ [event] <+: log → event.tidy id before = true))

/-- A tidy log was tidy before. -/
theorem Tidy.mono {log' : List Event} (tidy : Tidy log' id)
    (begins : log <+: log') : Tidy log id :=
  fun before event isEvent => tidy before event (isEvent.trans begins)

/-- Every event of a tidy log is tidy. -/
theorem Tidy.event {before after : List Event} {event : Event}
    (tidy : Tidy log id) (split : log = before ++ event :: after) :
    event.tidy id before = true :=
  tidy before event ⟨after, by rw [split, List.append_assoc]; rfl⟩

theorem Tidy.not_peerEnded (tidy : Tidy log id)
    (pending : id ∈ pendingResets log) :
    .closed id .localReset ∈ log ∧ ¬PeerEnded log id := by
  rcases exists_of_mem_pendingResets pending with
    ⟨before, later, split, notLater⟩
  have notBefore : ¬PeerEnded before id :=
    of_decide_eq_true (tidy.event split) rfl
  refine ⟨by simp [split], ?_⟩
  rintro ⟨header, payload, member, finishes⟩
  rw [split] at member
  simp only [List.mem_append, List.mem_cons, reduceCtorEq, false_or] at member
  rcases member with early | late
  · exact notBefore ⟨header, payload, early, finishes⟩
  · exact notLater ⟨header, payload, late, finishes⟩

/-! ## The ring -/

/-- The shape of the ring. -/
structure RingShape (conn : Conn) : Prop where
  length : conn.resetIds.length = conn.streamCap
  cursor : conn.cursor < conn.streamCap

theorem RingShape.recordReset (shape : RingShape conn) (id : Int) :
    RingShape (conn.recordReset id) := by
  have positive : 0 < conn.streamCap :=
    lt_of_le_of_lt (Nat.zero_le _) shape.cursor
  constructor
  · rw [Conn.recordReset_resetIds, Conn.recordReset_streamCap]
    split
    · exact shape.length
    · rw [List.length_set]
      exact shape.length
  · rw [Conn.recordReset_cursor, Conn.recordReset_streamCap]
    split
    · exact shape.cursor
    · exact Nat.mod_lt _ positive

theorem Step.ringShape {conn' : Conn} (step : Step conn conn')
    (shape : RingShape conn) :
    RingShape conn' := by
  cases step with
  | @closeReset slot stream change _ _ _ =>
    have recorded := @RingShape.recordReset
        ((conn.updateStream slot change).note (.closed stream.id .localReset))
        ⟨shape.length, shape.cursor⟩ stream.id
    exact ⟨recorded.length, recorded.cursor⟩
  | @pullError slot limit room errorCode stream change pull _ _ _ =>
    have recorded := @RingShape.recordReset
        (((((conn.note (.pulled stream.id pull limit room)).note
          (.frame
            { type := .rstStream
              flags := 0
              streamId := stream.id
              payload := frameRstEncode errorCode })).updateStream slot
          change).note (.closed stream.id .localReset)))
        ⟨shape.length, shape.cursor⟩ stream.id
    exact ⟨recorded.length, recorded.cursor⟩
  | forget =>
    refine ⟨?_, shape.cursor⟩
    rw [Conn.note_resetIds, List.length_map]
    exact shape.length
  | _ => exact ⟨shape.length, shape.cursor⟩

theorem Live.ringShape (live : Live conn) : RingShape conn := by
  refine live.induction ?_ ?_
  · intro conn initial
    constructor
    · rw [initial.resetIds, List.length_replicate]
    · rw [initial.cursor]
      exact initial.streamCap
  · intro conn conn' _ shape step
    exact step.ringShape shape

/-- The history remembers that a stream was reset. -/
structure Remembered (conn : Conn) (id : Int) : Prop where
  listed : id ∈ conn.resetIds
  flagged : ∀ stream ∈ conn.streams, stream.id = id → stream.localReset = true

/-- It remembers a stream which was reset while the peer has not ended it. -/
def HistoryValid (conn : Conn) (id : Int) : Prop :=
  .closed id .localReset ∈ conn.log → ¬PeerEnded conn.log id →
    Remembered conn id

section Steps

variable {conn conn' : Conn}

/-- A step which carries the streams over keeps the history. -/
theorem HistoryValid.carried (valid : HistoryValid conn id)
    (begins : conn.log <+: conn'.log)
    (closed : .closed id .localReset ∈ conn'.log →
      .closed id .localReset ∈ conn.log)
    (ring : conn'.resetIds = conn.resetIds)
    (carried : Carried Stream.localReset conn.streams conn'.streams) :
    HistoryValid conn' id := by
  intro reset notEnded
  have before := valid (closed reset) fun ended => notEnded (ended.mono begins)
  refine ⟨by rw [ring]; exact before.listed, ?_⟩
  intro stream' member isId
  rcases carried stream' member with ⟨stream, old, sameId, same, -⟩
  rw [← same]
  exact before.flagged stream old (sameId.trans isId)

/-- A new stream keeps the history. -/
theorem HistoryValid.opened (valid : HistoryValid conn id)
    (table : TableValid conn) (life : LifeValid conn) {opened : Int}
    (admits : Admits conn conn' opened)
    (log : conn'.log = conn.log ++ [.opened opened]) (isId : stream.id = opened)
    (ring : conn'.resetIds = conn.resetIds)
    (members : ∀ stream' ∈ conn'.streams,
      stream' ∈ conn.streams ∨ stream' = stream) :
    HistoryValid conn' id := by
  intro reset notEnded
  rw [log] at reset notEnded
  have old : .closed id .localReset ∈ conn.log := by
    simpa using reset
  have before := valid old fun ended =>
    notEnded (ended.mono (List.prefix_append _ _))
  refine ⟨by rw [ring]; exact before.listed, ?_⟩
  intro stream' present isOther
  rcases members stream' present with same | rfl
  · exact before.flagged stream' same isOther
  · have wasOpened := (life.closed id _ old).1
    rw [← isOther, isId] at wasOpened
    exact absurd wasOpened (admits.unopened table)

theorem mem_set_of_getD_ne {ids : List Int} {position : Nat} {new : Int}
    (member : id ∈ ids) (other : ids.getD position 0 ≠ id) :
    id ∈ ids.set position new := by
  rcases List.mem_iff_getElem?.mp member with ⟨place, found⟩
  refine List.mem_iff_getElem?.mpr ⟨place, ?_⟩
  rw [List.getElem?_set_ne, found]
  rintro rfl
  rw [List.getD_eq_getElem?_getD, found] at other
  exact other rfl

/-- A stream which is closed by a reset is recorded. -/
theorem HistoryValid.recorded (valid : HistoryValid conn id)
    (table : TableValid conn) (shape : RingShape conn)
    {change : Stream → Stream} (isOpen : conn.OpenAt slot stream)
    (closing : ClosingChange true change) (begins : conn.log <+: conn'.log)
    (closed : .closed id .localReset ∈ conn'.log →
      .closed id .localReset ∈ conn.log ∨ id = stream.id)
    (streams : conn'.streams = conn.streams.modify slot change)
    (ring : conn'.resetIds =
      if decide (stream.id ≤ 0 ∨ stream.id ∈ conn.resetIds) = true then
        conn.resetIds
      else
        conn.resetIds.set conn.cursor stream.id)
    (kept : ¬(stream.id ≤ 0 ∨ stream.id ∈ conn.resetIds) →
      conn.resetIds.getD conn.cursor 0 ≠ id) :
    HistoryValid conn' id := by
  have present : stream ∈ conn.streams := List.mem_of_getElem? isOpen.1
  have here : 0 < stream.id :=
    table.positive _ (table.opened _ (List.mem_map_of_mem present))
  intro reset notEnded
  rcases closed reset with old | rfl
  · have before := valid old fun ended => notEnded (ended.mono begins)
    constructor
    · rw [ring]
      split
      · exact before.listed
      · rename_i unlisted
        exact mem_set_of_getD_ne before.listed (kept (by simpa using unlisted))
    intro stream' changed isId
    rw [streams] at changed
    rcases mem_modify changed with same | ⟨other, -, rfl⟩
    · exact before.flagged stream' same isId
    · rw [closing other]
      exact Bool.or_true _
  constructor
  · rw [ring]
    split
    · rename_i listed
      exact (of_decide_eq_true listed).resolve_left (not_le.mpr here)
    · refine List.mem_iff_getElem?.mpr ⟨conn.cursor, ?_⟩
      rw [List.getElem?_set_self]
      rw [shape.length]
      exact shape.cursor
  intro stream' changed isId
  rw [streams] at changed
  rcases mem_modify_of_present table.nodup isOpen.1 changed with
    ⟨-, distinct⟩ | rfl
  · exact absurd isId distinct
  · rw [closing stream]
    exact Bool.or_true _

/-- A stream its peer has ended may leave the history. -/
theorem HistoryValid.settled (valid : HistoryValid conn id)
    (begins : conn.log <+: conn'.log)
    (closed : .closed id .localReset ∈ conn'.log →
      .closed id .localReset ∈ conn.log)
    {ended : Int} (isEnded : PeerEnded conn.log ended)
    (ring : id ∈ conn.resetIds → id ≠ ended → id ∈ conn'.resetIds)
    (flags : id ≠ ended → ∀ stream' ∈ conn'.streams, stream'.id = id →
      stream' ∈ conn.streams) :
    HistoryValid conn' id := by
  intro reset notEnded
  have before := valid (closed reset) fun ended => notEnded (ended.mono begins)
  have distinct : id ≠ ended := by
    rintro rfl
    exact notEnded (isEnded.mono begins)
  refine ⟨ring before.listed distinct, ?_⟩
  intro stream' member isId
  exact before.flagged stream' (flags distinct stream' member isId) isId

end Steps

/-- Every step of a tidy run keeps the history valid. -/
theorem Step.history {conn' : Conn} (step : Step conn conn') (live : Live conn)
    (tidy : Tidy conn'.log id) (valid : HistoryValid conn id) :
    HistoryValid conn' id := by
  have begins := step.log
  cases step with
  | openLocal client announced below placed =>
    exact valid.opened live.table live.life
      (admits_local client announced below placed) rfl rfl rfl
      fun _ => placed.mem
  | openRemote server announced _ below small placed =>
    exact valid.opened live.table live.life
      (admits_remote server announced below small placed) rfl rfl rfl
      fun _ => placed.mem
  | @closeReset _ stream _ errorCode isOpen closing =>
    refine valid.recorded live.table live.ringShape isOpen closing begins ?_ rfl
      rfl ?_
    · simp
    intro unlisted
    refine of_decide_eq_true
      (@Tidy.event _ id (conn.log ++ [.closed stream.id .localReset])
      (conn.told stream.id errorCode)
      (.resetRecorded stream.id (conn.resetIds.getD conn.cursor 0)) tidy
      ?_)
    simp [unlisted, Conn.told]
  | @pullError _ limit room errorCode stream _ pull isOpen _ closing =>
    refine valid.recorded live.table live.ringShape isOpen closing begins ?_ rfl
      rfl ?_
    · simp
    intro unlisted
    refine of_decide_eq_true (@Tidy.event _ id
      (conn.log ++
        [.pulled stream.id pull limit room, .frame
          { type := .rstStream
            flags := 0
            streamId := stream.id
            payload := frameRstEncode errorCode },
          .closed stream.id .localReset])
      (conn.told stream.id errorCode)
      (.resetRecorded stream.id (conn.resetIds.getD conn.cursor 0)) tidy
      ?_)
    simp [unlisted, Conn.told]
  | @clearReset slot stream endedId present ended =>
    have own : stream.id = id → endedId = id := by
      refine of_decide_eq_true (@Tidy.event _ id conn.log []
        (.resetCleared stream.id endedId) tidy ?_)
      rfl
    refine valid.settled begins (by simp) ended (fun member _ => member) ?_
    intro distinct stream' changed isId
    rcases mem_modify changed with old | ⟨other, there, rfl⟩
    · exact old
    · rw [there] at present
      cases present
      exact absurd (own isId).symm distinct
  | forget positive listed ended =>
    refine valid.settled begins (by simp) ended ?_ fun _ _ member _ => member
    intro member distinct
    exact List.mem_map.mpr ⟨id, member, if_neg distinct⟩
  | note neutral =>
    have distinct : Event.closed id .localReset ≠ _ := ne_of_neutral neutral rfl
    exact valid.carried begins (by simp [distinct]) rfl (.refl _)
  | message _ frames
  | headersOnly _ frames
  | trailersSent _ frames =>
    exact valid.carried begins (by simp [frames.not_mem]) rfl (by simp)
  | blockBroken _ frames =>
    refine valid.carried begins ?_ rfl (by simp)
    rcases frames with rfl | frames
    · simp
    · simp [frames.not_mem]
  | close _ closing resets =>
    refine valid.carried begins ?_ rfl (closing.carried (fun stream => ?_) _ _)
    · simp [resets.symm]
    · rw [closing stream]
      exact Bool.or_false _
  | drop _ closing =>
    refine valid.carried begins (by simp) rfl
      (closing.carried (fun stream => ?_) _ _)
    rw [closing stream]
    exact Bool.or_false _
  | tune quiet =>
    refine valid.carried begins (by simp) rfl (.modify _ _ fun stream => ?_)
    rw [quiet stream]
    exact ⟨rfl, rfl, fun closed => closed⟩
  | consumeStreamFailed recv
  | spoiled _ _ recv =>
    refine valid.carried begins (by simp) rfl (.modify _ _ fun stream => ?_)
    rw [(recv stream).1]
    exact ⟨rfl, rfl, fun closed => closed⟩
  | _ =>
    refine valid.carried begins (by simp) rfl ?_
    simp [List.modify_modify_eq, Stream.endBody, Stream.dropBody]

theorem Live.history (live : Live conn) (tidy : Tidy conn.log id) :
    HistoryValid conn id := by
  revert tidy
  refine @Live.induction (fun conn => Tidy conn.log id → HistoryValid conn id)
    ?_ ?_ conn live
  · intro conn initial _ reset
    rw [initial.log] at reset
    cases reset
  · intro conn conn' live valid step tidy
    exact step.history live tidy (valid (tidy.mono step.log))

/-! ## The reaction to a late frame -/

/-- A stream whose frames an engine ignores since it was reset. -/
structure Shelved (world : World) (id : Int) : Prop where
  listed : world.proto.localResetContains id = true
  flagged : ∀ slot stream, world.proto.find id = some slot →
    world.stream? slot = some stream →
    stream.closed = true ∧ stream.localReset = true

theorem shelved_of_pending (live : Live world.conn) (tidy : Tidy world.log id)
    (pending : id ∈ pendingResets world.log) : Shelved world id := by
  rcases tidy.not_peerEnded pending with ⟨reset, notEnded⟩
  have remembered := live.history tidy reset notEnded
  have closed := live.life.closed id _ reset
  constructor
  · rw [localResetContains_iff]
    exact ⟨live.table.positive id closed.1, remembered.listed⟩
  intro slot stream found present
  rcases find_spec found with ⟨stream', present', sameId⟩
  rw [present] at present'
  cases present'
  have member : stream ∈ world.conn.streams := List.mem_of_getElem? present
  exact ⟨closed.2 stream member sameId, remembered.flagged stream member sameId⟩

/-- The engine did not fail, and handed nothing of a message over. -/
structure Silent (before after : World) : Prop where
  failed : after.proto.failed = before.proto.failed
  log : ∃ events, after.log = before.log ++ events ∧ ∀ entered,
    .callback entered ∈ events →
        entered.messageStream? = none

theorem Silent.of_log_eq {before after : World}
    (failed : after.proto.failed = before.proto.failed)
    (log : after.log = before.log) : Silent before after :=
  ⟨failed, [], by simp [log]⟩

theorem Silent.refl (world : World) : Silent world world :=
  Silent.of_log_eq rfl rfl

/-- Silent calls compose. -/
theorem Silent.trans {first second third : World} (left : Silent first second)
    (right : Silent second third) : Silent first third := by
  rcases left with ⟨failed, events, log, silent⟩
  rcases right with ⟨failed', events', log', silent'⟩
  refine ⟨failed'.trans failed, events ++ events', ?_, ?_⟩
  · rw [log', log, List.append_assoc]
  · intro entered member
    exact (List.mem_append.mp member).elim (silent entered) (silent' entered)

/-- A change which is not logged, and then a silent call. -/
theorem Silent.after {before between after : World}
    (silent : Silent between after)
    (failed : between.proto.failed = before.proto.failed)
    (log : between.log = before.log) : Silent before after :=
  (Silent.of_log_eq failed log).trans silent

/-- A silent call, and then a change which is not logged. -/
theorem Silent.before {before between after : World}
    (silent : Silent before between)
    (failed : after.proto.failed = between.proto.failed)
    (log : after.log = between.log) : Silent before after :=
  silent.trans (Silent.of_log_eq failed log)

theorem Silent.of_event {before after : World} {event : Event}
    (failed : after.proto.failed = before.proto.failed)
    (log : after.log = before.log ++ [event])
    (noCallback : ∀ entered, event ≠ .callback entered := by simp) :
    Silent before after := by
  refine ⟨failed, [event], log, ?_⟩
  intro entered member
  exact absurd (List.mem_singleton.mp member).symm (noCallback entered)

theorem forgetReset_silent (world : World) (id : Int) :
    Silent world (forgetReset world id) := by
  rw [forgetReset]
  split
  · refine Silent.of_event ?_ rfl
    simp only [World.note, World.update, Proto.localResetForget]
    split <;> rfl
  · exact Silent.refl world

theorem settleReset_silent (world : World) (slot : Nat) (id : Int) :
    Silent world (settleReset world slot id) := by
  rw [settleReset]
  split
  · exact Silent.refl world
  · refine Silent.trans ?_ (forgetReset_silent _ id)
    exact Silent.of_event rfl rfl

variable (depth : Nat)

/-- A callback which makes no calls, and is none for a message, is silent. -/
theorem callback_silent {event : Callback}
    (idle : ∀ reply ∈ world.script.head?, reply.calls = [])
    (noMessage : event.messageStream? = none) :
    Silent world (callback (application depth) event world).1 := by
  have entered : Silent world (world.note (.callback event)) := by
    refine ⟨rfl, [.callback event], rfl, ?_⟩
    simp [noMessage]
  have taken : Silent world (takeReply (world.note (.callback event))).1 ∧
      (takeReply (world.note (.callback event))).2.calls = [] := by
    rw [takeReply]
    cases script : world.script with
    | nil =>
      simp only [World.note, script]
      exact ⟨⟨rfl, entered.log⟩, trivial⟩
    | cons reply script' =>
      simp only [World.note, script]
      exact ⟨⟨rfl, entered.log⟩, idle reply (by rw [script]; rfl)⟩
  rw [callback]
  split
  · cases depth with
    | zero =>
      exact taken.1.trans (Silent.of_event rfl rfl)
    | succ depth =>
      rw [application]
      simp only [taken.2, List.foldl_nil]
      exact taken.1.trans (Silent.of_event rfl rfl)
  · exact Silent.refl world

/-! ### Credit for DATA which is dropped -/

theorem outFrame_silent {frame : Frame} (fits : FrameFits world.proto frame) :
    ∃ after, outFrame world frame = (after, true) ∧ Silent world after := by
  rcases outFrame_spec world frame with
    ⟨-, unfit⟩ | ⟨after, queued, isQueued⟩
  · exact absurd fits unfit
  · have becomes := isQueued.becomes.conn
    refine ⟨after, queued, ?_⟩
    exact Silent.of_event (congrArg Conn.failed becomes)
      (congrArg Conn.log becomes)

/-- Returning credit to the peer succeeds if there is room for the frame. -/
theorem consumeConnection_silent {bytes : Nat}
    (announced : world.conn.announced = true)
    (positive : bytes ≠ 0) (nonneg : 0 ≤ world.proto.connConsumed)
    (recv : 0 ≤ world.proto.connRecvWindow)
    (fits : world.proto.connRecvWindow + world.proto.connConsumed + bytes ≤
      maxWindow)
    (room : 13 ≤ world.proto.out.maxCapacity - world.proto.out.size) :
    ∃ after, consumeConnection world bytes = (after, true) ∧
      Silent world after := by
  rw [consumeConnection, if_neg (by omega), if_neg (by omega)]
  simp only
  split
  · rename_i reached
    obtain ⟨increment, isIncrement⟩ : ∃ increment : Nat,
        (increment : Int) = world.proto.connConsumed + bytes :=
      ⟨(world.proto.connConsumed + bytes).toNat, by omega⟩
    have encoded : frameWindowUpdateEncode increment =
        some (writeU32 increment) := by
      rw [frameWindowUpdateEncode, if_neg]
      simp only [maxWindow] at fits
      omega
    rw [← isIncrement, Int.toNat_natCast, submitWindowUpdate,
      ensurePreface_of_announced (by exact announced)]
    simp only
    rw [grantWindow, if_neg (by omega), encoded]
    simp only [if_true]
    rw [if_neg (by simp only [World.update]; omega)]
    refine (outFrame_silent ?_).imp fun after queued =>
      ⟨queued.1, queued.2.after rfl rfl⟩
    exact ⟨le_rfl, Int.natCast_nonneg _, by simp [writeU32, maxFrameBytes],
      room⟩
  · exact ⟨_, rfl, Silent.of_log_eq rfl rfl⟩

theorem drainData_silent {slot : Option Nat}
    (announced : world.conn.announced = true)
    (nonneg : 0 ≤ world.proto.connConsumed)
    (recv : 0 ≤ world.proto.connRecvWindow)
    (fits : world.proto.connRecvWindow + world.proto.connConsumed +
      header.length ≤ maxWindow)
    (room : 13 ≤ world.proto.out.maxCapacity - world.proto.out.size) :
    Silent world (drainData world header slot) := by
  obtain ⟨after, returned, silent⟩ : ∃ after,
      (if header.length = 0 then
        (world, true)
      else
        consumeConnection world header.length) = (after, true) ∧
        Silent world after := by
    by_cases empty : header.length = 0
    · exact ⟨world, if_pos empty, Silent.refl world⟩
    · rw [if_neg empty]
      exact consumeConnection_silent announced empty nonneg recv fits room
  rw [drainData, returned]
  simp only
  split
  · split
    · exact silent.trans (forgetReset_silent _ _)
    · refine silent.trans ((settleReset_silent _ _ _).after rfl rfl)
  · exact silent

/-! ### Header blocks which are dropped -/

/-- The decoder accepts a header block, be the list too large or not. -/
def Decodes (proto : Proto) (block : Bytes) : Prop :=
  (decode recordingContext recordField proto.localSettings.maxHeaderListSize
    (proto.hpack, []) block).2.1 ∈ [DecodeStatus.ok, .listTooLarge]

theorem decode_ignored (hook : Hook) {context : HeaderContext}
    (ignored : context.ignore = true) (limit : Nat) (block : Bytes) :
    ∃ hpack, decode headerContextHpack (headerDecode hook) limit context block =
        ({ context with
            world := context.world.update fun proto => { proto with hpack } },
          (decode recordingContext recordField limit
            (context.world.proto.hpack, []) block).2) := by
  have along : DecodesAlong headerContextHpack recordingContext
    (headerDecode hook) recordField
      limit limit
      (fun left right => left.listBytes = right.listBytes ∧
        left.tooLarge = right.tooLarge ∧
        left.world =
          { context with
            world := context.world.update fun proto =>
                { proto with hpack := right.world.1 } }) True := by
    constructor
    · rintro ⟨_, _, _⟩ right ⟨-, -, rfl⟩
      exact ⟨rfl, rfl, rfl, rfl⟩
    · rintro ⟨_, _, _⟩ right decoder ⟨sameBytes, sameFlag, rfl⟩
      exact ⟨sameBytes, sameFlag, rfl⟩
    · rintro ⟨_, _, _⟩ right field ⟨rfl, rfl, rfl⟩
      simp only [deliverField]
      split
      · exact ⟨⟨rfl, rfl, rfl⟩, rfl, fun _ => trivial⟩
      · simp [headerDecode, ignored, recordField]
  obtain ⟨left, right, ⟨-, sameFlag, sameWorld⟩, decoded⟩ :=
    @DecodesAlong.decode _ _ _ _ _ _ _ _ _ _ context
      (context.world.proto.hpack, []) along
      ⟨rfl, rfl, rfl⟩ block
  refine ⟨right.world.1, ?_⟩
  rw [← sameWorld]
  rcases decoded with ⟨_, _, leftEq, rightEq⟩ | ⟨leftEq, rightEq⟩
  · rw [leftEq, rightEq]
  · rw [leftEq, rightEq, DecodeState.verdict, sameFlag, DecodeState.verdict]

theorem endRemote_silent (world : World) (slot : Option Nat)
    (ignored : Bool) : Silent world (endRemote world slot ignored) := by
  simp only [endRemote]
  split
  · split
    · split
      · exact Silent.of_log_eq rfl rfl
      · split
        · exact (settleReset_silent _ _ _).after rfl rfl
        · exact Silent.of_log_eq rfl rfl
    · split
      · exact forgetReset_silent _ _
      · exact Silent.refl world
  · exact Silent.refl world

theorem Shelved.resetIgnored (shelved : Shelved world id) :
    resetIgnored world id = true := by
  rw [H2.resetIgnored, shelved.listed, Bool.or_true]

theorem finishHeaders_silent (hook : Hook)
    (shelved : Shelved world world.proto.inHeadersStream)
    (decodes : Decodes world.proto world.proto.inBlock.data) :
    Silent world (finishHeaders hook world) := by
  have ignored := shelved.resetIgnored
  obtain ⟨context, begins, ignores, sameProto, complete⟩ : ∃ context,
      beginHeaders hook world = context ∧ context.ignore = true ∧
        context.world.proto = world.proto ∧ Silent world context.world := by
    refine ⟨_, rfl, ?_⟩
    simp only [beginHeaders, ignored, if_true]
    exact ⟨trivial, rfl, Silent.of_event rfl rfl⟩
  rcases decode_ignored hook ignores world.proto.localSettings.maxHeaderListSize
      world.proto.inBlock.data with
    ⟨hpack, decoded⟩
  rw [Decodes] at decodes
  have ended := endRemote_silent
    (context.world.update fun proto => { proto with hpack })
      (world.proto.find world.proto.inHeadersStream) true
  have finish := complete.trans (ended.after rfl rfl)
  rw [finishHeaders, begins, ignored]
  simp only [if_true, sameProto, decoded]
  rcases List.mem_pair.mp decodes with status | status
  all_goals
    rw [status]
    exact finish.before rfl rfl

/-- A fragment fits the header block, which decodes if it is complete. -/
def BlockFits (proto : Proto) (buffer : Buffer) (flags : UInt8)
    (fragment : Bytes) : Prop :=
  ∃ inBlock, buffer.write fragment = some inBlock ∧
    (hasFlag flags flagEndHeaders = true → Decodes proto inBlock.data)

theorem appendBlock_silent (hook : Hook) {flags : UInt8} {fragment : Bytes}
    (shelved : Shelved world world.proto.inHeadersStream)
    (fits : BlockFits world.proto world.proto.inBlock flags fragment) :
    Silent world (appendBlock hook world flags fragment) := by
  rcases fits with ⟨inBlock, written, decodes⟩
  rw [appendBlock, written]
  simp only
  split
  · rename_i complete
    refine Silent.after (finishHeaders_silent hook ?_ ?_) rfl rfl
    · exact ⟨shelved.listed, shelved.flagged⟩
    · exact decodes complete
  · exact Silent.of_log_eq rfl rfl

/-! ### All frames -/

/-- A frame which the peer may send on a stream it has not ended. -/
inductive WellFormed (world : World) (header : FrameHeader)
    (payload : Bytes) : Prop where
  | windowUpdate :
      FrameType.ofCode header.type = some .windowUpdate →
        world.proto.inHeaders = false →
        header.length = 4 →
        readU32 payload % 2 ^ 31 ≠ 0 →
        WellFormed world header payload
  | rstStream :
      FrameType.ofCode header.type = some .rstStream →
        world.proto.inHeaders = false →
        header.length = 4 →
        WellFormed world header payload
  | data {data : Bytes} :
      FrameType.ofCode header.type = some .data →
        world.proto.inHeaders = false →
        frameDataPayload payload header.flags = some data →
        header.length ≤ world.proto.connRecvWindow →
        WellFormed world header payload
  | headers {block : Bytes} :
      FrameType.ofCode header.type = some .headers →
        world.proto.inHeaders = false →
        frameHeadersPayload payload header.flags = some block →
        BlockFits world.proto world.proto.inBlock.clear header.flags block →
        WellFormed world header payload
  | continuation :
      FrameType.ofCode header.type = some .continuation →
        world.proto.inHeaders = true →
        world.proto.inHeadersStream = header.streamId →
        BlockFits world.proto world.proto.inBlock header.flags payload →
        WellFormed world header payload

/--
What the engine itself needs for a late frame: the settings of the peer, room
for a WINDOW_UPDATE frame and a receive window below the limit for DATA, and
for RST_STREAM a callback which calls nothing.
-/
structure Prepared (world : World) (header : FrameHeader) : Prop where
  settings : world.proto.peerSettingsReceived = true
  room : FrameType.ofCode header.type = some .data →
    13 ≤ world.proto.out.maxCapacity - world.proto.out.size
  window : FrameType.ofCode header.type = some .data →
    world.proto.connRecvWindow + world.proto.connConsumed ≤ maxWindow
  idle : FrameType.ofCode header.type = some .rstStream →
    ∀ reply ∈ world.script.head?, reply.calls = []

section Frames

variable {world : World} {header : FrameHeader} {payload : Bytes}

theorem dispatchWindowUpdate_closed (hook : Hook) (length : header.length = 4)
    (nonzero : readU32 payload % 2 ^ 31 ≠ 0) (onStream : header.streamId ≠ 0)
    (found : world.proto.find header.streamId = some slot)
    (present : world.stream? slot = some stream)
    (closed : stream.closed = true) :
    dispatchWindowUpdate hook world header payload = world := by
  rw [dispatchWindowUpdate, if_neg (not_not.mpr length), if_neg nonzero,
    if_neg onStream, found]
  simp only [present, closed, if_true]

theorem dispatchWindowUpdate_silent (hook : Hook)
    (shelved : Shelved world header.streamId)
    (length : header.length = 4) (nonzero : readU32 payload % 2 ^ 31 ≠ 0)
    (onStream : header.streamId ≠ 0) :
    Silent world (dispatchWindowUpdate hook world header payload) := by
  cases found : world.proto.find header.streamId with
  | none =>
    rw [dispatchWindowUpdate, if_neg (not_not.mpr length), if_neg nonzero,
      if_neg onStream, found]
    simp only [shelved.listed, if_true]
    exact Silent.refl world
  | some slot =>
    rcases find_spec found with ⟨stream, present, -⟩
    rw [dispatchWindowUpdate_closed hook length nonzero onStream found
      present (shelved.flagged slot stream found present).1]
    exact Silent.refl world

theorem settleReset_script (world : World) (slot : Nat) (id : Int) :
    (settleReset world slot id).script = world.script := by
  rw [settleReset]
  split
  · rfl
  · rw [forgetReset]
    split <;> rfl

theorem dispatchRstStream_closed (length : header.length = 4)
    (onStream : header.streamId ≠ 0)
    (found : world.proto.find header.streamId = some slot)
    (present : world.stream? slot = some stream) (closed : stream.closed = true)
    (idle : ∀ reply ∈ world.script.head?, reply.calls = []) :
    Silent world
      (dispatchRstStream (application depth) world header payload) := by
  rw [dispatchRstStream, if_neg onStream, if_neg (not_not.mpr length), found]
  simp only [present, closed, if_true]
  refine (settleReset_silent world slot _).trans (callback_silent depth ?_ rfl)
  rw [settleReset_script]
  exact idle

theorem dispatchRstStream_silent (shelved : Shelved world header.streamId)
    (length : header.length = 4) (onStream : header.streamId ≠ 0)
    (idle : ∀ reply ∈ world.script.head?, reply.calls = []) :
    Silent world
      (dispatchRstStream (application depth) world header payload) := by
  cases found : world.proto.find header.streamId with
  | none =>
    rw [dispatchRstStream, if_neg onStream, if_neg (not_not.mpr length), found]
    simp only [shelved.listed, if_true]
    exact forgetReset_silent _ _
  | some slot =>
    rcases find_spec found with ⟨stream, present, -⟩
    exact dispatchRstStream_closed depth length onStream found present
      (shelved.flagged slot stream found present).1 idle

theorem dispatchData_silent (hook : Hook)
    (shelved : Shelved world header.streamId)
    (stream : header.streamId ≠ 0) (announced : world.conn.announced = true)
    (nonneg : 0 ≤ world.proto.connConsumed) {data : Bytes}
    (parsed : frameDataPayload payload header.flags = some data)
    (within : header.length ≤ world.proto.connRecvWindow)
    (window : world.proto.connRecvWindow + world.proto.connConsumed ≤ maxWindow)
    (room : 13 ≤ world.proto.out.maxCapacity - world.proto.out.size) :
    Silent world (dispatchData hook world header payload) := by
  have drained (slot : Option Nat) : Silent world
      (drainData
        (world.update fun proto =>
          { proto with connRecvWindow := proto.connRecvWindow - header.length })
        header slot) := by
    refine Silent.after (drainData_silent announced nonneg ?_ ?_ room) rfl rfl
    · simp only [World.update]
      omega
    · simp only [World.update]
      omega
  rw [dispatchData, if_neg stream]
  simp only [parsed]
  rw [if_neg (not_lt.mpr within)]
  cases found : world.proto.find header.streamId with
  | none =>
    simp only [shelved.listed, if_true]
    exact drained none
  | some slot =>
    rcases find_spec found with ⟨stream, present, -⟩
    have flags := shelved.flagged slot stream found present
    have present' :
        (world.update fun proto =>
          { proto with connRecvWindow := proto.connRecvWindow -
            header.length }).stream?
          slot = some stream := present
    simp only [remoteClosed, present', flags.1, flags.2, Bool.not_true,
      Bool.and_false, Bool.or_false, Bool.false_eq_true, if_false, if_true]
    exact drained (some slot)

theorem dispatchHeaders_silent (hook : Hook)
    (shelved : Shelved world header.streamId)
    (stream : header.streamId ≠ 0) (apart : world.proto.inHeaders = false)
    {block : Bytes}
    (parsed : frameHeadersPayload payload header.flags = some block)
    (fits : BlockFits world.proto world.proto.inBlock.clear header.flags
      block) :
    Silent world (dispatchHeaders hook world header payload) := by
  rw [dispatchHeaders, if_neg stream, apart, if_neg Bool.false_ne_true]
  simp only [parsed, shelved.listed, not_true_eq_false, and_false, if_false,
    false_and]
  refine Silent.after (appendBlock_silent hook ?_ fits) rfl rfl
  exact ⟨shelved.listed, shelved.flagged⟩

theorem dispatchContinuation_silent (hook : Hook)
    (shelved : Shelved world header.streamId)
    (stream : header.streamId ≠ 0) (inside : world.proto.inHeaders = true)
    (same : world.proto.inHeadersStream = header.streamId)
    (fits : BlockFits world.proto world.proto.inBlock header.flags payload) :
    Silent world (dispatchContinuation hook world header payload) := by
  rw [dispatchContinuation, if_neg]
  · exact appendBlock_silent hook (same ▸ shelved) fits
  · simp [stream, inside, same]

end Frames

/-- A frame behind the checks which all frames have in common. -/
theorem dispatch_type (hook : Hook) (payload : Bytes) {type : FrameType}
    (isType : FrameType.ofCode header.type = some type)
    (settings : world.proto.peerSettingsReceived = true)
    (place : type = .continuation ∨ world.proto.inHeaders = false) :
    dispatch hook world header payload =
      let noted := world.note (.received header payload)
      match type with
      | .windowUpdate => dispatchWindowUpdate hook noted header payload
      | .rstStream => dispatchRstStream hook noted header payload
      | .data => dispatchData hook noted header payload
      | .headers => dispatchHeaders hook noted header payload
      | .continuation => dispatchContinuation hook noted header payload
      | _ => dispatch hook world header payload := by
  rcases place with rfl | outside
  · simp [dispatch, World.note, isType, settings]
  · cases type <;> simp [dispatch, World.note, isType, settings, outside]

/-- A late frame on a shelved stream is silent. -/
theorem dispatch_silent {payload : Bytes} (live : Live world.conn)
    (shelved : Shelved world header.streamId)
    (wellFormed : WellFormed world header payload)
    (prepared : Prepared world header) :
    Silent world (dispatch (application depth) world header payload) := by
  have listed := (localResetContains_iff _ _).mp shelved.listed
  have stream : header.streamId ≠ 0 := by
    have positive := listed.1
    omega
  have announced : world.conn.announced = true :=
    live.prefaced.resets _ listed.2 (by exact_mod_cast stream)
  have shelved' : Shelved (world.note (.received header payload))
      header.streamId :=
    ⟨shelved.listed, shelved.flagged⟩
  refine Silent.trans
    (@Silent.of_event _ (world.note (.received header payload)) _ rfl rfl
      (by simp)) ?_
  cases wellFormed with
  | windowUpdate isType outside length nonzero =>
    rw [dispatch_type _ payload isType prepared.settings (.inr outside)]
    exact dispatchWindowUpdate_silent _ shelved' length nonzero stream
  | rstStream isType outside length =>
    rw [dispatch_type _ payload isType prepared.settings (.inr outside)]
    exact dispatchRstStream_silent depth shelved' length stream
      (prepared.idle isType)
  | data isType outside parsed within =>
    rw [dispatch_type _ payload isType prepared.settings (.inr outside)]
    exact dispatchData_silent _ shelved' stream announced
      live.bounded.connConsumed parsed within (prepared.window isType)
      (prepared.room isType)
  | headers isType outside parsed fits =>
    rw [dispatch_type _ payload isType prepared.settings (.inr outside)]
    exact dispatchHeaders_silent _ shelved' stream outside parsed fits
  | continuation isType inside same fits =>
    rw [dispatch_type _ payload isType prepared.settings (.inl rfl)]
    exact dispatchContinuation_silent _ shelved' stream inside same fits

/--
Late frames on a stream which was reset locally are ignored.  Where the history
of resets has kept the stream, a frame on it which comes before the peer has
ended it leaves the connection alive, and hands nothing over.
-/
theorem late_frame_ignored {mode : Mode} {config : Config} {cbs : Callbacks}
    {engine : Engine}
    (reachable : Reachable mode config cbs engine)
    (sound : engine.world.proto.failed = false) {header : FrameHeader}
    {payload : Bytes}
    (tidy : Tidy engine.world.log header.streamId)
    (pending : (header.streamId : Int) ∈ pendingResets engine.world.log)
    (wellFormed : WellFormed engine.world header payload)
    (prepared : Prepared engine.world header) :
    (dispatch (application engine.depth) engine.world header
      payload).proto.failed = false ∧
      ∃ events,
        (dispatch (application engine.depth) engine.world header payload).log =
          engine.world.log ++ events ∧
        ∀ entered, .callback entered ∈ events →
          entered.messageStream? = none := by
  have live := reachable.live
  have silent := dispatch_silent engine.depth live
    (shelved_of_pending live tidy pending)
      wellFormed prepared
  exact ⟨silent.failed.trans sound, silent.log⟩

/-- A server whose client has opened two streams, which it resets. -/
def resetRun (ops : List Op) : Engine := smallRun .server [] []
    ([.recv
      (clientPreface ++ [0, 0, 0, 4, 0, 0, 0, 0, 0] ++
        [0, 0, 0, 1, 4, 0, 0, 0, 1] ++
        [0, 0, 0, 1, 4, 0, 0, 0, 3]),
      .call (.submitRstStream 1 8),
      .call (.submitRstStream 3 8)] ++ ops)

/-- Late DATA on the first of the streams is ignored. -/
theorem late_frame_ignored_data : (resetRun []).world.proto.failed = false ∧
    (dispatch (application (resetRun []).depth) (resetRun []).world
      { length := 1, type := 0, flags := 1, streamId := 1 }
      [7]).proto.failed = false := by
  refine ⟨by decide, ?_⟩
  refine (@late_frame_ignored .server Config.small Callbacks.all _
    (smallRun_reachable _ _ _ _) ?_ _ _ ?_ ?_ ?_ ?_).1
  · decide
  · decide
  · decide
  · exact .data rfl (by decide) rfl (by decide)
  · exact ⟨by decide, fun _ => by decide, fun _ => by decide, nofun⟩

/--
The peer ends the second stream and opens a third one, which takes the slot of
the first stream and is reset in turn.
-/
def overwrittenRun : Engine := resetRun
    [.recv ([0, 0, 4, 3, 0, 0, 0, 0, 3, 0, 0, 0, 8] ++
      [0, 0, 0, 1, 4, 0, 0, 0, 5]),
      .call (.submitRstStream 5 8)]

/--
Two streams are pending, as many as there are entries, but late credit for the
first one fails the connection: its entry was overwritten while the one of the
second stream was free.
-/
theorem late_frame_fatal :
    Reachable .server Config.small Callbacks.all overwrittenRun ∧
    pendingResets overwrittenRun.world.log = [1, 5] ∧
    Config.small.streamCapacity = 2 ∧
    overwrittenRun.world.proto.failed = false ∧
    (overwrittenRun.recv [0, 0, 4, 8, 0, 0, 0, 0, 1, 0, 0, 0,
      1]).world.proto.failed =
      true := by
  refine ⟨smallRun_reachable _ _ _ _, ?_⟩
  decide

end Chttp.H2
