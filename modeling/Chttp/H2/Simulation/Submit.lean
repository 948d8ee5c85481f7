import Chttp.H2.Simulation.Output

/-!
# Steps of the submissions

What the application's calls do to the abstraction of an engine, given that
the callbacks they lead to make steps themselves.
-/

namespace Chttp.H2

open Lib Hpack

/-! ## Callbacks -/

/-- Callbacks which make steps and note what they return. -/
structure Faithful (hook : Hook) : Prop where
  moves : ∀ event world, Live world.conn → Moves world (hook event world).1
  returned : ∀ event world, Live world.conn → ∃ events,
    (hook event world).1.log =
        world.log ++ events ++ [.returned event (hook event world).2]

variable {hook : Hook} {start world : World} {event : Callback} {slot : Nat}
  {stream : Stream}
  {conn : Conn} {change : Stream → Stream} {streamId : Int}

/-- A callback follows the connection, with all it calls. -/
theorem Moves.callback (faithful : Faithful hook) (live : Live start.conn)
    (steps : Steps start.conn (world.conn.enter event))
    (reading : world.proto.inHeadersStream = start.proto.inHeadersStream) :
    Moves start (callback hook event world).1 := by
  rw [H2.callback]
  split
  · rename_i installed
    have entered : world.conn.enter event =
        (world.note (.callback event)).conn := by
      have has : world.conn.cbs.has event = true := installed
      rw [Conn.enter, if_pos has]
      rfl
    rw [entered] at steps
    have before : Moves start (world.note (.callback event)) := ⟨steps, reading⟩
    exact before.trans (faithful.moves _ _ (live.steps steps))
  rename_i missing
  have entered : world.conn.enter event = world.conn := by
    have has : world.conn.cbs.has event = false :=
      Bool.eq_false_of_not_eq_true missing
    simp [Conn.enter, has]
  rw [entered] at steps
  exact ⟨steps, reading⟩

theorem enter_steps (neutral : event.neutral = true) (conn : Conn) :
    Steps conn (conn.enter event) := by
  by_cases has : conn.cbs.has event = true
  · have entered : conn.enter event = conn.note (.callback event) := by
      rw [Conn.enter, if_pos has]
      rfl
    rw [entered]
    exact .single (Step.note neutral)
  · have entered : conn.enter event = conn := by
      simp [Conn.enter, has]
    rw [entered]

theorem callback_moves (faithful : Faithful hook)
    (neutral : event.neutral = true)
    (live : Live world.conn) : Moves world (callback hook event world).1 :=
  Moves.callback faithful live (enter_steps neutral world.conn) rfl

/-! ## The stream table -/

theorem findOpen_spec {id : Int}
    (found : world.findOpen id = some (slot, stream)) :
    world.conn.OpenAt slot stream ∧ stream.id = id := by
  rw [World.findOpen] at found
  split at found
  · cases found
  rename_i hit
  rcases getElem?_of_findIdx? hit with ⟨-, item, present, same⟩
  split at found
  · cases found
  rename_i here
  split at found
  · cases found
  rename_i isOpen
  cases found
  cases present.symm.trans here
  exact ⟨⟨here, Bool.eq_false_of_not_eq_true isOpen⟩, beq_iff_eq.mp same⟩

theorem announced_of_getElem? (live : Live conn)
    (present : conn.streams[slot]? = some stream) :
    conn.announced = true := by
  exact live.prefaced.streams
    (List.ne_nil_of_mem (List.mem_of_getElem? present))

theorem find_of_getElem? (distinct : world.conn.ids.Nodup)
    (present : world.proto.streams[slot]? = some stream) :
    world.proto.find stream.id = some slot := by
  rcases List.getElem?_eq_some_iff.mp present with ⟨inside, rfl⟩
  rw [Proto.find, List.findIdx?_eq_some_iff_getElem]
  refine ⟨inside, by simp, ?_⟩
  intro other before same
  have sameSlot := slot_eq_of_id_eq distinct
    (List.getElem?_eq_getElem (before.trans inside))
      (List.getElem?_eq_getElem inside) (eq_of_beq same)
  omega

theorem findOpen_of_openAt (distinct : world.conn.ids.Nodup)
    (isOpen : world.conn.OpenAt slot stream) :
    world.findOpen stream.id = some (slot, stream) := by
  have present : world.stream? slot = some stream := isOpen.1
  rw [World.findOpen, find_of_getElem? distinct isOpen.1]
  simp only [present]
  rw [if_neg (by simp [isOpen.2])]

theorem id_bounds (live : Live conn)
    (present : conn.streams[slot]? = some stream) :
    0 < stream.id ∧ stream.id ≤ maxWindow := by
  have member : stream.id ∈ conn.ids :=
    List.mem_map_of_mem (List.mem_of_getElem? present)
  have opened := live.table.opened _ member
  exact ⟨live.table.positive _ opened, live.table.small _ opened⟩

theorem visitSlots_moves {visit : Nat → World → World}
    (each : ∀ slot world, Live world.conn → Moves world (visit slot world))
    (live : Live world.conn) : Moves world (visitSlots visit world) := by
  rw [visitSlots]
  generalize world.proto.streamCap = rounds
  generalize 0 = slot
  induction rounds generalizing slot world with
  | zero => exact .refl world
  | succ rounds induction =>
    rw [forSlots]
    split
    · have first := each slot world live
      exact first.trans (induction (first.live live) (slot + 1))
    · exact .refl world

/-! ## Closing streams -/

section

variable (conn : Conn) (slot : Nat) (first second : Stream → Stream)

theorem updateStream_updateStream :
    (conn.updateStream slot first).updateStream slot second =
      conn.updateStream slot (second ∘ first) := by
  simp only [Conn.updateStream, List.modify_modify_eq]

theorem updateStream_note_updateStream (event : Event) :
    ((conn.updateStream slot first).note event).updateStream slot second =
      (conn.note event).updateStream slot (second ∘ first) := by
  simp only [Conn.updateStream, Conn.note, List.modify_modify_eq]

theorem updateStream_notes_updateStream (events : List Event) :
    ((conn.updateStream slot first).notes events).updateStream slot second =
      (conn.updateStream slot (second ∘ first)).notes events := by
  simp only [Conn.updateStream, Conn.notes, List.modify_modify_eq]

end

theorem updateStream_id (conn : Conn) (slot : Nat) :
    conn.updateStream slot id = conn := by
  rw [Conn.updateStream, List.modify_id]

theorem localResetContains_iff (world : World) (id : Int) :
    world.proto.localResetContains id = true ↔
      0 < id ∧ id ∈ world.conn.resetIds := by
  rw [Proto.localResetContains, Bool.and_eq_true_iff, decide_eq_true_eq,
    List.contains_iff_mem]
  rfl

theorem conn_recordReset (world : World) (id : Int) :
    (recordReset world id).conn = world.conn.recordReset id := by
  have same : (id ≤ 0 ∨ world.proto.localResetContains id = true) ↔
      (id ≤ 0 ∨ id ∈ world.conn.resetIds) := by
    rw [localResetContains_iff]
    grind
  rw [recordReset]
  by_cases recorded : id ≤ 0 ∨ id ∈ world.conn.resetIds
  · rw [if_pos (same.mpr recorded)]
    simp [Conn.recordReset, recorded]
  have unknown := mt same.mp recorded
  have right : world.conn.recordReset id = Conn.note
        { world.conn with
          resetIds := world.conn.resetIds.set world.conn.cursor id
          cursor := (world.conn.cursor + 1) % world.conn.streamCap }
        (.resetRecorded id (world.conn.resetIds.getD world.conn.cursor 0)) := by
    simp only [Conn.recordReset, decide_eq_true_eq, if_neg recorded]
    rfl
  rw [if_neg unknown, right, World.update, Proto.localResetRecord,
    if_neg unknown]
  rfl

theorem recordReset_reading (world : World) (id : Int) :
    (recordReset world id).proto.inHeadersStream =
      world.proto.inHeadersStream := by
  rw [recordReset]
  split
  · rfl
  · simp only [World.note, World.update, Proto.localResetRecord]
    split <;> rfl

theorem conn_markClosed (world : World) (slot : Nat) (id : Int)
    (cause : CloseCause) (change : Stream → Stream) :
    (markClosed world slot id cause change).conn =
      (world.conn.updateStream slot fun stream =>
        { change stream with closed := true }).note (.closed id cause) :=
  rfl

theorem closing_dropBody : ClosingChange false fun stream =>
    { stream.dropBody with closed := true } := by
  intro stream
  simp [Stream.dropBody]

theorem closing_dropTrailers : ClosingChange false fun stream =>
    { stream.dropBody.dropTrailers with closed := true } := by
  intro stream
  cases pending : stream.trailersPending <;>
    simp [Stream.dropTrailers, Stream.dropBody, pending]

theorem closing_reset : ClosingChange true fun stream =>
    { stream.dropBody.dropTrailers with
      localReset := true
      closed := true } := by
  intro stream
  cases pending : stream.trailersPending <;>
    simp [Stream.dropTrailers, Stream.dropBody, pending]

theorem close_moves (faithful : Faithful hook) (live : Live world.conn)
    (isOpen : world.conn.OpenAt slot stream)
    (closing : ClosingChange false fun stream =>
      { change stream with closed := true })
    {cause : CloseCause} (notReset : cause ≠ .localReset) (errorCode : Nat) :
    Moves world
      (callback hook (.streamClose stream.id errorCode)
        (markClosed world slot stream.id cause change)).1 := by
  apply Moves.callback faithful live
  · rw [conn_markClosed]
    exact .single (Step.close isOpen closing notReset)
  · rfl

theorem maybeClose_moves (faithful : Faithful hook) (live : Live world.conn)
    (slot : Nat) :
    Moves world (maybeClose hook world slot) := by
  rw [maybeClose]
  split
  · exact .refl world
  rename_i stream present
  split
  · rename_i both
    exact close_moves faithful live
      ⟨present, Bool.eq_false_of_not_eq_true both.1⟩ closing_dropBody
      (by decide) _
  · exact .refl world

theorem reset_moves (faithful : Faithful hook) (live : Live start.conn)
    (before : Moves start world) (isOpen : world.conn.OpenAt slot stream)
    (errorCode : Nat) :
    Moves start
      (callback hook (.streamClose stream.id errorCode)
        (recordReset
          (markClosed world slot stream.id .localReset fun stream =>
            { stream.dropBody.dropTrailers with localReset := true })
          stream.id)).1 := by
  apply Moves.callback faithful live
  · rw [conn_recordReset, conn_markClosed]
    exact before.steps.tail (Step.closeReset isOpen closing_reset)
  · exact (recordReset_reading _ _).trans before.reading

theorem submitRstStream_moves (faithful : Faithful hook)
    (live : Live world.conn) (streamId : Int)
    (errorCode : Nat) :
    Moves world (submitRstStream hook world streamId errorCode).1 := by
  rw [submitRstStream]
  split
  · exact .refl world
  have before := ensurePreface_moves live
  rcases preface : ensurePreface world with ⟨prefaced, _ | _⟩ <;>
    rw [preface] at before
  · exact before
  simp only
  split
  · exact before
  rename_i slot stream found
  rcases findOpen_spec found with ⟨isOpen, rfl⟩
  rcases outFrame_spec prefaced
      { type := .rstStream
        flags := 0
        streamId := stream.id
        payload := frameRstEncode errorCode } with
    ⟨equal, -⟩ | ⟨queued, equal, isQueued⟩
  · rw [equal]
    exact before
  · rw [equal]
    refine reset_moves faithful live
      (before.trans (isQueued.moves rfl)) ?_ errorCode
    rw [isQueued.becomes.conn]
    exact isOpen

theorem forgetReset_moves {id : Int} (ended : PeerEnded world.log id) :
    Moves world (forgetReset world id) := by
  rw [forgetReset]
  split
  · rename_i known
    rcases (localResetContains_iff world id).mp known with
      ⟨positive, member⟩
    have reading : (world.proto.localResetForget id).inHeadersStream =
        world.proto.inHeadersStream := by
      rw [Proto.localResetForget]
      split <;> rfl
    refine ⟨?_, reading⟩
    have forgotten :
        ((world.update fun proto => proto.localResetForget id).note
          (.resetForgotten id)).conn =
          Conn.note
            { world.conn with
              resetIds := world.conn.resetIds.map fun entry =>
                  if entry = id then 0 else entry }
            (.resetForgotten id) := by
      rw [World.update, Proto.localResetForget, if_neg (by omega)]
      rfl
    rw [forgotten]
    exact .single (Step.forget positive member ended)
  · exact .refl world

theorem settleReset_moves (slot : Nat) {id : Int}
    (ended : PeerEnded world.log id) :
    Moves world (settleReset world slot id) := by
  rw [settleReset]
  split
  · exact .refl world
  rename_i stream present
  have cleared : Moves world
      ((world.updateStream slot fun stream =>
        { stream with localReset := false }).note
        (.resetCleared stream.id id)) :=
    ⟨.single (Step.clearReset present ended), rfl⟩
  exact cleared.trans (forgetReset_moves (ended.mono (List.prefix_append _ _)))

/-! ## Opening streams -/

/-- A stream is opened in a free slot, as a fresh one. -/
theorem openStream_spec {opened : World} {id : Int}
    (isOpened : openStream world id = some (opened, slot)) :
    ∃ streams, Placed world.conn.streams world.conn.streamCap
          (Stream.fresh id world.conn.peerInitial world.conn.localInitial)
          streams ∧
        streams[slot]? =
          some (Stream.fresh id world.conn.peerInitial
            world.conn.localInitial) ∧
        Becomes world (Conn.note { world.conn with streams } (.opened id))
          opened := by
  rw [openStream] at isOpened
  split at isOpened
  · cases isOpened
  rename_i proto position new
  cases isOpened
  rw [Proto.newStream] at new
  simp only at new
  split at new
  · rename_i free found
    cases new
    rcases getElem?_of_findIdx? found with ⟨inside, old, present, closed⟩
    refine ⟨_, .inl ⟨_, old, present, closed, rfl⟩, ?_, rfl, rfl⟩
    exact List.getElem?_set_self inside
  split at new
  · cases new
  · rename_i roomLeft
    cases new
    refine ⟨_, .inr ⟨Nat.lt_of_not_le roomLeft, rfl⟩, ?_, rfl, rfl⟩
    exact List.getElem?_concat_length

/-- A request was opened and its header block queued. -/
structure Requested (world : World) (endStream : Bool) (slot : Nat)
    (id : Int) (after : World) : Prop where
  becomes : ∃ opened stream events,
    Steps world.conn opened ∧ opened.OpenAt slot stream ∧ stream.id = id ∧
      stream.endStreamSent = false ∧ HeaderFrames id endStream events ∧
      Becomes world
        ((opened.updateStream slot fun stream =>
          { stream with endStreamSent := endStream }).notes events)
        after

theorem dropRequest_moves (before : Steps start.conn conn)
    (reading : world.proto.inHeadersStream = start.proto.inHeadersStream)
    (isOpen : conn.OpenAt slot stream) {id : Int} (sameId : stream.id = id)
    (ended : Stream → Bool)
    (marked : world.conn = conn.updateStream slot fun stream =>
        { stream with endStreamSent := ended stream }) :
    Moves start (dropRequest world slot id) := by
  have closing : ClosingChange false fun stream =>
      { stream with
        endStreamSent := ended stream
        body := none
        source := false
        closed := true } := by
    intro stream
    simp
  refine ⟨?_, reading⟩
  rw [← sameId, dropRequest, conn_markClosed, marked, updateStream_updateStream]
  exact before.tail (Step.drop isOpen closing)

/-- A change which does not close a stream leaves it open. -/
theorem OpenAt.updateStream (isOpen : conn.OpenAt slot stream)
    (change : Stream → Stream)
    (keeps : (change stream).closed = stream.closed) :
    (conn.updateStream slot change).OpenAt slot (change stream) := by
  refine ⟨?_, keeps.trans isOpen.2⟩
  rw [Conn.updateStream_streams, List.getElem?_modify_eq, isOpen.1]
  rfl

theorem blockBroken_steps (isOpen : conn.OpenAt slot stream) {endStream : Bool}
    {events : List Event}
    (frames : events = [] ∨ HeaderFrames stream.id endStream events)
    (keeps : change stream =
      { stream with
        endStreamSent := (change stream).endStreamSent
        bodyEof := (change stream).bodyEof }) :
    Steps conn
      { ((conn.updateStream slot change).notes events).note
        (.blockBroken stream.id) with
        failed := true } := by
  have same : conn.streams.modify slot change =
    conn.streams.modify slot fun item =>
        { item with
          endStreamSent := (change stream).endStreamSent
          bodyEof := (change stream).bodyEof } :=
    modify_congr_at isOpen.1 keeps
  refine .single ?_
  simp only [Conn.updateStream, Conn.notes, Conn.note, same]
  exact Step.blockBroken isOpen frames

/-- A request is opened with its header block, or given up by steps. -/
theorem openRequest_spec (live : Live world.conn)
    (client : world.conn.mode = .client)
    (announced : world.conn.announced = true)
    (small : world.conn.nextStreamId ≤ 0x7ffffffe)
    (headers : List Entry) (endStream : Bool) (priority : Option Priority) :
    (∃ after, openRequest world headers endStream priority = (after, none) ∧
      Moves world after) ∨
      ∃ after slot id, openRequest world headers endStream priority =
        (after, some (slot, id)) ∧
          Requested world endStream slot id after := by
  rw [openRequest]
  simp only
  split
  · left
    refine ⟨_, rfl, ?_, rfl⟩
    exact .single (Step.burn client small)
  rename_i opened slot isOpened
  rcases openStream_spec isOpened with ⟨streams, placed, present, becomes⟩
  generalize freshEq : Stream.fresh world.proto.nextStreamId
    world.conn.peerInitial world.conn.localInitial = fresh
  have freshId : fresh.id = world.proto.nextStreamId := by
    rw [← freshEq]
    rfl
  have opening : Steps world.conn opened.conn := by
    rw [becomes.conn]
    exact .single (Step.openLocal client announced small placed)
  have isOpen : opened.conn.OpenAt slot fresh := by
    rw [becomes.conn]
    refine ⟨present.trans (congrArg some freshEq), ?_⟩
    rw [← freshEq]
    rfl
  have marked := OpenAt.updateStream isOpen
    (fun stream => { stream with endStreamSent := endStream }) rfl
  have spec := outHeaders_spec
      (opened.updateStream slot fun stream =>
        { stream with endStreamSent := endStream })
      world.proto.nextStreamId headers endStream priority
  generalize outHeaders
      (opened.updateStream slot fun stream =>
        { stream with endStreamSent := endStream })
      world.proto.nextStreamId headers endStream priority = result at spec ⊢
  cases spec with
  | refused same =>
    left
    refine ⟨_, rfl, ?_⟩
    exact dropRequest_moves opening
      (same.reading.trans becomes.reading) isOpen freshId _ same.conn
  | broken frames same =>
    rename_i events after
    left
    refine ⟨_, rfl, ?_⟩
    rw [← freshId] at frames ⊢
    have breaking : Steps world.conn
        { (after.note (.blockBroken fresh.id)).conn with
          failed := true } := by
      rw [conn_blockBroken, same.conn]
      exact opening.trans (blockBroken_steps isOpen frames rfl)
    have failing := Moves.protoFail .internalError live breaking
      (same.reading.trans becomes.reading)
    have sameStreams := protoFail_streams (after.note (.blockBroken fresh.id))
        (live.steps breaking).bounded .internalError
    rw [conn_blockBroken, Conn.note_streams, same.conn,
      Conn.notes_streams] at sameStreams
    have stillOpen :
        (protoFail (after.note (.blockBroken fresh.id))
          .internalError).conn.OpenAt slot
          { fresh with endStreamSent := endStream } := by
      refine ⟨?_, marked.2⟩
      rw [sameStreams]
      exact marked.1
    exact dropRequest_moves failing.steps failing.reading stillOpen rfl
      Stream.endStreamSent (updateStream_id _ slot).symm
  | queued frames same =>
    right
    have unended : fresh.endStreamSent = false := by
      rw [← freshEq]
      rfl
    refine ⟨_, _, _, rfl, ⟨opened.conn, fresh, _, opening, isOpen, freshId,
      unended, frames, same.conn, ?_⟩⟩
    exact same.reading.trans becomes.reading

/-! ## Requests -/

/-- A client which may open a request, behind its preface. -/
structure Requesting (start world : World) : Prop where
  moves : Moves start world
  client : world.conn.mode = .client
  announced : world.conn.announced = true
  small : world.conn.nextStreamId ≤ 0x7ffffffe

section

variable (live : Live world.conn)

include live

theorem requesting_of_ensurePreface {prefaced : World}
    (client : world.proto.mode = .client)
    (small : world.proto.nextStreamId ≤ 0x7ffffffe)
    (preface : ensurePreface world = (prefaced, true)) :
    Requesting world prefaced := by
  rcases ensurePreface_spec world live.bounded with ⟨conn', ensured, becomes⟩
  rw [preface] at ensured becomes
  rcases ensured.announced.kept with ⟨sameMode, -, sameNext, -⟩
  constructor
  · exact becomes.moves ensured.announced.steps
  · rw [becomes.conn, sameMode]
    exact client
  · rw [becomes.conn]
    exact (ensured.sent rfl (.inl client)).1
  · rw [becomes.conn, sameNext]
    exact small

/-- A request which is submitted follows the connection. -/
theorem request_moves (may : mayRequest world.proto = true)
    (small : world.proto.nextStreamId ≤ 0x7ffffffe) (headers : List Entry)
    (endStream : Bool)
    (priority : Option Priority) {finish : World → Nat → Int → World}
    (finishes : ∀ {opened : Conn} {after : World} {slot : Nat} {stream : Stream}
      {events : List Event},
      opened.OpenAt slot stream →
      stream.endStreamSent = false →
      HeaderFrames stream.id endStream events →
      after.conn =
        (opened.updateStream slot fun stream =>
          { stream with endStreamSent := endStream }).notes events →
      Step opened (finish after slot stream.id).conn ∧
        (finish after slot stream.id).proto.inHeadersStream =
          after.proto.inHeadersStream) :
    Moves world
      (match ensurePreface world with
        | (world, false) => (world, false)
        | (world, true) =>
          match openRequest world headers endStream priority with
          | (world, none) => (world, false)
          | (world, some (slot, id)) => (finish world slot id, true)).1 := by
  have before := ensurePreface_moves live
  rcases preface : ensurePreface world with ⟨prefaced, _ | _⟩ <;>
    rw [preface] at before
  · exact before
  rw [mayRequest, decide_eq_true_eq] at may
  have requesting := requesting_of_ensurePreface live may.1 small preface
  simp only
  rcases openRequest_spec (before.live live) requesting.client
      requesting.announced requesting.small headers endStream
      priority with
    ⟨after, equal, moves⟩ | ⟨after, slot, id, equal, requested⟩
  · rw [equal]
    exact before.trans moves
  rw [equal]
  rcases requested with
    ⟨opened, stream, events, opening, isOpen, rfl, unended, frames, becomes⟩
  rcases finishes isOpen unended frames becomes.conn with
    ⟨last, reading⟩
  exact before.trans ⟨opening.tail last, reading.trans becomes.reading⟩

theorem submitRequestEx_moves (headers : List Entry) (body : Body)
    (weight : Nat)
    (depStreamId : Int) (exclusive : Bool) :
    Moves world
      (submitRequestEx world headers body weight depStreamId exclusive).1 := by
  rw [submitRequestEx]
  split
  · exact .refl world
  rename_i allowed
  have may : mayRequest world.proto = true :=
    of_not_not fun refused => allowed (.inl refused)
  refine request_moves live may (by omega) headers body.isEmpty _ ?_
  intro opened after slot stream events isOpen _ frames becomes
  refine ⟨?_, rfl⟩
  rw [conn_submitted, conn_updateStream, becomes,
    updateStream_notes_updateStream]
  exact Step.message isOpen frames

theorem submitRequestHeaders_moves (headers : List Entry) (endStream : Bool) :
    Moves world (submitRequestHeaders world headers endStream).1 := by
  rw [submitRequestHeaders]
  split
  · exact .refl world
  rename_i allowed
  have may : mayRequest world.proto = true :=
    of_not_not fun refused => allowed (.inl refused)
  refine request_moves live may (by omega) headers endStream none ?_
  intro opened after slot stream events isOpen unended frames becomes
  refine ⟨?_, rfl⟩
  have same : opened.streams.modify slot
        (fun stream => { stream with endStreamSent := endStream }) =
      opened.streams.modify slot fun stream =>
        { stream with endStreamSent := stream.endStreamSent || endStream } :=
    modify_congr_at isOpen.1 (by rw [unended, Bool.false_or])
  rw [conn_submitted, becomes, Conn.updateStream, same]
  exact Step.headersOnly isOpen frames

/-! ## Responses, data and trailers -/

theorem broken_moves {after : World} (isOpen : world.conn.OpenAt slot stream)
    {endStream : Bool}
    {events : List Event}
    (frames : events = [] ∨ HeaderFrames stream.id endStream events)
    (keeps : change stream =
      { stream with
        endStreamSent := (change stream).endStreamSent
        bodyEof := (change stream).bodyEof })
    (becomes : Becomes world
      ((world.conn.updateStream slot change).notes events) after) :
    Moves world
      (protoFail (after.note (.blockBroken stream.id)) .internalError) := by
  apply Moves.protoFail .internalError live
  · rw [conn_blockBroken, becomes.conn]
    exact blockBroken_steps isOpen frames keeps
  · exact becomes.reading

end

/-- Headers which are submitted follow the connection. -/
theorem submitHeaders_moves (faithful : Faithful hook) (live : Live world.conn)
    (streamId : Int)
    (headers : List Entry) (endStream : Bool) :
    Moves world (submitHeaders hook world streamId headers endStream).1 := by
  rw [submitHeaders]
  split
  · exact .refl world
  split
  · exact .refl world
  rename_i slot stream found
  rcases findOpen_spec found with ⟨isOpen, rfl⟩
  rw [ensurePreface_of_announced (announced_of_getElem? live isOpen.1)]
  simp only
  have spec := outHeaders_spec world stream.id headers endStream none
  generalize outHeaders world stream.id headers endStream none =
    result at spec ⊢
  cases spec with
  | refused same => exact same.moves .refl
  | broken frames same =>
    rw [← updateStream_id world.conn slot] at same
    exact broken_moves live isOpen frames rfl same
  | queued frames same =>
    rename_i events after
    have submitted := Step.headersOnly isOpen frames
    cases endStream with
    | false =>
      have unchanged : world.conn.updateStream slot
            (fun stream =>
              { stream with endStreamSent := stream.endStreamSent || false }) =
          world.conn := by
        simp only [Bool.or_false]
        exact updateStream_id world.conn slot
      rw [unchanged, ← same.conn] at submitted
      exact ⟨.single submitted, same.reading⟩
    | true =>
      have marked : Moves world
          ((after.note (.submitted stream.id (.headers true))).updateStream slot
            fun stream => { stream with endStreamSent := true }) := by
        refine ⟨.single ?_, same.reading⟩
        simp only [Bool.or_true] at submitted
        rw [conn_updateStream, conn_submitted, same.conn]
        exact submitted
      exact marked.trans (maybeClose_moves faithful (marked.live live) slot)

/-- A response with its entry in the log makes steps. -/
theorem submitResponseEx_called (faithful : Faithful hook)
    (live : Live world.conn)
    (streamId : Int) (headers : List Entry) (body : Body) :
    Moves world
      ((submitResponseEx hook world streamId headers body).1.note
        (.called (.submitResponseEx streamId headers body)
          (submitResponseEx hook world streamId headers body).2)) := by
  have refused : Moves world
      (world.note (.called (.submitResponseEx streamId headers body) false)) :=
    ⟨.single Step.refused, rfl⟩
  rw [submitResponseEx]
  split
  · exact refused
  split
  · exact refused
  rename_i slot stream found
  rcases findOpen_spec found with ⟨isOpen, rfl⟩
  rw [ensurePreface_of_announced (announced_of_getElem? live isOpen.1)]
  simp only
  have spec := outHeaders_spec
      (world.updateStream slot fun stream =>
        { stream with endStreamSent := body.isEmpty })
      stream.id headers body.isEmpty none
  generalize outHeaders
      (world.updateStream slot fun stream =>
        { stream with endStreamSent := body.isEmpty })
      stream.id headers body.isEmpty none = result at spec ⊢
  cases spec with
  | refused same =>
    refine ⟨.single ?_, same.reading⟩
    rw [conn_called, same.conn]
    exact Step.messageRefused isOpen
  | broken frames same =>
    have broken := broken_moves live isOpen frames rfl ⟨same.conn, same.reading⟩
    exact broken.trans ⟨.single Step.refused, rfl⟩
  | queued frames same =>
    rename_i events after
    have submitted : Moves world
        ((after.updateStream slot (attachBody body)).note
          (.submitted stream.id (.message body))) := by
      refine ⟨.single ?_, same.reading⟩
      rw [conn_submitted, conn_updateStream, same.conn, conn_updateStream,
        updateStream_notes_updateStream]
      exact Step.message isOpen frames
    have called : ∀ world : World, Moves world
        (world.note
          (.called (.submitResponseEx stream.id headers body) true)) :=
      fun world => called_moves world rfl true
    simp only
    split
    · have closed := maybeClose_moves faithful (submitted.live live) slot
      exact submitted.trans (closed.trans (called _))
    · exact submitted.trans (called _)

theorem submitData_moves (live : Live world.conn) (streamId : Int)
    (data : Bytes)
    (endStream : Bool) :
    Moves world (submitData world streamId data endStream).1 := by
  rw [submitData]
  split
  · exact .refl world
  rename_i something
  split
  · exact .refl world
  rename_i slot stream found
  rcases findOpen_spec found with ⟨isOpen, rfl⟩
  split
  · exact .refl world
  rename_i free
  rw [not_or, not_or] at free
  rcases free with ⟨noBody, noSource, unended⟩
  rw [ensurePreface_of_announced (announced_of_getElem? live isOpen.1)]
  refine ⟨.single ?_, rfl⟩
  apply Step.bodyData isOpen
  · simpa using noBody
  · simpa using noSource
  · simpa using unended
  · intro empty
    by_contra unfinished
    exact something ⟨empty, unfinished⟩

theorem queueTrailers_moves (world : World)
    (isOpen : world.conn.OpenAt slot stream)
    (headers : List Entry) :
    Moves world (queueTrailers world slot stream.id headers).1 := by
  rw [queueTrailers]
  split
  · exact .refl world
  split
  · refine ⟨.single (Step.tune ?_), rfl⟩
    intro item
    rfl
  · exact ⟨.single (Step.trailersQueued isOpen), rfl⟩

/-- Trailers which are submitted follow the connection. -/
theorem submitTrailers_called (faithful : Faithful hook)
    (live : Live world.conn) (streamId : Int)
    (headers : List Entry) :
    Moves world
      ((submitTrailers hook world streamId headers).1.note
        (.called (.submitTrailers streamId headers)
          (submitTrailers hook world streamId headers).2)) := by
  have called : ∀ (world : World) (succeeded : Bool), Moves world
      (world.note (.called (.submitTrailers streamId headers) succeeded)) :=
    fun world => called_moves world rfl
  rw [submitTrailers]
  split
  · exact called world false
  split
  · exact called world false
  rename_i slot stream found
  rcases findOpen_spec found with ⟨isOpen, rfl⟩
  rw [ensurePreface_of_announced (announced_of_getElem? live isOpen.1)]
  simp only
  split
  · exact called world false
  split
  · exact (queueTrailers_moves world isOpen headers).trans (called _ _)
  have spec := outHeaders_spec
      (world.updateStream slot fun stream =>
        { stream with endStreamSent := true, bodyEof := false })
      stream.id headers true none
  generalize outHeaders
      (world.updateStream slot fun stream =>
        { stream with endStreamSent := true, bodyEof := false })
      stream.id headers true none = result at spec ⊢
  cases spec with
  | refused same =>
    refine ⟨.single ?_, same.reading⟩
    rw [conn_called, same.conn]
    exact Step.trailersRefused isOpen
  | broken frames same =>
    have broken := broken_moves live isOpen frames rfl ⟨same.conn, same.reading⟩
    exact broken.trans (called _ false)
  | queued frames same =>
    rename_i events after
    have submitted : Moves world
        (after.note (.submitted stream.id .trailers)) := by
      refine ⟨.single ?_, same.reading⟩
      rw [conn_submitted, same.conn]
      exact Step.trailersSent isOpen frames
    have closed := maybeClose_moves faithful (submitted.live live) slot
    exact submitted.trans (closed.trans (called _ true))

/-! ## Receive credit -/

theorem submitWindowUpdate_connection (world : World) (increment : Nat)
    (bounded : Bounded world.conn) :
    ∃ mid, Announced world.conn mid ∧
        ((submitWindowUpdate world 0 increment).2 = false ∧
            Becomes world mid (submitWindowUpdate world 0 increment).1 ∨
          mid.connRecvWindow + increment ≤ maxWindow ∧ ∃ events,
            Neutral events ∧ Becomes world
                  (Conn.notes
                    { mid with
                      connRecvWindow := mid.connRecvWindow + increment }
                    events)
                  (submitWindowUpdate world 0 increment).1) := by
  rcases ensurePreface_spec world bounded with ⟨mid, ensured, becomes⟩
  refine ⟨mid, ensured.announced, ?_⟩
  rw [submitWindowUpdate]
  rcases preface : ensurePreface world with ⟨prefaced, _ | _⟩ <;>
    rw [preface] at becomes
  · exact .inl ⟨rfl, becomes⟩
  simp only
  by_cases sensible : 0 < increment ∧ increment ≤ maxWindow
  · rcases grantWindow_connection prefaced increment sensible.1 sensible.2 with
      ⟨equal, -⟩ | ⟨granted, ok, events, equal, fits, neutral, after⟩
    · rw [equal]
      exact .inl ⟨rfl, becomes⟩
    · rw [equal]
      rw [becomes.conn] at fits after
      exact .inr ⟨fits, events, neutral, becomes.trans after⟩
  · have refused : grantWindow prefaced 0 increment = (prefaced, false) := by
      rw [grantWindow, if_pos (by omega)]
    rw [refused]
    exact .inl ⟨rfl, becomes⟩

/-- What `chttp_h2_proto_consume_connection` does. -/
structure Consumes (conn : Conn) (bytes : Nat) (conn' : Conn)
    (succeeded : Bool) : Prop where
  effect : ∃ mid recv consumed events,
    Announced conn mid ∧ Neutral events ∧ ConsumedBelow mid consumed ∧
      recv ≤ max mid.connRecvWindow maxWindow ∧
      (succeeded = true →
        recv + consumed = mid.connRecvWindow + mid.connConsumed + bytes) ∧
      conn' = Conn.notes
          { mid with connRecvWindow := recv, connConsumed := consumed }
          events

/-- Consuming octets of the connection window. -/
theorem consumeConnection_spec (world : World) (bytes : Nat)
    (bounded : Bounded world.conn) :
    ∃ conn', Consumes world.conn bytes conn' (consumeConnection world bytes).2 ∧
        Becomes world conn' (consumeConnection world bytes).1 := by
  have refused : Consumes world.conn bytes world.conn false := by
    refine ⟨world.conn, world.conn.connRecvWindow, world.conn.connConsumed, [],
      .same, by simp [Neutral], .inl rfl, le_max_left _ _, ?_, ?_⟩
    · simp
    · rw [notes_nil]
  rw [consumeConnection]
  split
  · exact ⟨world.conn, refused, rfl, rfl⟩
  rename_i sensible
  split
  · exact ⟨world.conn, refused, rfl, rfl⟩
  rename_i fits
  have nonneg : 0 ≤ world.proto.connConsumed := bounded.connConsumed
  simp only
  split
  · rename_i reached
    rcases submitWindowUpdate_connection
        (world.update fun proto => { proto with connConsumed := 0 })
        (world.proto.connConsumed + bytes).toNat
        { bounded with connConsumed := le_rfl } with
      ⟨mid, announced, result⟩
    rcases Announced.setConsumed world.conn 0 announced with ⟨mid', announced',
      rfl⟩
    have sameConsumed : mid'.connConsumed = world.proto.connConsumed :=
      announced'.kept.2.2.2.1
    rcases result with
      ⟨failed, becomes⟩ | ⟨room, events, neutral, becomes⟩
    · refine ⟨_, ⟨mid', mid'.connRecvWindow, 0, [], announced',
        by simp [Neutral], .inr (.inl rfl), le_max_left _ _, ?_,
        (notes_nil _).symm⟩, becomes.conn, becomes.reading⟩
      intro succeeded
      rw [failed] at succeeded
      cases succeeded
    refine ⟨_,
      ⟨mid', mid'.connRecvWindow + (world.proto.connConsumed + bytes).toNat, 0,
      events, announced', neutral, .inr (.inl rfl),
      le_max_of_le_right room, ?_, rfl⟩, becomes.conn, becomes.reading⟩
    intro _
    omega
  rename_i below
  refine ⟨_, ⟨world.conn, world.conn.connRecvWindow,
    world.conn.connConsumed + bytes, [], .same, by simp [Neutral], ?_,
    le_max_left _ _, fun _ => by omega, (notes_nil _).symm⟩, rfl, rfl⟩
  right
  right
  change world.proto.connConsumed ≤ world.proto.connConsumed + bytes ∧
    world.proto.connConsumed + bytes < world.proto.connLocalWindow / 2
  omega

theorem consumeConnection_called (live : Live world.conn) (bytes : Nat) :
    Moves world
      ((consumeConnection world bytes).1.note
        (.called (.consumeConnection bytes)
          (consumeConnection world bytes).2)) := by
  rcases consumeConnection_spec world bytes live.bounded with
    ⟨conn', ⟨mid, recv, consumed, events, announced, neutral, below, fits,
      balance, rfl⟩, becomes⟩
  refine ⟨?_, becomes.reading⟩
  rw [conn_called, becomes.conn]
  refine (announced.steps.trans (neutral.steps mid)).tail ?_
  cases result : (consumeConnection world bytes).2 with
  | false => exact Step.consumeFailed below fits
  | true => exact Step.consumed (balance result) below fits

/-- Credit for a stream was granted. -/
structure StreamGranted (world : World) (streamId : Int) (increment : Nat)
    (granted : World) : Prop where
  effect : ∃ slot stream events, world.conn.OpenAt slot stream ∧
    stream.id = streamId ∧
      stream.recvWindow + increment ≤ maxWindow ∧ Neutral events ∧
      Becomes world
        ((world.conn.updateStream slot fun stream =>
          { stream with
            recvWindow := stream.recvWindow + increment }).notes events)
        granted

theorem grantWindow_stream (world : World) (notConnection : streamId ≠ 0)
    (increment : Nat) :
    grantWindow world streamId increment = (world, false) ∨ ∃ granted succeeded,
        grantWindow world streamId increment = (granted, succeeded) ∧
          StreamGranted world streamId increment granted := by
  rw [grantWindow]
  split
  · exact .inl rfl
  split
  · exact .inl rfl
  rename_i payload _
  simp only
  split
  · exact .inl rfl
  rename_i slot stream found
  rcases findOpen_spec found with ⟨isOpen, sameId⟩
  split
  · exact .inl rfl
  rename_i fits
  right
  have below : stream.recvWindow + increment ≤ maxWindow := by
    omega
  rcases outFrame_spec
      (world.updateStream slot fun stream =>
        { stream with recvWindow := stream.recvWindow + increment })
      { type := .windowUpdate, flags := 0, streamId, payload } with
    ⟨equal, -⟩ | ⟨queued, equal, isQueued⟩
  · refine ⟨_, _, equal,
      ⟨slot, stream, [], isOpen, sameId, below, by simp [Neutral], ?_, rfl⟩⟩
    rw [notes_nil]
    rfl
  · exact ⟨_, _, equal, ⟨slot, stream, _, isOpen, sameId, below,
      Neutral.single (windowUpdate_neutral 0 streamId payload),
      isQueued.becomes.conn, isQueued.becomes.reading⟩⟩

/-- Credit granted to a stream follows the connection. -/
theorem StreamGranted.moves {granted : World} {increment : UInt32}
    (isGranted : StreamGranted world streamId increment.toNat granted)
    (succeeded : Bool) :
    Moves world
      (granted.note
        (.called (.submitWindowUpdate streamId increment) succeeded)) := by
  rcases isGranted with
    ⟨slot, stream, events, isOpen, rfl, fits, neutral, becomes⟩
  refine ⟨?_, becomes.reading⟩
  rw [conn_called, becomes.conn]
  exact (neutral.steps world.conn).tail (Step.grantedStream isOpen fits)

theorem submitWindowUpdate_called (live : Live world.conn) (streamId : Int)
    (increment : UInt32) :
    Moves world
      ((submitWindowUpdate world streamId increment.toNat).1.note
        (.called (.submitWindowUpdate streamId increment)
          (submitWindowUpdate world streamId increment.toNat).2)) := by
  by_cases connection : streamId = 0
  · rw [connection]
    rcases submitWindowUpdate_connection world increment.toNat live.bounded with
      ⟨mid, announced, ⟨failed, becomes⟩ | ⟨room, events, neutral, becomes⟩⟩
    · rw [failed]
      refine ⟨?_, becomes.reading⟩
      rw [conn_called, becomes.conn]
      exact announced.steps.tail Step.refused
    · refine ⟨?_, becomes.reading⟩
      rw [conn_called, becomes.conn]
      exact (announced.steps.trans (neutral.steps mid)).tail
        (Step.grantedConn room)
  have before := ensurePreface_moves live
  have refused : ∀ world : World, Moves world
      (world.note (.called (.submitWindowUpdate streamId increment) false)) :=
    fun world => ⟨.single Step.refused, rfl⟩
  rw [submitWindowUpdate]
  rcases preface : ensurePreface world with ⟨prefaced, _ | _⟩ <;>
    rw [preface] at before
  · exact before.trans (refused _)
  simp only
  rcases grantWindow_stream prefaced connection increment.toNat with
    equal | ⟨granted, ok, equal, isGranted⟩
  · rw [equal]
    exact before.trans (refused _)
  · rw [equal]
    exact before.trans (isGranted.moves ok)

theorem consumeStream_spec (world : World)
    (announced : world.conn.announced = true)
    (notConnection : streamId ≠ 0) (bytes : Nat) :
    consumeStream world streamId bytes = (world, false) ∨ ∃ granted succeeded,
        consumeStream world streamId bytes = (granted, succeeded) ∧
          StreamGranted world streamId bytes granted := by
  rw [consumeStream]
  split
  · exact .inl rfl
  · split
    · exact .inl rfl
    · rw [submitWindowUpdate, ensurePreface_of_announced announced]
      exact grantWindow_stream world notConnection bytes

/-- Octets which are consumed follow the connection. -/
theorem consumeStream_called (live : Live world.conn) (streamId : Int)
    (bytes : Nat) :
    Moves world
      ((consumeStream world streamId bytes).1.note
        (.called (.consumeStream streamId bytes)
          (consumeStream world streamId bytes).2)) := by
  have refused : Moves world
      (world.note (.called (.consumeStream streamId bytes) false)) :=
    ⟨.single Step.refused, rfl⟩
  cases found : world.findOpen streamId with
  | none =>
    have nothing : consumeStream world streamId bytes = (world, false) := by
      rw [consumeStream]
      split
      · rfl
      · rw [found]
    rw [nothing]
    exact refused
  | some pair =>
    rcases findOpen_spec found with ⟨present, sameId⟩
    have notConnection : streamId ≠ 0 := by
      have positive := (id_bounds live present.1).1
      omega
    rcases consumeStream_spec world
      (announced_of_getElem? live present.1) notConnection bytes with
      equal | ⟨granted, succeeded, equal, isGranted⟩
    · rw [equal]
      exact refused
    rw [equal]
    rcases isGranted with
      ⟨slot, stream, events, isOpen, rfl, fits, neutral, becomes⟩
    refine ⟨?_, becomes.reading⟩
    rw [conn_called, becomes.conn]
    refine (neutral.steps world.conn).tail ?_
    cases succeeded with
    | true => exact Step.consumedStream isOpen fits
    | false =>
      have capped : world.conn.streams.modify slot
            (fun stream =>
              { stream with recvWindow := stream.recvWindow + bytes }) =
          world.conn.streams.modify slot fun stream =>
            { stream with
              recvWindow := min (stream.recvWindow + bytes)
                  (max stream.recvWindow maxWindow) } := by
        refine modify_congr_at isOpen.1 ?_
        rw [min_eq_left (le_max_of_le_right fits)]
      have changes : RecvChange fun stream =>
          { stream with
            recvWindow :=
              min (stream.recvWindow + bytes)
                (max stream.recvWindow maxWindow) } :=
        fun stream => ⟨rfl, min_le_right _ _⟩
      rw [Conn.updateStream, capped]
      exact Step.consumeStreamFailed changes

/-! ## Other calls -/

theorem submitSettings_called (world : World) : Moves world
    ((submitSettings world).1.note
      (.called .submitSettings (submitSettings world).2)) := by
  rcases submitSettings_spec world with
    ⟨equal, -⟩ | ⟨queued, equal, isQueued⟩
  · rw [equal]
    exact ⟨.single Step.refused, rfl⟩
  rw [equal]
  have sent : Moves queued
      ((queued.update fun proto => { proto with settingsSent := true }).note
        (.called .submitSettings true)) := by
    refine ⟨.single ?_, rfl⟩
    rw [conn_called, conn_settingsSent]
    exact Step.settingsCalled
  exact (isQueued.moves rfl).trans sent

theorem submitPing_moves (live : Live world.conn) (payload : Bytes) :
    Moves world (submitPing world payload).1 := by
  have before := ensurePreface_moves live
  rw [submitPing]
  rcases preface : ensurePreface world with ⟨prefaced, _ | _⟩ <;>
    rw [preface] at before
  · exact before
  simp only
  rcases outFrame_spec prefaced
      { type := .ping, flags := 0, streamId := 0, payload } with
    ⟨equal, -⟩ | ⟨queued, equal, isQueued⟩
  · rw [equal]
    exact before
  · rw [equal]
    exact before.trans (isQueued.moves rfl)

theorem submitGoaway_moves (live : Live world.conn)
    (lastStreamId errorCode : Nat) :
    Moves world (submitGoaway world lastStreamId errorCode).1 := by
  rcases submitGoaway_spec world lastStreamId errorCode live.bounded with
    ⟨conn', events, announced, neutral, becomes⟩
  exact becomes.moves (announced.steps.trans (neutral.steps conn'))

theorem resumeSource_moves (faithful : Faithful hook) (live : Live world.conn)
    (streamId : Int) :
    Moves world (resumeSource hook world streamId).1 := by
  rw [resumeSource]
  split
  · exact .refl world
  rename_i slot stream _
  split
  · have resumed : Moves world
        (world.updateStream slot fun stream =>
          { stream with sourceWaiting := false }) :=
      ⟨.single (Step.tune fun stream => rfl), rfl⟩
    exact resumed.trans (callback_moves faithful rfl (resumed.live live))
  · exact .refl world

theorem setLocalSettings_moves (world : World)
    (headerTableSize enablePush maxConcurrentStreams initialWindowSize
      maxFrameSize maxHeaderListSize : Nat) :
    Moves world
      (setLocalSettings world headerTableSize enablePush
        maxConcurrentStreams initialWindowSize maxFrameSize
        maxHeaderListSize).1 := by
  rw [setLocalSettings]
  simp only
  split
  · exact .refl world
  rename_i allowed
  split
  · exact .refl world
  · have small : initialWindowSize ≤ maxWindow := by
      omega
    exact ⟨.single (Step.localWindow small), rfl⟩

theorem terminate_moves (faithful : Faithful hook) (live : Live world.conn)
    (errorCode : Nat) :
    Moves world (terminate hook world errorCode).1 := by
  have before :=
    submitGoaway_moves live world.proto.lastProcStreamId.toNat errorCode
  rw [terminate]
  rcases goaway : submitGoaway world world.proto.lastProcStreamId.toNat
    errorCode with ⟨after, _ | _⟩ <;>
    rw [goaway] at before
  · exact before
  refine before.trans (visitSlots_moves ?_ (before.live live))
  intro slot world live
  split
  · exact .refl world
  rename_i stream present
  split
  · exact .refl world
  · rename_i isOpen
    exact close_moves faithful live
      ⟨present, Bool.eq_false_of_not_eq_true isOpen⟩
      closing_dropBody (by decide) errorCode

end Chttp.H2
