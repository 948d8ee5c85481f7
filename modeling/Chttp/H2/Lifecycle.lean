import Chttp.Lib.Trace
import Chttp.H2.Simulation.Engine

/-!
# The life of a stream

A stream is closed once, and its record does not become open again.  What the
callbacks of a stream are allowed to follow is read off the log: `Ordered`
says of every event what must have come before it.
-/

namespace Chttp.H2

open Lib Hpack

/-! ## What an event may follow -/

/-- A stream was not closed so far. -/
def Unclosed (log : List Event) (id : Int) : Prop :=
  ∀ cause, .closed id cause ∉ log

/-- What has come before an event of the life of a stream. -/
def Event.Ordered (before : List Event) : Event → Prop
  | .closed id _ => Unclosed before id
  | .blockComplete id isOpen _ => isOpen = true → Unclosed before id
  | .callback (.data id _) => Unclosed before id
  | .callback (.streamClose id _) =>
    (∃ cause, .closed id cause ∈ before) ∧
      ∀ errorCode, .callback (.streamClose id errorCode) ∉ before
  | .callback entered =>
    ∀ id, entered.headerStream? = some id → HeadersLive before id
  | _ => True

/-- Events which are not about the life of a stream. -/
def Event.lifeless : Event → Bool
  | .closed _ _ => false
  | .blockComplete _ _ _ => false
  | .callback entered => entered.neutral
  | _ => true

theorem Event.ordered_of_lifeless {event : Event}
    (lifeless : event.lifeless = true)
    (before : List Event) : event.Ordered before := by
  cases event with
  | closed | blockComplete => cases lifeless
  | callback entered =>
    cases entered with
    | beginHeaders | header | endHeaders | data | streamClose =>
      cases lifeless
    | _ =>
      intro id ofHeaders
      cases ofHeaders
  | _ => trivial

theorem closed_not_mem {events : List Event}
    (lifeless : ∀ event ∈ events, event.lifeless = true)
    (id : Int) (cause : CloseCause) : .closed id cause ∉ events := by
  intro member
  cases lifeless _ member

theorem Event.lifeless_of_neutral {event : Event}
    (neutral : event.neutral = true) : event.lifeless = true := by
  cases event with
  | closed | blockComplete => cases neutral
  | callback entered => exact neutral
  | _ => rfl

theorem HeaderFrames.lifeless {id : Int} {endStream : Bool}
    {events : List Event}
    (frames : HeaderFrames id endStream events) :
    ∀ event ∈ events, event.lifeless = true := by
  intro event member
  rcases frames.frame_of_mem member with ⟨frame, rfl⟩
  rfl

/-! ## Steps -/

/-- The log is ordered, and closed streams stay closed. -/
structure LifeValid (conn : Conn) : Prop where
  ordered : ∀ before event, before ++ [event] <+: conn.log →
    event.Ordered before
  closed : ∀ id cause, .closed id cause ∈ conn.log → .opened id ∈ conn.log ∧
      ∀ stream ∈ conn.streams, stream.id = id → stream.closed = true

section Steps

variable {conn conn' : Conn} {events : List Event}

section

variable (valid : LifeValid conn)

include valid

namespace LifeValid

theorem unclosed {slot : Nat} {stream : Stream}
    (isOpen : conn.OpenAt slot stream) :
    Unclosed conn.log stream.id := by
  intro cause member
  have closed := (valid.closed _ cause member).2 stream
    (List.mem_of_getElem? isOpen.1) rfl
  rw [isOpen.2] at closed
  cases closed

theorem streamClose_not_mem {id : Int} (unclosed : Unclosed conn.log id)
    (errorCode : Nat) : .callback (.streamClose id errorCode) ∉ conn.log := by
  intro member
  rcases List.append_of_mem member with ⟨before, after, split⟩
  have begins : before ++ [.callback (.streamClose id errorCode)] <+:
      conn.log :=
    ⟨after, by rw [split, List.append_assoc]; rfl⟩
  rcases (valid.ordered before _ begins).1 with ⟨cause, closed⟩
  apply unclosed cause
  rw [split]
  exact List.mem_append_left _ closed

/-- Events in order, with the streams carried over. -/
theorem append (log : conn'.log = conn.log ++ events)
    (ordered : ∀ before event, before ++ [event] <+: events →
      event.Ordered (conn.log ++ before))
    (unclosed : ∀ id, Unclosed events id)
    (carried : Carried (fun _ => ()) conn.streams conn'.streams) :
    LifeValid conn' := by
  constructor
  · intro before event begins
    rw [log] at begins
    rcases concat_prefix_append_iff.mp begins with
      old | ⟨between, rfl, new⟩
    · exact valid.ordered before event old
    · exact ordered between event new
  intro id cause member
  rw [log] at member ⊢
  have old := (List.mem_append.mp member).resolve_right (unclosed id cause)
  have before := valid.closed id cause old
  refine ⟨List.mem_append_left _ before.1, ?_⟩
  intro stream' changed isId
  rcases carried stream' changed with ⟨stream, present, sameId, -, stays⟩
  exact stays (before.2 stream present (sameId.trans isId))

/-- Events which say nothing about the life of a stream. -/
theorem quiet (log : conn'.log = conn.log ++ events)
    (lifeless : ∀ event ∈ events, event.lifeless = true)
    (carried : Carried (fun _ => ()) conn.streams conn'.streams) :
    LifeValid conn' := by
  apply valid.append log _ _ carried
  · intro before event begins
    apply Event.ordered_of_lifeless
    exact lifeless event (begins.subset List.mem_concat_self)
  · exact fun id cause => closed_not_mem lifeless id cause

/-- One event in order, with the streams carried over. -/
theorem single {event : Event} (log : conn'.log = conn.log ++ [event])
    (ordered : event.Ordered conn.log)
    (unclosed : ∀ id cause, event ≠ .closed id cause)
    (carried : Carried (fun _ => ()) conn.streams conn'.streams) :
    LifeValid conn' := by
  apply valid.append log _ _ carried
  · intro before other begins
    rcases concat_prefix_singleton_iff.mp begins with ⟨rfl, rfl⟩
    rw [List.append_nil]
    exact ordered
  · intro id cause member
    exact unclosed id cause (List.mem_singleton.mp member).symm

/-- A stream which is opened begins its life. -/
theorem opened (table : TableValid conn) {id : Int} {stream : Stream}
    (admits : Admits conn conn' id) (log : conn'.log = conn.log ++ [.opened id])
    (isId : stream.id = id)
    (members : ∀ stream' ∈ conn'.streams, stream' ∈ conn.streams ∨
      stream' = stream) :
    LifeValid conn' := by
  constructor
  · intro before event begins
    rw [log] at begins
    rcases concat_prefix_concat_iff.mp begins with old | ⟨rfl, rfl⟩
    · exact valid.ordered before event old
    · trivial
  intro other cause member
  rw [log] at member ⊢
  have old : .closed other cause ∈ conn.log := by
    simpa using member
  have before := valid.closed other cause old
  refine ⟨List.mem_append_left _ before.1, ?_⟩
  intro stream' present isOther
  rcases members stream' present with same | rfl
  · exact before.2 stream' same isOther
  · rw [← isOther, isId] at before
    exact absurd before.1 (admits.unopened table)

/-- The events of a stream which is closed are in order. -/
theorem ordered_closing {slot : Nat} {stream : Stream} {cause : CloseCause}
    {first second last : List Event} (isOpen : conn.OpenAt slot stream)
    (before : ∀ event ∈ first, event.lifeless = true)
    (behind : ∀ event ∈ second, event.lifeless = true)
    (told : last = [] ∨ ∃ errorCode,
      last = [.callback (.streamClose stream.id errorCode)]) :
    ∀ earlier event, earlier ++ [event] <+:
          first ++ ([.closed stream.id cause] ++ (second ++ last)) →
        event.Ordered (conn.log ++ earlier) := by
  have unclosed := valid.unclosed isOpen
  intro earlier event begins
  rcases concat_prefix_append_iff.mp begins with
    inFirst | ⟨earlier, rfl, fromClosed⟩
  · apply Event.ordered_of_lifeless
    exact before event (inFirst.subset List.mem_concat_self)
  rcases concat_prefix_append_iff.mp fromClosed with
    closes | ⟨earlier, rfl, fromSecond⟩
  · rcases concat_prefix_singleton_iff.mp closes with ⟨rfl, rfl⟩
    intro other member
    rw [List.append_nil] at member
    exact (List.mem_append.mp member).elim (unclosed other)
      (closed_not_mem before _ _)
  rcases concat_prefix_append_iff.mp fromSecond with
    inSecond | ⟨earlier, rfl, fromLast⟩
  · apply Event.ordered_of_lifeless
    exact behind event (inSecond.subset List.mem_concat_self)
  -- What is left is the callback, which the application hears once.
  rcases told with rfl | ⟨errorCode, rfl⟩
  · simp at fromLast
  rcases concat_prefix_singleton_iff.mp fromLast with ⟨rfl, rfl⟩
  constructor
  · exact ⟨cause, by simp⟩
  intro other member
  simp only [List.mem_append, List.mem_singleton, List.not_mem_nil,
    or_false] at member
  rcases member with old | inFirst | closes | inSecond
  · exact valid.streamClose_not_mem unclosed other old
  · cases before _ inFirst
  · cases closes
  · cases behind _ inSecond

/-- A stream which is closed ends its life. -/
theorem closing (table : TableValid conn) {slot : Nat} {stream : Stream}
    {change : Stream → Stream} {reset : Bool} {cause : CloseCause}
    {first second last : List Event} (isOpen : conn.OpenAt slot stream)
    (isClosing : ClosingChange reset change)
    (log : conn'.log = conn.log ++
      (first ++ ([.closed stream.id cause] ++ (second ++ last))))
    (streams : conn'.streams = conn.streams.modify slot change)
    (before : ∀ event ∈ first, event.lifeless = true)
    (behind : ∀ event ∈ second, event.lifeless = true)
    (told : last = [] ∨ ∃ errorCode,
      last = [.callback (.streamClose stream.id errorCode)]) :
    LifeValid conn' := by
  have isClosed (stream : Stream) : (change stream).closed = true := by
    rw [isClosing stream]
  constructor
  · intro earlier event begins
    rw [log] at begins
    rcases concat_prefix_append_iff.mp begins with old | ⟨between, rfl, new⟩
    · exact valid.ordered earlier event old
    · exact valid.ordered_closing isOpen before behind told between event new
  intro id other member
  rw [log] at member ⊢
  rw [streams]
  rcases List.mem_append.mp member with old | new
  · have wasClosed := valid.closed id other old
    refine ⟨List.mem_append_left _ wasClosed.1, ?_⟩
    intro stream' changed isId
    rcases mem_modify changed with same | ⟨stream, -, rfl⟩
    · exact wasClosed.2 stream' same isId
    · exact isClosed stream
  have isId : id = stream.id := by
    simp only [List.mem_append, List.mem_singleton] at new
    rcases new with inFirst | closes | inSecond | inLast
    · exact absurd inFirst (closed_not_mem before _ _)
    · cases closes
      rfl
    · exact absurd inSecond (closed_not_mem behind _ _)
    · rcases told with rfl | ⟨errorCode, rfl⟩
      · cases inLast
      · cases List.mem_singleton.mp inLast
  have present : stream ∈ conn.streams := List.mem_of_getElem? isOpen.1
  have wasOpened := table.opened _ (List.mem_map_of_mem present)
  rw [isId]
  refine ⟨List.mem_append_left _ wasOpened, ?_⟩
  intro stream' changed sameId
  rcases mem_modify_of_present table.nodup isOpen.1 changed with
    ⟨-, distinct⟩ | rfl
  · exact absurd sameId distinct
  · exact isClosed stream

end LifeValid

end

end Steps

variable (conn : Conn) (id : Int)

/-- The callback of a closed stream, if it is installed. -/
def Conn.told (errorCode : Nat) : List Event :=
  if conn.cbs.has (.streamClose id errorCode) then
    [.callback (.streamClose id errorCode)]
  else
    []

theorem Conn.told_cases (errorCode : Nat) : conn.told id errorCode = [] ∨
    ∃ errorCode', conn.told id errorCode =
      [.callback (.streamClose id errorCode')] := by
  rw [Conn.told]
  split
  · exact .inr ⟨errorCode, rfl⟩
  · exact .inl rfl

/-- What a local reset writes to the log. -/
def Conn.recorded : List Event :=
  if decide (id ≤ 0 ∨ id ∈ conn.resetIds) then
    []
  else
    [.resetRecorded id (conn.resetIds.getD conn.cursor 0)]

theorem Conn.recorded_lifeless :
    ∀ event ∈ conn.recorded id, event.lifeless = true := by
  intro event member
  rw [Conn.recorded] at member
  split at member
  · cases member
  · rw [List.mem_singleton.mp member]
    rfl

/-- Every step keeps the log ordered and closed streams closed. -/
theorem Step.life {conn conn' : Conn} (step : Step conn conn')
    (table : TableValid conn) (valid : LifeValid conn) : LifeValid conn' := by
  have log := step.log_news
  cases step with
  | @close _ stream _ _ errorCode isOpen closing =>
    exact @LifeValid.closing _ _ valid table _ _ _ _ _ [] []
      (conn.told stream.id errorCode) isOpen closing
      (List.append_assoc ..) rfl (by simp) (by simp)
      (conn.told_cases _ _)
  | drop isOpen closing =>
    exact @LifeValid.closing _ _ valid table _ _ _ _ _ [] [] [] isOpen closing
      rfl rfl (by simp) (by simp) (.inl rfl)
  | @closeReset _ stream _ errorCode isOpen closing =>
    refine @LifeValid.closing _ _ valid table _ _ _ _ .localReset []
      (conn.recorded stream.id) (conn.told stream.id errorCode) isOpen
      closing ?_ rfl (by simp) (conn.recorded_lifeless _)
      (conn.told_cases _ _)
    simp only [Conn.enter_log, Conn.recordReset_log, Conn.note_log,
      Conn.updateStream_log, List.append_assoc]
    rfl
  | @pullError _ limit room errorCode stream _ pull isOpen _ closing =>
    refine @LifeValid.closing _ _ valid table _ _ _ _ .localReset
      [.pulled stream.id pull limit room, .frame
          { type := .rstStream
            flags := 0
            streamId := stream.id
            payload := frameRstEncode errorCode }]
      (conn.recorded stream.id) (conn.told stream.id errorCode) isOpen
      closing ?_ rfl (by simp [Event.lifeless])
      (conn.recorded_lifeless _) (conn.told_cases _ _)
    simp only [Conn.enter_log, Conn.recordReset_log, Conn.note_log,
      Conn.updateStream_log, List.append_assoc]
    rfl
  | openLocal client announced below placed =>
    exact valid.opened table (admits_local client announced below placed)
      rfl rfl fun _ => placed.mem
  | openRemote server announced _ below small placed =>
    exact valid.opened table
      (admits_remote server announced below small placed) rfl rfl
      fun _ => placed.mem
  | @delivered _ stream data _ _ _ _ isOpen =>
    by_cases told : conn.cbs.has (.data stream.id data)
    · refine @LifeValid.single _ _ valid (.callback (.data stream.id data)) ?_
        (valid.unclosed isOpen) nofun
        (.modify _ _ fun _ => ⟨rfl, rfl, id⟩)
      simp [told]
    · refine valid.quiet log ?_ (.modify _ _ fun _ => ⟨rfl, rfl, id⟩)
      simp [Conn.news, told]
  | @blockComplete id isOpen _ isOpen_iff =>
    refine valid.single rfl ?_ ?_ (.refl _)
    · intro open'
      rcases isOpen_iff.mp open' with ⟨slot, stream, isOpen, rfl⟩
      exact valid.unclosed isOpen
    · rintro _ _ ⟨⟩
  | @headerCallback event id ofHeaders headersLive =>
    refine valid.single rfl ?_ nofun (.refl _)
    cases event with
    | data | streamClose => cases ofHeaders
    | _ =>
      intro other isOther
      rw [ofHeaders] at isOther
      cases isOther
      exact headersLive
  | note neutral =>
    refine valid.quiet log ?_ (.refl _)
    simp [Conn.news, Event.lifeless_of_neutral neutral]
  | message _ frames
  | headersOnly _ frames
  | trailersSent _ frames =>
    refine valid.quiet log ?_ (by simp)
    simpa [Conn.news, or_imp, forall_and, Event.lifeless] using frames.lifeless
  | blockBroken _ frames =>
    refine valid.quiet log ?_ (by simp)
    rcases frames with rfl | frames
    · simp [Conn.news, Event.lifeless]
    · simpa [Conn.news, or_imp, forall_and,
        Event.lifeless] using frames.lifeless
  | tune quiet =>
    refine valid.quiet log ?_ (.modify _ _ fun stream => ?_)
    · simp [Conn.news]
    · rw [quiet stream]
      exact ⟨rfl, rfl, id⟩
  | consumeStreamFailed recv
  | spoiled _ _ recv =>
    refine valid.quiet log ?_ (.modify _ _ fun stream => ?_)
    · simp [Conn.news, Event.lifeless]
    · rw [(recv stream).1]
      exact ⟨rfl, rfl, id⟩
  | _ =>
    refine valid.quiet log ?_ ?_
    · simp [Conn.news, Event.lifeless]
    · simp [List.modify_modify_eq, Stream.endBody, Stream.dropBody]

theorem Live.life {conn : Conn} (live : Live conn) : LifeValid conn := by
  refine live.induction ?_ ?_
  · intro conn initial
    constructor
    · intro before event begins
      rw [initial.log] at begins
      simp at begins
    · simp [initial.log]
  · intro conn conn' live valid step
    exact step.life live.table valid

/-! ## Runs of an engine -/

/-- The stream of a callback which hands a message to the application. -/
def Callback.messageStream? : Callback → Option Int
  | .data streamId _ => some streamId
  | entered => entered.headerStream?

/-- An event which closes a stream. -/
def Event.closes : Event → Bool
  | .closed streamId _ => streamId = id
  | _ => false

/--
What the order of callbacks rests on: a header block which is not ignored is
complete while its stream is open, and a callback in a header block, its end
apart, which returns zero has left the stream open.
-/
def Event.Considerate (before : List Event) : Event → Prop
  | .blockComplete _ isOpen ignored => isOpen = true ∨ ignored = true
  | .returned entered result =>
    result = 0 →
      ∀ id ∈ entered.blockStream?, ∀ event ∈ before, event.closes id = false
  | _ => True

instance decidableConsiderate (before : List Event) (event : Event) :
    Decidable (event.Considerate before) := by
  cases event with
  | blockComplete id isOpen ignored =>
    exact inferInstanceAs (Decidable (isOpen = true ∨ ignored = true))
  | returned entered result =>
    exact inferInstanceAs
      (Decidable
        (result = 0 →
          ∀ id ∈ entered.blockStream?, ∀ event ∈ before,
          event.closes id = false))
  | _ => exact inferInstanceAs (Decidable True)

theorem HeadersLive.unclosed {log : List Event} {id : Int}
    (headersLive : HeadersLive log id)
    (ordered : ∀ before event, before ++ [event] <+: log → event.Ordered before)
    (considerate : ∀ before event, before ++ [event] <+: log →
      event.Considerate before) :
    Unclosed log id := by
  rcases headersLive with ⟨before, isOpen, after, rfl, live⟩
  have begins : before ++ [.blockComplete id isOpen false] <+:
      before ++ .blockComplete id isOpen false :: after :=
    ⟨after, by simp⟩
  have wasOpen : isOpen = true := by
    simpa [Event.Considerate] using considerate before _ begins
  intro cause member
  simp only [List.mem_append, List.mem_cons, reduceCtorEq, false_or] at member
  rcases member with earlier | later
  · exact ordered before _ begins wasOpen cause earlier
  rcases live cause later with ⟨first, entered, second, rfl, ofBlock, closed⟩
  have returns : (before ++ .blockComplete id isOpen false :: first) ++
    [.returned entered 0] <+:
      before ++ .blockComplete id isOpen false ::
        (first ++ .returned entered 0 :: second) :=
    ⟨second, by simp⟩
  have kept := considerate _ _ returns rfl id ofBlock (.closed id cause)
    (by simp [closed])
  simp [Event.closes] at kept

/--
Callbacks of a stream are in order.  The application hears at most once that a
stream was closed, and nothing of a message behind that.
-/
theorem stream_callbacks_ordered {mode : Mode} {config : Config}
    {cbs : Callbacks} {engine : Engine}
    (reachable : Reachable mode config cbs engine)
    (considerate : ∀ before event, before ++ [event] <+: engine.world.log →
      event.Considerate before) :
    (∀ before id errorCode errorCode',
      before ++ [.callback (.streamClose id errorCode)] <+:
          engine.world.log →
        .callback (.streamClose id errorCode') ∉ before) ∧
    ∀ before entered id errorCode,
      before ++ [.callback entered] <+: engine.world.log →
        entered.messageStream? = some id →
        .callback (.streamClose id errorCode) ∉ before := by
  have valid := reachable.live.life
  constructor
  · intro before id errorCode errorCode' begins
    exact (valid.ordered before _ begins).2 errorCode'
  intro before entered id errorCode begins isMessage member
  have ordered := valid.ordered before _ begins
  have shorter : before <+: engine.world.log :=
    (List.prefix_append before _).trans begins
  -- What comes before a callback is ordered too.
  have earlier {first : List Event} {event : Event}
      (isFirst : first ++ [event] <+: before) : event.Ordered first :=
    valid.ordered first event (isFirst.trans shorter)
  have unclosed : Unclosed before id := by
    have ofBlock (live : HeadersLive before id) : Unclosed before id :=
      live.unclosed (fun _ _ => earlier) fun first event isFirst =>
        considerate first event (isFirst.trans shorter)
    cases entered with
    | data =>
      cases isMessage
      exact ordered
    | beginHeaders | header | endHeaders =>
      exact ofBlock (ordered id isMessage)
    | _ => cases isMessage
  rcases List.append_of_mem member with ⟨first, rest, rfl⟩
  have told : first ++ [.callback (.streamClose id errorCode)] <+: _ :=
    ⟨rest, List.append_assoc ..⟩
  rcases (earlier told).1 with ⟨cause, closed⟩
  exact unclosed cause (List.mem_append_left _ closed)

/-- A server which answers a request, so that the stream is closed. -/
def answeredRun : Engine := smallRun .server [] []
    [.recv
      (clientPreface ++ [0, 0, 0, 4, 0, 0, 0, 0, 0] ++
        [0, 0, 0, 1, 4, 0, 0, 0, 1] ++
        [0, 0, 1, 0, 1, 0, 0, 0, 1, 7]),
      .call (.submitResponseEx 1 [] (.flat [])),
      .call .send]

/-- The message comes first, and the end of the stream last. -/
theorem stream_callbacks_ordered_answered :
    .callback (.data 1 [7]) ∈ answeredRun.world.log ∧
    .callback (.streamClose 1 0) ∈ answeredRun.world.log ∧
    ∀ before id errorCode errorCode',
      before ++ [.callback (.streamClose id errorCode)] <+:
          answeredRun.world.log →
        .callback (.streamClose id errorCode') ∉ before := by
  refine ⟨by decide, by decide, ?_⟩
  exact (stream_callbacks_ordered (smallRun_reachable _ _ _ _) (by decide)).1

/-- A server which is terminated between HEADERS and CONTINUATION. -/
def interruptedRun : Engine := smallRun .server [] []
    [.recv (clientPreface ++ [0, 0, 0, 4, 0, 0, 0, 0, 0] ++
      [0, 0, 0, 1, 0, 0, 0, 0, 1]),
      .call (.terminate 0),
      .recv [0, 0, 0, 9, 4, 0, 0, 0, 1]]

/-- A server which resets a stream in `on_begin_headers` and returns zero. -/
def resettingRun : Engine := smallRun .server
    [{ calls := [], result := 0 },
      { calls := [.submitRstStream 1 8], result := 0 }]
    []
    [.recv (clientPreface ++ [0, 0, 0, 4, 0, 0, 0, 0, 0] ++
      [0, 0, 0, 1, 4, 0, 0, 0, 1])]

/-- Both are told of a message behind the end of its stream. -/
theorem stream_callbacks_after_close :
    (Reachable .server Config.small Callbacks.all interruptedRun ∧ ∃ before,
        .callback (.streamClose 1 0) ∈ before ∧
          before ++ [.callback (.beginHeaders 1)] <+:
            interruptedRun.world.log) ∧
    Reachable .server Config.small Callbacks.all resettingRun ∧ ∃ before,
        .callback (.streamClose 1 8) ∈ before ∧
          before ++ [.callback (.endHeaders 1 false)] <+:
            resettingRun.world.log := by
  refine ⟨⟨smallRun_reachable _ _ _ _, interruptedRun.world.log.take 15, ?_⟩,
    smallRun_reachable _ _ _ _, resettingRun.world.log.take 17, ?_⟩
  · decide
  · decide

/-! ## Frames of messages -/

theorem HeaderFrames.streamId_eq {id : Int} {endStream : Bool}
    {events : List Event}
    (frames : HeaderFrames id endStream events) {frame : Frame}
    (member : .frame frame ∈ events) :
    frame.streamId = id := by
  rcases frames with ⟨flags, payload, rest, rfl, -, continuation⟩
  rcases List.mem_cons.mp member with first | member
  · cases first
    rfl
  · rcases continuation _ member with ⟨flags, payload, ⟨⟩⟩
    rfl

/-- A step queues frames of a message on an open stream, and closes none in the
same breath. -/
theorem Step.message_frame {conn conn' : Conn} (step : Step conn conn')
    {frame : Frame}
    (queued : .frame frame ∈ conn.news conn')
    (ofMessage : frame.type = .data ∨ frame.type = .headers) :
    conn.IsOpen frame.streamId ∧ ∀ id, Unclosed (conn.news conn') id := by
  cases step with
  | note neutral =>
    simp [Conn.news] at queued
    subst queued
    simp [Event.neutral] at neutral
    tauto
  | message isOpen frames
  | headersOnly isOpen frames
  | trailersSent isOpen frames =>
    simp [Conn.news] at queued
    exact ⟨⟨_, _, isOpen, (frames.streamId_eq queued).symm⟩,
      by simp [Unclosed, Conn.news, frames.not_mem]⟩
  | blockBroken isOpen frames =>
    simp [Conn.news] at queued
    rcases frames with rfl | frames
    · cases queued
    · exact ⟨⟨_, _, isOpen, (frames.streamId_eq queued).symm⟩,
        by simp [Unclosed, Conn.news, frames.not_mem]⟩
  | emitEmpty isOpen
  | emitChunk isOpen
  | emitLast isOpen
  | emitFinal isOpen
  | pullData isOpen
  | pullEnd isOpen =>
    simp [Conn.news, dataFrame] at queued
    subst queued
    exact ⟨⟨_, _, isOpen, rfl⟩, by simp [Unclosed, Conn.news]⟩
  | emitTrailers isOpen _ _ sameId =>
    simp [Conn.news] at queued
    subst queued
    exact ⟨⟨_, _, isOpen, sameId.symm⟩, by simp [Unclosed, Conn.news]⟩
  | pullError =>
    simp [Conn.news] at queued
    subst queued
    simp at ofMessage
  | _ => simp [Conn.news] at queued

/-- The frames of messages are behind the event which opened their stream, and
in front of the one which closed it. -/
def InLifetime (log : List Event) : Prop :=
  ∀ before frame, before ++ [.frame frame] <+: log →
  frame.type = .data ∨ frame.type = .headers →
    .opened frame.streamId ∈ before ∧ Unclosed before frame.streamId

/-- Messages are sent on open streams only. -/
theorem message_frames_in_lifetime {mode : Mode} {config : Config}
    {cbs : Callbacks}
    {engine : Engine} (reachable : Reachable mode config cbs engine) :
    InLifetime engine.world.log := by
  refine @Live.induction (fun conn => InLifetime conn.log) ?_ ?_ _
    reachable.live
  · intro conn initial before frame begins
    simp [initial.log] at begins
  intro conn conn' live valid step before frame begins ofMessage
  rw [step.log_news] at begins
  rcases concat_prefix_append_iff.mp begins with old | ⟨between, rfl, new⟩
  · exact valid before frame old ofMessage
  obtain ⟨⟨slot, stream, isOpen, sameId⟩, unclosed⟩ :=
    step.message_frame (new.subset List.mem_concat_self) ofMessage
  rw [← sameId]
  have opened := live.table.opened _
    (List.mem_map_of_mem (List.mem_of_getElem? isOpen.1))
  refine ⟨List.mem_append_left _ opened, fun cause closed => ?_⟩
  rcases List.mem_append.mp closed with old | now
  · exact live.life.unclosed isOpen cause old
  · exact unclosed _ cause (new.subset (List.mem_append_left _ now))

/-- So is the answer of the server. -/
theorem message_frames_in_lifetime_answered :
    .frame ⟨.headers, 5, 1, [32]⟩ ∈ answeredRun.world.log ∧
      InLifetime answeredRun.world.log :=
  ⟨by decide, message_frames_in_lifetime (smallRun_reachable _ _ _ _)⟩

end Chttp.H2
