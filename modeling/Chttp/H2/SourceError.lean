import Chttp.H2.Lifecycle

/-!
# Sources which fail

A source which reports an error is answered by RST_STREAM, which takes
thirteen octets of the output.  The engine makes sure of ten when it asks a
source, so that the reset may not fit.
-/

namespace Chttp.H2

open Lib Hpack

/-- The frame which resets a stream. -/
def rstFrame (id : Int) (errorCode : Nat) : Frame where
  type := .rstStream
  flags := 0
  streamId := id
  payload := frameRstEncode errorCode

/-- A source has failed while there was room for a reset. -/
def Event.fails : Event → Bool
  | .pulled _ pull _ room => pull.status = .error ∧ 13 ≤ room
  | _ => false

/-- The stream is reset behind an event, and the application hears of it. -/
def Answered (cbs : Callbacks) (log before : List Event) (event : Event)
    (id : Int) : Prop :=
  ∃ errorCode rest, log = before ++
          ([event, .frame (rstFrame id errorCode), .closed id .localReset] ++
            rest) ∧
      (cbs.onStreamClose = true →
        .callback (.streamClose id errorCode) ∈ rest)

/-- Every source which fails with room for a reset is answered. -/
def FailuresAnswered (conn : Conn) : Prop := ∀ before id pull limit room,
    before ++ [.pulled id pull limit room] <+: conn.log → pull.status = .error →
      13 ≤ room →
      Answered conn.cbs conn.log before (.pulled id pull limit room) id

/-- What is answered stays answered. -/
theorem Answered.append {cbs : Callbacks} {log before : List Event}
    {event : Event} {id : Int} (answered : Answered cbs log before event id)
    (more : List Event) : Answered cbs (log ++ more) before event id := by
  rcases answered with ⟨errorCode, rest, rfl, told⟩
  refine ⟨errorCode, rest ++ more, ?_, ?_⟩
  · simp only [List.append_assoc]
  · exact fun installed => List.mem_append_left _ (told installed)

/-- Events which are no failure leave every failure answered. -/
theorem FailuresAnswered.append {conn conn' : Conn} {events : List Event}
    (answered : FailuresAnswered conn) (sameCbs : conn'.cbs = conn.cbs)
    (log : conn'.log = conn.log ++ events)
    (sound : ∀ event ∈ events, event.fails = false) :
    FailuresAnswered conn' := by
  intro before id pull limit room begins isError roomy
  rw [log] at begins ⊢
  rw [sameCbs]
  rcases concat_prefix_append_iff.mp begins with old | ⟨between, rfl, new⟩
  · exact (answered before id pull limit room old isError roomy).append events
  · have fails := sound _ (new.subset List.mem_concat_self)
    simp [Event.fails, isError, roomy] at fails

/-- A failure with its reset behind it is answered. -/
theorem FailuresAnswered.failure {conn conn' : Conn} {id : Int} {pull : Pull}
    {limit room errorCode : Nat} {rest : List Event}
    (answered : FailuresAnswered conn)
    (sameCbs : conn'.cbs = conn.cbs)
    (log : conn'.log = conn.log ++
        ([.pulled id pull limit room, .frame (rstFrame id errorCode),
          .closed id .localReset] ++ rest))
    (told : conn.cbs.onStreamClose = true →
      .callback (.streamClose id errorCode) ∈ rest)
    (sound : ∀ event ∈ rest, event.fails = false) : FailuresAnswered conn' := by
  intro before id' pull' limit' room' begins isError roomy
  rw [log] at begins ⊢
  rw [sameCbs]
  rcases concat_prefix_append_iff.mp begins with old | ⟨between, rfl, new⟩
  · exact (answered before id' pull' limit' room' old isError roomy).append _
  cases between with
  | nil =>
    -- The failure is the one of this step.
    rw [List.nil_append, List.cons_append, List.cons_prefix_cons] at new
    cases new.1
    rw [List.append_nil]
    exact ⟨errorCode, rest, rfl, told⟩
  | cons first between =>
    have fails :
        ∀ event ∈ [.frame (rstFrame id errorCode),
          .closed id .localReset] ++ rest, event.fails = false := by
      simpa [Event.fails] using sound
    rw [List.cons_append, List.cons_append, List.cons_prefix_cons] at new
    have here := fails _ (new.2.subset List.mem_concat_self)
    simp [Event.fails, isError, roomy] at here

theorem Event.fails_of_neutral {event : Event}
    (neutral : event.neutral = true) : event.fails = false := by
  cases event with
  | pulled => cases neutral
  | _ => rfl

/-- Frames of a header block are no failure. -/
theorem HeaderFrames.sound {id : Int} {endStream : Bool} {events : List Event}
    (frames : HeaderFrames id endStream events) :
    ∀ event ∈ events, event.fails = false := by
  intro event member
  rcases frames.frame_of_mem member with ⟨frame, rfl⟩
  rfl

/-- A step leaves every failure answered. -/
theorem Step.failuresAnswered {conn conn' : Conn} (step : Step conn conn')
    (answered : FailuresAnswered conn) : FailuresAnswered conn' := by
  have log := step.log_news
  have sameCbs := step.constant.2.1
  cases step with
  | @pullError _ limit room errorCode stream _ pull =>
    refine @FailuresAnswered.failure _ _ stream.id pull limit room errorCode
      (conn.recorded stream.id ++ conn.told stream.id errorCode) answered
      sameCbs ?_ ?_ ?_
    · simp only [Conn.enter_log, Conn.recordReset_log, Conn.note_log,
        Conn.updateStream_log, List.append_assoc]
      rfl
    · intro installed
      simp [Conn.told, Callbacks.has, installed]
    intro event member
    rcases List.mem_append.mp member with recorded | told
    · rw [Conn.recorded] at recorded
      split at recorded
      · cases recorded
      · rw [List.mem_singleton.mp recorded]
        rfl
    rw [Conn.told] at told
    split at told
    · rw [List.mem_singleton.mp told]
      rfl
    · cases told
  | note neutral =>
    refine answered.append sameCbs log ?_
    simp [Conn.news, Event.fails_of_neutral neutral]
  | message _ frames
  | headersOnly _ frames
  | trailersSent _ frames =>
    refine answered.append sameCbs log ?_
    simpa [Conn.news, or_imp, forall_and, Event.fails] using frames.sound
  | blockBroken _ frames =>
    refine answered.append sameCbs log ?_
    rcases frames with rfl | frames
    · simp [Conn.news, Event.fails]
    · simpa [Conn.news, or_imp, forall_and, Event.fails] using frames.sound
  | pullBroken _ narrow _ =>
    refine answered.append sameCbs log ?_
    simpa [Conn.news, Event.fails] using narrow
  | close | closeReset | drop | delivered =>
    refine answered.append sameCbs log ?_
    simp +contextual [Conn.news, or_imp, Event.fails]
  | _ =>
    refine answered.append sameCbs log ?_
    simp [Conn.news, Event.fails, *]

theorem Live.failuresAnswered {conn : Conn} (live : Live conn) :
    FailuresAnswered conn := by
  refine live.induction ?_ ?_
  · intro conn initial before id pull limit room begins
    rw [initial.log] at begins
    simp at begins
  · intro conn conn' _ answered step
    exact step.failuresAnswered answered

/-! ## Runs of an engine -/

/--
A source which fails ends its stream.  If at least thirteen octets of output
were left when the source was asked, RST_STREAM was queued at once, the stream
was closed and the application told.
-/
theorem source_error_resets {mode : Mode} {config : Config} {cbs : Callbacks}
    {engine : Engine}
    (reachable : Reachable mode config cbs engine) {before : List Event}
    {id : Int} {pull : Pull}
    {limit room : Nat}
    (pulled : before ++ [.pulled id pull limit room] <+: engine.world.log)
    (isError : pull.status = .error) (roomy : 13 ≤ room) :
    Answered cbs engine.world.log before (.pulled id pull limit room) id ∧
      ∀ stream ∈ engine.world.proto.streams, stream.id = id →
        stream.closed = true := by
  have answered : Answered engine.world.conn.cbs engine.world.log before
      (.pulled id pull limit room) id :=
    reachable.live.failuresAnswered before id pull limit room pulled isError
      roomy
  rw [show engine.world.conn.cbs = cbs from reachable.constant.2.1] at answered
  refine ⟨answered, ?_⟩
  rcases answered with ⟨errorCode, rest, split, -⟩
  have closed : .closed id .localReset ∈ engine.world.conn.log := by
    rw [show engine.world.conn.log = _ from split]
    simp
  exact (reachable.live.life.closed id _ closed).2

/-- A client whose source fails at once. -/
def failingRun : Engine :=
  smallRun .client [] [{ status := .error, octets := [] }]
    [.call (.submitRequestEx [] .source 0 0 false), .call .send]

/-- The stream is reset. -/
theorem source_error_resets_failing : failingRun.world.log.take 6 ++
        [.pulled 1 { status := .error, octets := [] } 16380 16389] <+:
      failingRun.world.log ∧
    ∀ stream ∈ failingRun.world.proto.streams, stream.id = 1 →
      stream.closed = true := by
  have pulled : failingRun.world.log.take 6 ++
        [.pulled 1 { status := .error, octets := [] } 16380 16389] <+:
      failingRun.world.log := by
    decide
  exact ⟨pulled,
    (source_error_resets (smallRun_reachable _ _ _ _) pulled rfl (by decide)).2⟩

/-- RST_STREAM of a stream. -/
def Event.resets (id : Int) : Event → Bool
  | .frame queued => queued.type = .rstStream ∧ queued.streamId = id
  | _ => false

/--
A client whose first request takes all of the output but twelve octets, when
the source of the second request fails.
-/
def crowdedRun : Engine :=
  smallRun .client [] [{ status := .error, octets := [] }]
    [.call (.submitRequestEx [] (.flat (List.replicate 16359 0)) 0 0 false),
      .call (.submitRequestEx [] .source 0 0 false),
      .call .send]

/--
The second stream stays open with neither a source nor a body, and neither
END_STREAM nor RST_STREAM was queued for it; the engine has not failed.
-/
theorem source_error_lost :
    Reachable .client Config.small Callbacks.all crowdedRun ∧
    .pulled 3 { status := .error, octets := [] } 3 12 ∈
      crowdedRun.world.log ∧
    crowdedRun.world.proto.failed = false ∧
    (∃ stream ∈ crowdedRun.world.proto.streams,
      stream.id = 3 ∧ stream.closed = false ∧ stream.source = false ∧
        stream.body = none ∧ stream.endStreamSent = false) ∧
    ∀ event ∈ crowdedRun.world.log, event.resets 3 = false := by
  refine ⟨smallRun_reachable _ _ _ _, ?_⟩
  decide +kernel

end Chttp.H2
