import Chttp.Server.Deferred.Slot

/-!
# Stage deadlines and responses

A request record has one deadline, which every stage arms anew: receiving the
head, receiving the body, running the handler.  When it passes, an HTTP/1.1
connection is closed and an HTTP/2 stream is reset; a deadline of its own closes
an HTTP/2 connection whose input stays incomplete.  What the parser reports, the
application and the clock are the environment: a report carries its time.
-/

namespace Chttp.Server

/-- `chttp_server_deadlines`. -/
structure Budgets where
  headersMs : Nat
  bodyMs : Nat
  handlerMs : Nat

/-- `chttp_server_deadline_expired`. -/
def deadlinePassed (deadline now : Nat) : Bool :=
  deadline != 0 && deadline ≤ now

/-- What a handler makes of a request.  One which fails is answered with an
error and without keep-alive on HTTP/1.1, and its stream ends on HTTP/2. -/
inductive Handled where
  | replied (keepAlive : Bool)
  | deferred

/-- How the input goes on. -/
inductive ParserVerdict where
  | next
  | stop
  | timedOut
  deriving DecidableEq

/-! ## A request record -/

/-- What the stages see of a request record and of its connection or stream. -/
structure Stages where
  deadline : Nat
  deferred : DeferredState
  /-- A response is produced and not all of it is handed to the transport. -/
  transferring : Bool
  closed : Bool
  /-- A stage deadline has ended the transfer of a response. -/
  cut : Bool

variable (budgets : Budgets) (stages : Stages)

namespace Stages

/-- No request. -/
def fresh : Stages := ⟨0, .idle, false, false, false⟩

/-- A response is under way. -/
def inFlight : Bool := stages.transferring && !stages.closed

/-- A stage deadline closes the connection or resets the stream. -/
def expire : Stages :=
  { stages with
    deadline := 0, closed := true, cut := stages.cut || stages.inFlight }

/-- `chttp_server_dispatch_request` behind its first look at the deadline. -/
def dispatch (start finish : Nat) : Handled → Stages × ParserVerdict
  | .deferred =>
    ({ stages with
       deadline := deadlineStart start budgets.handlerMs,
       deferred := .pending }, .stop)
  | .replied _ =>
    if deadlinePassed (deadlineStart start budgets.handlerMs) finish then
      ({ stages with deadline := 0 }, .timedOut)
    else
      ({ stages with deadline := 0, transferring := true }, .next)

/-- `chttp_server_deadlines_progress` and
`chttp_h2_server_connection_deadlines`: a response which nobody writes is
canceled. -/
def progress (now : Nat) (stages : Stages) : Stages :=
  if stages.closed || !deadlinePassed stages.deadline now then
    stages
  else if stages.deferred = .pending then
    { stages with deadline := 0, deferred := .canceled }
  else if stages.deferred ≠ .idle then
    { stages with deadline := 0 }
  else
    stages.expire

/-- A worker moves the token of a deferred response. -/
def worker (next : DeferredState) (stages : Stages) : Stages :=
  if (stages.deferred = .pending ∨ stages.deferred = .writing) ∧
    next ≠ .idle then
    { stages with deferred := next }
  else
    stages

/-- `chttp_server_deferred_progress` and
`chttp_h2_server_connection_deferred_progress`. -/
def publish : Stages :=
  match stages.deferred with
  | .canceled => { stages.expire with deferred := .idle }
  | .ready =>
    { stages with deadline := 0, deferred := .idle, transferring := true }
  | _ => stages

/-- No deadline runs while a response is under way. -/
structure Spared (stages : Stages) : Prop where
  uncut : stages.cut = false
  disarmed : stages.inFlight = true → stages.deadline = 0 ∧
    stages.deferred = .idle

variable {stages : Stages} {now : Nat}

theorem Spared.of_rest (uncut : stages.cut = false)
    (rest : stages.inFlight = false) :
    Spared stages :=
  ⟨uncut, fun busy => absurd busy (Bool.eq_false_iff.mp rest)⟩

theorem inFlight_of_not_transferring (quiet : stages.transferring = false) :
    stages.inFlight = false := by
  rw [inFlight, quiet, Bool.false_and]

section

variable (spared : Spared stages)

include spared

theorem Spared.expire (rest : stages.inFlight = false) :
    Spared stages.expire := by
  refine .of_rest ?_ (Bool.and_false _)
  change (stages.cut || stages.inFlight) = false
  rw [spared.uncut, rest]
  rfl

/-- A deadline which has passed finds no response under way. -/
theorem Spared.rest (passed : deadlinePassed stages.deadline now = true) :
    stages.inFlight = false :=
  Bool.eq_false_of_not_eq_true fun busy => by
    rw [(spared.disarmed busy).1] at passed
    cases passed

theorem Spared.undeferred (deferred : stages.deferred ≠ .idle) :
    stages.inFlight = false :=
  Bool.eq_false_of_not_eq_true fun busy => deferred (spared.disarmed busy).2

/-- Progress starts no deadline during a response. -/
theorem Spared.progress (now : Nat) : Spared (stages.progress now) := by
  unfold Stages.progress
  split_ifs with early pending deferred
  · exact spared
  · exact .of_rest spared.uncut (spared.undeferred (by rw [pending]; nofun))
  · exact .of_rest spared.uncut (spared.undeferred deferred)
  · simp only [Bool.or_eq_true, Bool.not_eq_true', not_or,
      Bool.not_eq_false] at early
    exact spared.expire (spared.rest early.2)

theorem Spared.worker (next : DeferredState) : Spared (stages.worker next) := by
  unfold Stages.worker
  split
  · rename_i moves
    refine .of_rest spared.uncut (spared.undeferred fun idle => ?_)
    rw [idle] at moves
    rcases moves.1 with moved | moved <;> cases moved
  · exact spared

theorem Spared.publish : Spared stages.publish := by
  unfold Stages.publish
  split
  · rename_i canceled
    have ended := spared.expire (spared.undeferred (by rw [canceled]; nofun))
    exact .of_rest ended.uncut (Bool.and_false _)
  · exact ⟨spared.uncut, fun _ => ⟨rfl, rfl⟩⟩
  · exact spared

end

/-- What a handler leaves behind: nothing is under way if it came too late. -/
theorem dispatch_spared (uncut : stages.cut = false)
    (quiet : stages.transferring = false)
    (idle : stages.deferred = .idle) (budgets : Budgets) (start finish : Nat)
    (result : Handled) :
    Spared (stages.dispatch budgets start finish result).1 ∧
      ((stages.dispatch budgets start finish result).2 = .timedOut →
        (stages.dispatch budgets start finish result).1.inFlight = false) := by
  have rest := inFlight_of_not_transferring quiet
  cases result with
  | deferred => exact ⟨.of_rest uncut rest, nofun⟩
  | replied keepAlive =>
    unfold Stages.dispatch
    dsimp only
    split
    · exact ⟨.of_rest uncut rest, fun _ => rest⟩
    · exact ⟨⟨uncut, fun _ => ⟨rfl, idle⟩⟩, nofun⟩

end Stages

/-! ## HTTP/1.1 -/

/-- An HTTP/1.1 connection. -/
structure H1Stages extends Stages where
  admissionComplete : Bool
  closeAfterWrite : Bool

/-- What the parser reports of a request, and what the server makes of it. -/
inductive H1Report where
  | begins (now : Nat)
  | heads (now : Nat) (admitted : Bool)
  | body (now : Nat)
  | completes (start finish : Nat) (result : Handled)

/-- What happens to an HTTP/1.1 connection. -/
inductive H1Event where
  /-- `chttp_server_on_receive`. -/
  | receive (now : Nat) (reports : List H1Report)
  | progress (now : Nat)
  | worker (next : DeferredState)
  | publish (keepAlive : Bool)
  /-- `chttp_server_on_send`, which goes on with the input it has kept. -/
  | sent (reports : List H1Report)

namespace H1Stages

variable (state : H1Stages)

/-- `chttp_server_on_message_begin`. -/
def begin (now : Nat) : H1Stages :=
  if state.deadline = 0 then
    { state with deadline := deadlineStart now budgets.headersMs }
  else
    state

/-- `chttp_server_on_message_begin`, `chttp_server_on_headers`, the callbacks of
a streamed body and `chttp_server_on_request`. -/
def report : H1Report → H1Stages × ParserVerdict
  | .begins now => (state.begin budgets now, .next)
  | .heads now admitted =>
    if deadlinePassed state.deadline now then
      (state, .timedOut)
    else if admitted then
      ({ state with
         deadline := deadlineStart now budgets.bodyMs,
         admissionComplete := true },
        .next)
    else
      ({ state with
        deadline := 0, admissionComplete := true, transferring :=
          true, closeAfterWrite := true },
        .stop)
  | .body now =>
    (state, if deadlinePassed state.deadline now then .timedOut else .next)
  | .completes start finish result =>
    if state.closeAfterWrite then
      (state, .stop)
    else if deadlinePassed state.deadline start then
      (state, .timedOut)
    else
      let (stages, verdict) :=
        state.toStages.dispatch budgets start finish result
      (⟨stages, state.admissionComplete,
        match result with
        | .replied keepAlive => !keepAlive
        | .deferred => false⟩, verdict)

/-- The reports of some input, up to a request which ends it; a deadline closes
the connection. -/
def input (budgets : Budgets) : H1Stages → List H1Report → H1Stages
  | state, [] => state
  | state, report :: rest =>
    match state.report budgets report with
    | (state, .next) => input budgets state rest
    | (state, .stop) => state
    | (state, .timedOut) => { state with toStages := state.expire }

/-- One event.  The parser is paused while a response is deferred. -/
def step : H1Event → H1Stages
  | .receive now reports =>
    if state.closed || state.closeAfterWrite then
      state
    else if state.transferring then
      { state with closed := true }
    else if deadlinePassed state.deadline now then
      { state with toStages := state.expire }
    else if state.deferred ≠ .idle then
      state
    else if state.admissionComplete then
      state.input budgets reports
    else
      (state.begin budgets now).input budgets reports
  | .progress now =>
    if state.closeAfterWrite then state
    else { state with toStages := state.toStages.progress now }
  | .worker next => { state with toStages := state.toStages.worker next }
  | .publish keepAlive =>
    ⟨state.toStages.publish, state.admissionComplete,
      state.closeAfterWrite || state.deferred == .ready && !keepAlive⟩
  | .sent reports =>
    if state.deferred ≠ .idle then
      state
    else if state.closeAfterWrite then
      { state with transferring := false, closed := true }
    else
      { state with transferring := false }.input budgets reports

/-- A run of a connection. -/
def run (events : List H1Event) : H1Stages :=
  events.foldl (step budgets) ⟨.fresh, false, false⟩

end H1Stages

/-- A budget which began at a time has not run out. -/
def InTime (start budget now : Nat) : Prop :=
  budget = 0 ∨ now < start + budget ∧ now < 2 ^ 64 - 1
  deriving Decidable

theorem InTime.not_passed {start budget now : Nat}
    (inTime : InTime start budget now) :
    deadlinePassed (deadlineStart start budget) now = false := by
  unfold deadlinePassed deadlineStart
  rcases inTime with rfl | ⟨early, small⟩
  · rfl
  · split_ifs
    · rfl
    · rw [Bool.and_eq_false_iff]
      right
      rw [decide_eq_false_iff_not]
      omega

/-- What may stand behind a response which is under way: requests which are
complete and in time, one which is rejected, or the beginning of one while the
stage it is in has no budget. -/
inductive H1Report.Behind (budgets : Budgets) : List H1Report → Prop where
  | nil : Behind budgets []
  | begun {begun : Nat} (unlimited : budgets.headersMs = 0) :
      Behind budgets [.begins begun]
  | headed {begun headed : Nat} {bodies : List Nat}
      (head : InTime begun budgets.headersMs headed)
      (unlimited : budgets.bodyMs = 0) :
      Behind budgets (.begins begun :: .heads headed true :: bodies.map .body)
  | rejected {begun headed : Nat} {rest : List H1Report}
      (head : InTime begun budgets.headersMs headed) :
      Behind budgets (.begins begun :: .heads headed false :: rest)
  | request {begun headed start finish : Nat} {bodies : List Nat}
      {keepAlive : Bool} {rest : List H1Report}
      (head : InTime begun budgets.headersMs headed)
      (body : ∀ now ∈ bodies ++ [start], InTime headed budgets.bodyMs now)
      (handler : InTime start budgets.handlerMs finish)
      (last : keepAlive = false → rest = []) (others : Behind budgets rest) :
      Behind budgets (.begins begun :: .heads headed true ::
        (bodies.map .body ++ .completes start finish (.replied keepAlive) ::
          rest))

/-- Nothing of a following request which may be late is behind a response. -/
def H1Report.Single (budgets : Budgets) : List H1Report → Prop
  | [] => True
  | .completes _ _ (.replied keepAlive) :: rest =>
    (keepAlive = false → rest = []) ∧ Behind budgets rest
  | .heads _ false :: _ => True
  | _ :: rest => Single budgets rest

/-- No input holds anything of a request which may be late behind one which it
completes. -/
def H1Event.Single (budgets : Budgets) : H1Event → Prop
  | .receive _ reports => H1Report.Single budgets reports
  | .sent reports => H1Report.Single budgets reports
  | _ => True

namespace H1Stages

variable {state : H1Stages}

/-- No response is under way. -/
structure Resting (state : H1Stages) : Prop where
  uncut : state.cut = false
  quiet : state.transferring = false
  idle : state.deferred = .idle

theorem Resting.spared (resting : Resting state) : state.toStages.Spared :=
  .of_rest resting.uncut (Stages.inFlight_of_not_transferring resting.quiet)

/-- A connection which begins is at rest. -/
theorem Resting.begin (resting : Resting state) (budgets : Budgets)
    (now : Nat) :
    Resting (state.begin budgets now) := by
  unfold H1Stages.begin
  split
  · exact ⟨resting.uncut, resting.quiet, resting.idle⟩
  · exact resting

/-- A response is under way, and the connection stays open for others. -/
structure Answered (state : H1Stages) : Prop where
  uncut : state.cut = false
  idle : state.deferred = .idle
  disarmed : state.deadline = 0
  open_ : state.closeAfterWrite = false

theorem Answered.spared (answered : Answered state) : state.toStages.Spared :=
  ⟨answered.uncut, fun _ => ⟨answered.disarmed, answered.idle⟩⟩

variable {budgets : Budgets}

/-- Pieces of a body which are in time change nothing. -/
theorem input_bodies {bodies : List Nat}
    (early : ∀ now ∈ bodies, deadlinePassed state.deadline now = false)
    (rest : List H1Report) :
    state.input budgets (bodies.map .body ++ rest) =
      state.input budgets rest := by
  induction bodies with
  | nil => rfl
  | cons now bodies further =>
    obtain ⟨first, others⟩ := List.forall_mem_cons.mp early
    rw [List.map_cons, List.cons_append, H1Stages.input, H1Stages.report]
    simp only [first, Bool.false_eq_true, if_false]
    exact further others

/-- The head of a request begins behind a response. -/
theorem Answered.input_head (answered : Answered state) {begun headed : Nat}
    (head : InTime begun budgets.headersMs headed) (admitted : Bool)
    (rest : List H1Report) :
    state.input budgets (.begins begun :: .heads headed admitted :: rest) =
      if admitted then
        { state with
          deadline := deadlineStart headed budgets.bodyMs
          admissionComplete := true }.input budgets rest
      else
        { state with
          deadline := 0
          admissionComplete := true
          transferring := true
          closeAfterWrite := true } := by
  rw [H1Stages.input, H1Stages.report, H1Stages.begin, if_pos answered.disarmed]
  dsimp only
  rw [H1Stages.input, H1Stages.report]
  dsimp only
  rw [if_neg (by rw [head.not_passed]; exact Bool.false_ne_true)]
  cases admitted <;> rfl

/-- Input behind an answer starts no deadline. -/
theorem Answered.input {reports : List H1Report} (answered : Answered state)
    (behind : H1Report.Behind budgets reports) :
    (state.input budgets reports).toStages.Spared := by
  induction behind generalizing state with
  | nil => exact answered.spared
  | begun unlimited =>
    refine ⟨?_, fun _ => ⟨?_, ?_⟩⟩ <;>
      simp [H1Stages.input, H1Stages.report, H1Stages.begin, answered.disarmed,
        answered.uncut, answered.idle, deadlineStart, unlimited]
  | @headed begun headed bodies head unlimited =>
    have none_ : deadlineStart headed budgets.bodyMs = 0 := if_pos unlimited
    rw [answered.input_head head, if_pos rfl, ← List.append_nil (bodies.map _),
      input_bodies (by rw [none_]; exact fun _ _ => rfl)]
    exact ⟨answered.uncut, fun _ => ⟨none_, answered.idle⟩⟩
  | rejected head =>
    rw [answered.input_head head, if_neg Bool.false_ne_true]
    exact ⟨answered.uncut, fun _ => ⟨rfl, answered.idle⟩⟩
  | @request begun headed start finish bodies keepAlive rest head body handler
      last others further =>
    have early := body start (List.mem_append_right _ List.mem_cons_self)
    rw [answered.input_head head, if_pos rfl, input_bodies fun now member =>
      (body now (List.mem_append_left _ member)).not_passed, H1Stages.input,
      H1Stages.report]
    simp only [answered.open_, early.not_passed, Bool.false_eq_true, if_false,
      Stages.dispatch, handler.not_passed]
    cases keepAlive with
    | true => exact further ⟨answered.uncut, answered.idle, rfl, rfl⟩
    | false =>
      rw [last rfl]
      exact ⟨answered.uncut, fun _ => ⟨rfl, answered.idle⟩⟩

theorem Resting.expire (resting : Resting state) : state.expire.Spared :=
  resting.spared.expire (Stages.inFlight_of_not_transferring resting.quiet)

/-- A request which is answered in front of others which may follow. -/
theorem Resting.input_replied (resting : Resting state)
    {start finish : Nat} {keepAlive : Bool} {rest : List H1Report}
    (last : keepAlive = false → rest = [])
    (behind : H1Report.Behind budgets rest) :
    (state.input budgets
      (.completes start finish (.replied keepAlive) ::
        rest)).toStages.Spared := by
  rw [H1Stages.input, H1Stages.report]
  by_cases closing : state.closeAfterWrite = true
  · rw [if_pos closing]
    exact resting.spared
  rw [if_neg closing]
  by_cases passed : deadlinePassed state.deadline start = true
  · rw [if_pos passed]
    exact resting.expire
  rw [if_neg passed, Stages.dispatch]
  by_cases late : deadlinePassed (deadlineStart start budgets.handlerMs)
      finish = true
  · rw [if_pos late]
    exact @Resting.expire
      { state with deadline := 0, closeAfterWrite := !keepAlive }
      ⟨resting.uncut, resting.quiet, resting.idle⟩
  rw [if_neg late]
  cases keepAlive with
  | true =>
    exact Answered.input ⟨resting.uncut, resting.idle, rfl, rfl⟩ behind
  | false =>
    rw [last rfl]
    exact ⟨resting.uncut, fun _ => ⟨rfl, resting.idle⟩⟩

/-- Input of one request leaves its response without a deadline. -/
theorem Resting.input {reports : List H1Report} (resting : Resting state)
    (single : H1Report.Single budgets reports) :
    (state.input budgets reports).toStages.Spared := by
  induction reports generalizing state with
  | nil => exact resting.spared
  | cons report reports further =>
    match report with
    | .begins now => exact further (resting.begin budgets now) single
    | .heads now admitted =>
      rw [H1Stages.input, H1Stages.report]
      by_cases passed : deadlinePassed state.deadline now = true
      · rw [if_pos passed]
        exact resting.expire
      rw [if_neg passed]
      cases admitted with
      | true =>
        exact further ⟨resting.uncut, resting.quiet, resting.idle⟩ single
      | false => exact ⟨resting.uncut, fun _ => ⟨rfl, resting.idle⟩⟩
    | .body now =>
      rw [H1Stages.input, H1Stages.report]
      cases deadlinePassed state.deadline now with
      | true => exact resting.expire
      | false => exact further resting single
    | .completes start finish (.replied keepAlive) =>
      exact resting.input_replied single.1 single.2
    | .completes start finish .deferred =>
      rw [H1Stages.input, H1Stages.report]
      split_ifs
      · exact resting.spared
      · exact resting.expire
      · exact .of_rest resting.uncut
          (Stages.inFlight_of_not_transferring resting.quiet)

end H1Stages

/-! ## HTTP/2 -/

/-- What the engine reports of a stream. -/
inductive H2Report where
  | opens
  | heads (now : Nat) (admitted : Bool)
  | body (now : Nat)
  | completes (start finish : Nat) (result : Handled)
  | ends

/-- `chttp_h2_server_end_headers`, `chttp_h2_server_data` and
`chttp_h2_server_dispatch`.  A rejected request is answered with its deadline
armed. -/
def Stages.report : H2Report → Stages
  | .opens => if stages.closed then
      { Stages.fresh with cut := stages.cut } else stages
  | .ends => { stages with closed := true }
  | .heads now admitted =>
    -- A later header block holds trailers and starts no stage.
    if stages.transferring || stages.deferred != .idle then
      stages
    else
      { stages with
        deadline := deadlineStart now budgets.bodyMs,
        transferring := !admitted }
  | .body now =>
    if deadlinePassed stages.deadline now then stages.expire else stages
  | .completes start finish result =>
    if stages.deferred ≠ .idle then
      stages
    else if deadlinePassed stages.deadline start then
      stages.expire
    else if stages.transferring then
      { stages with closed := true }
    else
      match stages.dispatch budgets start finish result with
      | (stages, .timedOut) => stages.expire
      | (stages, _) => stages

/-- An HTTP/2 connection, with the deadline of its input. -/
structure H2Stages where
  deadline : Nat
  streams : List Stages
  closed : Bool
  /-- The deadline of the input has ended the transfer of a response. -/
  cut : Bool

/-- What happens to an HTTP/2 connection. -/
inductive H2Event where
  /-- `chttp_server_on_receive`: what the engine reports of the streams, whether
  the input is incomplete behind it, and whether a frame was completed. -/
  | receive (now : Nat) (reports : List (Nat × H2Report))
      (incomplete completed : Bool)
  | progress (now : Nat)
  | worker (slot : Nat) (next : DeferredState)
  | publish (slot : Nat)

namespace H2Stages

variable (state : H2Stages)

/-- Act on the stream in a slot. -/
def act (slot : Nat) (action : Stages → Stages) : H2Stages :=
  { state with streams := state.streams.modify slot action }

/-- The deadline of the input closes the connection. -/
def expire : H2Stages :=
  { state with
    deadline := 0, closed := true, cut :=
      state.cut || state.streams.any Stages.inFlight }

/-- One event. -/
def step : H2Event → H2Stages
  | .receive now reports incomplete completed =>
    if state.closed then
      state
    else if deadlinePassed state.deadline now then
      state.expire
    else
      { reports.foldl
        (fun state report => state.act report.1 (·.report budgets report.2))
          state with
        deadline :=
          if !incomplete then 0
          else if state.deadline = 0 ∨
            completed then deadlineStart now budgets.headersMs
          else state.deadline }
  | .progress now =>
    if state.closed then
      state
    else if deadlinePassed state.deadline now then
      { state with streams := state.streams.map (Stages.progress now) }.expire
    else
      { state with streams := state.streams.map (Stages.progress now) }
  | .worker slot next => state.act slot (Stages.worker next)
  | .publish slot => state.act slot Stages.publish

/-- A run of a connection with so many slots for streams. -/
def run (capacity : Nat) (events : List H2Event) : H2Stages :=
  events.foldl (step budgets)
    ⟨0, List.replicate capacity { Stages.fresh with closed := true }, false,
      false⟩

end H2Stages

/-- No request is rejected while bodies have a budget, and no input ends within
a frame or a header block while these have one. -/
def H2Event.Whole : H2Event → Prop
  | .receive _ reports incomplete _ =>
    (budgets.headersMs = 0 ∨ incomplete = false) ∧
      ∀ report ∈ reports, ∀ now, report.2 = .heads now false →
        budgets.bodyMs = 0
  | _ => True

/-- A report starts no deadline during a response. -/
theorem Stages.Spared.report {stages : Stages} (spared : stages.Spared)
    {budgets : Budgets}
    {report : H2Report}
    (admitted : ∀ now, report = .heads now false → budgets.bodyMs = 0) :
    (stages.report budgets report).Spared := by
  unfold Stages.report
  cases report with
  | opens =>
    dsimp only
    split
    · exact .of_rest spared.uncut rfl
    · exact spared
  | ends => exact .of_rest spared.uncut (Bool.and_false _)
  | heads now accepted =>
    dsimp only
    split
    · exact spared
    rename_i first
    cases accepted with
    | true => exact .of_rest spared.uncut rfl
    | false =>
      simp only [Bool.or_eq_true, bne_iff_ne, not_or, not_not] at first
      refine ⟨spared.uncut, fun _ => ⟨?_, first.2⟩⟩
      rw [deadlineStart, if_pos (admitted now rfl)]
  | body now =>
    dsimp only
    split
    · exact spared.expire (spared.rest (by assumption))
    · exact spared
  | completes start finish result =>
    dsimp only
    split_ifs with deferred passed submitted
    · exact spared
    · exact spared.expire (spared.rest passed)
    · exact .of_rest spared.uncut (Bool.and_false _)
    · obtain ⟨after, late⟩ :=
        dispatch_spared spared.uncut (Bool.eq_false_of_not_eq_true submitted)
        (not_not.mp deferred) budgets start finish result
      split
      · rename_i timedOut
        rw [timedOut] at after late
        exact after.expire (late rfl)
      · rename_i outcome
        rw [outcome] at after
        exact after

namespace H2Stages

variable {state : H2Stages}

/-- No deadline runs while a response is under way. -/
structure Spared (state : H2Stages) : Prop where
  uncut : state.cut = false
  disarmed : state.deadline = 0
  streams : ∀ stages ∈ state.streams, stages.Spared

/-- An action on one stream starts no deadline. -/
theorem Spared.act (spared : Spared state) (slot : Nat)
    {action : Stages → Stages}
    (keeps : ∀ stages : Stages, stages.Spared → (action stages).Spared) :
    Spared (state.act slot action) := by
  refine ⟨spared.uncut, spared.disarmed, fun stages member => ?_⟩
  obtain ⟨index, bound, rfl⟩ := List.mem_iff_getElem.mp member
  have kept := spared.streams _
    (List.getElem_mem (List.length_modify .. ▸ bound))
  simp only [H2Stages.act, List.getElem_modify]
  split
  · exact keeps _ kept
  · exact kept

/-- An event leaves no deadline running while a response is under way. -/
theorem Spared.step (spared : Spared state) {budgets : Budgets}
    {event : H2Event} (whole : event.Whole budgets) : Spared (state.step budgets event) := by
  have early : ∀ now, ¬deadlinePassed state.deadline now = true := by
    intro now passed
    rw [spared.disarmed] at passed
    cases passed
  cases event with
  | receive now reports incomplete completed =>
    unfold H2Stages.step
    dsimp only
    rw [if_neg (early now)]
    split
    · exact spared
    have after : Spared (reports.foldl
        (fun state report => state.act report.1 (·.report budgets report.2))
          state) :=
      List.foldlRecOn reports _ spared fun state spared report member =>
        spared.act report.1 fun stages kept => kept.report
          (whole.2 report member)
    refine ⟨after.uncut, ?_, after.streams⟩
    rcases whole.1 with unlimited | complete
    · simp only [deadlineStart, unlimited, spared.disarmed, if_true, true_or,
        ite_self]
    · rw [complete]
      rfl
  | progress now =>
    unfold H2Stages.step
    dsimp only
    rw [if_neg (early now)]
    split
    · exact spared
    refine ⟨spared.uncut, spared.disarmed, fun stages member => ?_⟩
    obtain ⟨before, there, rfl⟩ := List.mem_map.mp member
    exact (spared.streams before there).progress now
  | worker slot next =>
    exact spared.act slot fun stages kept => kept.worker next
  | publish slot => exact spared.act slot fun stages kept => kept.publish

end H2Stages

end Chttp.Server
