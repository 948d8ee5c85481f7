import Chttp.H2.Simulation.Receive

/-!
# Runs of an engine are runs of the transition system

The application's callbacks are faithful at every depth, so each operation on
an engine makes steps.  Every reachable engine has a live abstraction.
-/

namespace Chttp.H2

open Lib Hpack
open Engine

variable {hook : Hook}

/-! ## The application -/

variable {world : World} {engine : Engine} {mode : Mode} {config : Config}
  {cbs : Callbacks}
  {script : List Reply} {pulls : List Pull}

/-- A call of the application follows the connection. -/
theorem apiCall_moves (faithful : Faithful hook) (live : Live world.conn)
    (call : Call) :
    Moves world (apiCall hook world call) := by
  have plain (neutral : call.neutral = true)
      (moves : Moves world (perform hook world call).1) :
      Moves world (apiCall hook world call) :=
    moves.trans (called_moves _ neutral _)
  cases call with
  | setSendChunk chunk => exact plain rfl (Moves.of_conn_eq rfl rfl)
  | setLocalSettings =>
    exact plain rfl (setLocalSettings_moves world _ _ _ _ _ _)
  | setLocalEnableConnectProtocol enable =>
    exact plain rfl (Moves.of_conn_eq rfl rfl)
  | submitRequestEx headers body weight depStreamId exclusive =>
    exact plain rfl (submitRequestEx_moves live _ _ _ _ _)
  | submitRequestHeaders headers endStream =>
    exact plain rfl (submitRequestHeaders_moves live _ _)
  | submitHeaders streamId headers endStream =>
    exact plain rfl (submitHeaders_moves faithful live _ _ _)
  | submitResponseEx streamId headers body =>
    exact submitResponseEx_called faithful live streamId headers body
  | submitData streamId data endStream =>
    exact plain rfl (submitData_moves live _ _ _)
  | submitTrailers streamId headers =>
    exact submitTrailers_called faithful live streamId headers
  | submitSettings => exact submitSettings_called world
  | submitPing payload => exact plain rfl (submitPing_moves live _)
  | submitWindowUpdate streamId increment =>
    exact submitWindowUpdate_called live streamId increment
  | submitRstStream streamId errorCode =>
    exact plain rfl (submitRstStream_moves faithful live _ _)
  | submitGoaway lastStreamId errorCode =>
    exact plain rfl (submitGoaway_moves live _ _)
  | resumeSource streamId =>
    exact plain rfl (resumeSource_moves faithful live _)
  | send => exact plain rfl (send_moves faithful live)
  | consumeConnection bytes => exact consumeConnection_called live bytes
  | consumeStream streamId bytes =>
    exact consumeStream_called live streamId bytes
  | terminate errorCode =>
    exact plain rfl (terminate_moves faithful live _)

theorem foldl_apiCall_moves (faithful : Faithful hook) (calls : List Call)
    (live : Live world.conn) :
    Moves world (calls.foldl (apiCall hook) world) := by
  induction calls generalizing world with
  | nil => exact .refl world
  | cons call calls induction =>
    have first := apiCall_moves faithful live call
    exact first.trans (induction (first.live live))

theorem takeReply_spec (world : World) : (takeReply world).1.conn = world.conn ∧
    (takeReply world).1.proto = world.proto := by
  rw [takeReply]
  split <;> exact ⟨rfl, rfl⟩

theorem returned_of_moves {after : World} (moves : Moves world after)
    (event : Callback)
    (result : Int) :
    Moves world (after.note (.returned event result)) ∧ ∃ events,
        (after.note (.returned event result)).log =
          world.log ++ events ++ [.returned event result] := by
  constructor
  · exact moves.trans ⟨.single (@Step.note _ (.returned event result) rfl), rfl⟩
  rcases Steps.log moves.steps with ⟨events, equal⟩
  refine ⟨events, ?_⟩
  have grown : world.log ++ events = after.log := equal
  rw [grown]
  rfl

theorem application_faithful (depth : Nat) : Faithful (application depth) := by
  induction depth with
  | zero =>
    have both (event : Callback) (world : World) := returned_of_moves
        (Moves.of_conn_eq (takeReply_spec world).1
          (congrArg Proto.inHeadersStream (takeReply_spec world).2))
        event (takeReply world).2.result
    exact ⟨fun event world _ => (both event world).1,
      fun event world _ => (both event world).2⟩
  | succ depth induction =>
    have both (event : Callback) (world : World) (live : Live world.conn) := by
      have taken : Moves world (takeReply world).1 :=
        Moves.of_conn_eq (takeReply_spec world).1
          (congrArg Proto.inHeadersStream (takeReply_spec world).2)
      exact returned_of_moves
        (taken.trans
          (foldl_apiCall_moves induction (takeReply world).2.calls
            (taken.live live)))
        event (takeReply world).2.result
    exact ⟨fun event world live => (both event world live).1,
      fun event world live => (both event world live).2⟩

/-! ## What queueing output keeps -/

/-- The parts of an engine which queueing output leaves alone. -/
structure Unread (world world' : World) : Prop where
  mode : world'.proto.mode = world.proto.mode
  nextStreamId : world'.proto.nextStreamId = world.proto.nextStreamId
  seen : world'.proto.serverPrefaceSeen = world.proto.serverPrefaceSeen
  failed : world'.proto.failed = world.proto.failed

theorem Unread.refl (world : World) : Unread world world := ⟨rfl, rfl, rfl, rfl⟩

/-- Rounds which read nothing compose. -/
theorem Unread.trans {first second third : World} (left : Unread first second)
    (right : Unread second third) : Unread first third :=
  ⟨right.mode.trans left.mode, right.nextStreamId.trans left.nextStreamId,
    right.seen.trans left.seen, right.failed.trans left.failed⟩

section

variable (world : World)

theorem outFrame_unread (frame : Frame) :
    Unread world (outFrame world frame).1 := by
  rw [outFrame]
  repeat' split
  all_goals exact ⟨rfl, rfl, rfl, rfl⟩

theorem submitSettings_unread : Unread world (submitSettings world).1 := by
  have queued := outFrame_unread world
      { type := .settings
        flags := 0
        streamId := 0
        payload := frameSettingsEncode (announcedSettings world.proto) }
  rw [submitSettings]
  split <;> rename_i equal <;> rw [equal] at queued
  · exact queued
  · exact queued.trans ⟨rfl, rfl, rfl, rfl⟩

theorem grantWindow_unread (increment : Nat) :
    Unread world (grantWindow world 0 increment).1 := by
  rw [grantWindow]
  split
  · exact Unread.refl world
  split
  · exact Unread.refl world
  simp only [if_true]
  split
  · exact Unread.refl world
  · refine Unread.trans ?_ (outFrame_unread _ _)
    exact ⟨rfl, rfl, rfl, rfl⟩

theorem announce_unread : Unread world (announce world).1 := by
  have announced := submitSettings_unread world
  rw [announce]
  split <;> rename_i equal <;> rw [equal] at announced
  · exact announced
  split
  · exact announced.trans (grantWindow_unread _ _)
  · exact announced

theorem ensurePreface_unread : Unread world (ensurePreface world).1 := by
  rw [ensurePreface]
  split
  · split
    · exact Unread.refl world
    split
    · split
      · exact Unread.refl world
      · refine Unread.trans ?_ (announce_unread _)
        exact ⟨rfl, rfl, rfl, rfl⟩
    · exact Unread.refl world
  · split
    · exact announce_unread world
    · exact Unread.refl world

theorem submitGoaway_unread (lastStreamId errorCode : Nat) :
    Unread world (submitGoaway world lastStreamId errorCode).1 := by
  have ensured := ensurePreface_unread world
  rw [submitGoaway]
  split
  · exact Unread.refl world
  split <;> rename_i after equal <;> rw [equal] at ensured
  · exact ensured
  split
  · exact ensured
  rename_i payload _
  have queued := outFrame_unread after
      { type := .goaway, flags := 0, streamId := 0, payload }
  split <;> rename_i equal <;> rw [equal] at queued
  · exact ensured.trans queued
  · exact (ensured.trans queued).trans ⟨rfl, rfl, rfl, rfl⟩

theorem protoFail_unread (error : ErrorCode) :
    (protoFail world error).proto.failed = true ∧
      (protoFail world error).proto.mode = world.proto.mode ∧
      (protoFail world error).proto.serverPrefaceSeen =
        world.proto.serverPrefaceSeen := by
  rw [protoFail]
  split
  · rename_i failed
    exact ⟨failed, rfl, rfl⟩
  have sent := submitGoaway_unread
      (world.update fun proto =>
        { proto with failed := true, lastError := error.code })
      world.proto.lastProcStreamId.toNat error.code
  exact ⟨sent.failed, sent.mode, sent.seen⟩

end

/-! ## Input -/

/-- A client, or a server which has seen the client preface. -/
def Conn.Ready (conn : Conn) : Prop := conn.mode = .server → conn.seen = true

/-- A connection which is ready stays ready. -/
theorem Conn.Ready.steps {conn conn' : Conn} (ready : conn.Ready)
    (steps : Steps conn conn') : conn'.Ready := by
  induction steps with
  | refl => exact ready
  | tail _ last induction =>
    intro server
    rw [last.constant.1] at server
    exact last.seen_of_seen (induction server)

theorem frameHeaderDecode_spec {input : Bytes} {maxFrameSize : Nat}
    {header : FrameHeader}
    (decoded : frameHeaderDecode input maxFrameSize = some header) :
    header.streamId ≤ maxWindow := by
  rw [frameHeaderDecode] at decoded
  split at decoded
  · cases decoded
  simp only at decoded
  split at decoded
  · cases decoded
  · cases decoded
    simp only [maxWindow]
    omega

/-! ## The frame loop -/

/-- Count a frame behind which no header block is open. -/
def countInput (world : World) : World :=
  if world.proto.inHeaders then
    world
  else
    world.update fun proto =>
      { proto with inputGeneration := (proto.inputGeneration + 1) % 2 ^ 64 }

/-- A round of the frame loop. -/
def frameRound (hook : Hook) (world : World) (input : Bytes) :
    Option (World × Nat) :=
  if world.proto.failed ∨ input.length < frameHeaderSize then
    none
  else
    match
      frameHeaderDecode input world.proto.localSettings.maxFrameSize
    with
    | none => some (protoFail world .protocolError, 0)
    | some header =>
      if input.length - frameHeaderSize < header.length then
        none
      else
        some
          (countInput
            (dispatch hook world header
              ((input.drop frameHeaderSize).take header.length)),
            frameHeaderSize + header.length)

theorem receiveFrames_of_failed (rounds : Nat)
    (failed : world.proto.failed = true)
    (input : Bytes) : receiveFrames hook rounds world input = (world, 0) := by
  cases rounds with
  | zero => rfl
  | succ rounds => rw [receiveFrames, if_pos (.inl failed)]

/-- One round of the loop over frames, and the rest. -/
theorem receiveFrames_succ (rounds : Nat) (world : World) (input : Bytes) :
    receiveFrames hook (rounds + 1) world input =
      if world.proto.inputPaused then
        (world, 0)
      else
        match frameRound hook world input with
        | none => (world, 0)
        | some (next, used) =>
          ((receiveFrames hook rounds next (input.drop used)).1, used +
              (receiveFrames hook rounds next (input.drop used)).2) := by
  rw [receiveFrames, frameRound]
  by_cases paused : world.proto.inputPaused = true
  · rw [if_pos paused, if_pos (.inr (.inl paused))]
  rw [if_neg paused]
  by_cases stuck : world.proto.failed = true ∨ input.length < frameHeaderSize
  · rw [if_pos stuck, if_pos (stuck.imp_right .inr)]
  have going :
      ¬(world.proto.failed = true ∨ world.proto.inputPaused = true ∨
        input.length < frameHeaderSize) := by
    rw [not_or] at stuck
    rw [not_or, not_or]
    exact ⟨stuck.1, paused, stuck.2⟩
  rw [if_neg stuck, if_neg going]
  cases frameHeaderDecode input world.proto.localSettings.maxFrameSize with
  | none =>
    have failed := @receiveFrames_of_failed hook _ rounds
        (protoFail_unread world .protocolError).1 input
    simp only [List.drop_zero, failed]
  | some header =>
    simp only
    by_cases incomplete : input.length - frameHeaderSize < header.length
    · rw [if_pos incomplete, if_pos incomplete]
    · rw [if_neg incomplete, if_neg incomplete]
      rfl

theorem conn_countInput (world : World) :
    (countInput world).conn = world.conn := by
  rw [countInput]
  split <;> rfl

theorem frameRound_steps (faithful : Faithful hook) {next : World}
    (live : Live world.conn)
    (ready : world.conn.Ready) {input : Bytes} {used : Nat}
    (taken : frameRound hook world input = some (next, used)) :
    Steps world.conn next.conn := by
  rw [frameRound] at taken
  split at taken
  · cases taken
  rename_i going
  rw [not_or] at going
  split at taken
  · cases taken
    exact (protoFail_moves live .protocolError).steps
  rename_i header decoded
  split at taken
  · cases taken
  rename_i complete
  cases taken
  rw [conn_countInput]
  apply dispatch_steps faithful live
  · intro server
    exact live.prefaced.seen server (ready server)
      (Bool.eq_false_of_not_eq_true going.1)
  · exact frameHeaderDecode_spec decoded
  · rw [List.length_take, List.length_drop]
    omega

theorem receiveFrames_steps (faithful : Faithful hook) (rounds : Nat)
    (live : Live world.conn)
    (ready : world.conn.Ready) (input : Bytes) :
    Steps world.conn (receiveFrames hook rounds world input).1.conn := by
  induction rounds generalizing world input with
  | zero => exact .refl
  | succ rounds induction =>
    rw [receiveFrames_succ]
    split
    · exact .refl
    split
    · exact .refl
    · rename_i taken
      have steps := frameRound_steps faithful live ready taken
      exact steps.trans (induction (live.steps steps) (ready.steps steps) _)

/-! ## The client preface -/

/-- The client preface is accepted by steps, with or without a failure. -/
theorem prefaceSeen_steps (conn : Conn) {conn' : Conn} {succeeded : Bool}
    (server : conn.mode = .server)
    (ensured : Ensured (Conn.note { conn with seen := true } .prefaceSeen) conn'
      succeeded) :
    (succeeded = true → Steps conn conn') ∧
      Steps conn { conn' with failed := true } := by
  have sent := fun succeeded => ensured.sent succeeded (.inr rfl)
  cases ensured.announced with
  | same =>
    constructor
    · intro succeeded
      exact .single (Step.prefaceSeen server (sent succeeded).1)
    · exact .single
        (Step.prefaceFailed server (fun announced => announced)
          (le_max_left _ _))
  | granted unsent neutral fits =>
    constructor
    · intro _
      exact .head (Step.prefaceAnnounced server unsent fits) (neutral.steps _)
    · exact .head
        (Step.prefaceFailed server (fun _ => rfl) (le_max_of_le_right fits))
        (neutral.steps _)
  | refused unsent neutral exceeds =>
    constructor
    · intro succeeded
      have fits := (sent succeeded).2 unsent
      omega
    · exact .head (Step.prefaceFailed server (fun _ => rfl) (le_max_left _ _))
        (neutral.steps _)

/-- What the intake of input leads to. -/
def Intake.Sound (conn : Conn) : Intake → Prop
  | .hold world => Steps conn world.conn
  | .frames world _ => Steps conn world.conn ∧ world.conn.Ready

/-- Reading the preface follows the connection. -/
theorem receivePreface_sound (live : Live world.conn) (input : Bytes) :
    (receivePreface world input).Sound world.conn := by
  rw [receivePreface]
  split
  · rename_i waiting
    split
    · exact (protoFail_moves live .protocolError).steps
    split
    · exact .refl
    rcases ensurePreface_spec
        ((world.update fun proto =>
          { proto with serverPrefaceSeen := true }).note .prefaceSeen)
        { live.bounded with } with
      ⟨conn', ensured, becomes⟩
    have steps := prefaceSeen_steps world.conn waiting.1 ensured
    simp only
    generalize ensurePreface
        ((world.update fun proto =>
          { proto with serverPrefaceSeen := true }).note .prefaceSeen) =
      result at ensured becomes steps ⊢
    rcases result with ⟨after, succeeded⟩
    cases succeeded with
    | false =>
      refine (Moves.protoFail .internalError live ?_ becomes.reading).steps
      rw [becomes.conn]
      exact steps.2
    | true =>
      have reached : Steps world.conn after.conn := by
        rw [becomes.conn]
        exact steps.1 rfl
      refine ⟨reached, ?_⟩
      intro _
      rw [becomes.conn, ensured.announced.kept.2.2.2.2]
      rfl
  rename_i notWaiting
  refine ⟨.refl, ?_⟩
  intro server
  by_contra unseen
  exact notWaiting ⟨server, unseen⟩

/-! ## Operations and runs -/

theorem Engine.process_steps (engine : Engine) (live : Live engine.world.conn) :
    Steps engine.world.conn engine.process.world.conn := by
  rw [process]
  split
  · exact .refl
  have sound := receivePreface_sound live engine.inbuf.data
  split
  · rename_i held
    rw [held] at sound
    exact sound
  · rename_i world skip taken
    rw [taken] at sound
    exact sound.1.trans
      (receiveFrames_steps (application_faithful engine.depth) _
        (live.steps sound.1) sound.2 _)

theorem Engine.recv_steps (engine : Engine) (live : Live engine.world.conn)
    (input : Bytes) :
    Steps engine.world.conn (engine.recv input).world.conn := by
  rw [recv]
  split
  · exact .refl
  · rename_i inbuf _
    exact process_steps { engine with inbuf } live

theorem Engine.resumeInput_steps (live : Live engine.world.conn)
    (streamId : Int) :
    Steps engine.world.conn (engine.resumeInput streamId).world.conn := by
  rw [resumeInput]
  simp only
  split
  · exact .refl
  generalize resumedEq :
    (engine.world.update fun proto =>
      { proto with
        inputPaused := false
        inputPausedStream := 0
        inputPausedEndStream := false }) = resumed
  have unpaused : resumed.conn = engine.world.conn := by
    rw [← resumedEq]
    rfl
  have liveResumed : Live resumed.conn := by
    rw [unpaused]
    exact live
  have finish (world : World) (closed : Moves resumed world) :
    Steps resumed.conn
      (if world.proto.failed then
        { engine with world }
      else
        recv { engine with world } []).world.conn := by
    split
    · exact closed.steps
    · exact closed.steps.trans
        (recv_steps { engine with world } (closed.live liveResumed)
          [])
  rw [← unpaused]
  apply finish
  split
  · exact .refl resumed
  · split
    · exact maybeClose_moves (application_faithful engine.depth) liveResumed _
    · exact .refl resumed

theorem Engine.step_steps (live : Live engine.world.conn) (op : Op) :
    Steps engine.world.conn (engine.step op).world.conn := by
  cases op with
  | recv input => exact recv_steps engine live input
  | resumeInput streamId => exact resumeInput_steps live streamId
  | call call =>
    exact (apiCall_moves (application_faithful engine.depth) live call).steps

theorem Engine.run_steps (ops : List Op) (live : Live engine.world.conn) :
    Steps engine.world.conn (engine.run ops).world.conn := by
  induction ops generalizing engine with
  | nil => exact .refl
  | cons op ops induction =>
    have first := step_steps live op
    exact first.trans (induction (live.steps first))

/-- What `chttp_h2_proto_create` builds. -/
structure Created (mode : Mode) (config : Config) (cbs : Callbacks)
    (script : List Reply) (pulls : List Pull) (engine : Engine) : Prop where
  valid : config.valid = true
  world : ∃ hpack out inBlock, engine.world =
        { proto := initialProto mode config cbs hpack out inBlock, script,
          pulls, log := [] } ∧
      out.maxCapacity = config.outputBufferBytes ∧ out.data = []
  inbuf : engine.inbuf.maxCapacity = config.inputBufferBytes

theorem Engine.create_created
    (created : Engine.create mode config cbs script pulls = some engine) :
    Created mode config cbs script pulls engine := by
  rw [Engine.create] at created
  split at created
  · rename_i valid
    split at created
    · cases created
    split at created
    · rename_i hpack out inbuf inBlock _ outInit inInit _
      cases created
      exact ⟨valid, ⟨hpack, out, inBlock, rfl, Buffer.spec_of_init outInit⟩,
        (Buffer.spec_of_init inInit).1⟩
    · cases created
  · cases created

/-- A new engine has an initial connection. -/
theorem Created.initial
    (created : Created mode config cbs script pulls engine) :
    engine.world.conn.Initial := by
  rcases created.world with ⟨hpack, out, inBlock, equal, capacity, empty⟩
  have valid := created.valid
  rw [Config.valid, decide_eq_true_eq] at valid
  have target :
      (World.conn
        { proto := initialProto mode config cbs hpack out inBlock
          script
          pulls
          log := [] }).connLocalWindow =
        if config.connectionReceiveWindowSize = 0 then
          (defaultWindow : Int)
        else
          config.connectionReceiveWindowSize := rfl
  rw [equal]
  constructor <;> try rfl
  · cases mode <;> rfl
  · exact Nat.pos_of_ne_zero valid.1
  · cases mode with
    | client => exact (by decide : (0 : Int) < 1)
    | server => exact (by decide : (0 : Int) < 2)
  · cases mode with
    | client => exact fun _ => rfl
    | server => rintro ⟨⟩
  · cases mode with
    | client => rintro ⟨⟩
    | server => exact fun _ => rfl
  · rw [target]
    split
    · exact le_rfl
    · omega
  · rw [target]
    split
    · decide
    · omega
  · change (if config.localInitialWindowSize = 0 then _ else _) ≤ _
    split
    · decide
    · omega
  · exact (by decide : 16384 ≤ maxFrameBytes)
  · exact capacity
  · exact congrArg some empty

/-- A new engine has a live connection. -/
theorem Created.live (created : Created mode config cbs script pulls engine) :
    Live engine.world.conn :=
  ⟨_, created.initial, .refl⟩

section

variable (reachable : Reachable mode config cbs engine)

include reachable

/-- A reachable engine has a live connection. -/
theorem Reachable.live : Live engine.world.conn := by
  rcases reachable with ⟨script, pulls, start, ops, created, rfl⟩
  have live := (create_created created).live
  exact live.steps (run_steps ops live)

theorem Reachable.constant :
    engine.world.proto.mode = mode ∧ engine.world.proto.cbs = cbs ∧
    engine.world.proto.streamCap = config.streamCapacity := by
  rcases reachable with ⟨script, pulls, start, ops, created, rfl⟩
  have isNew := create_created created
  have same := Steps.constant (run_steps ops isNew.live)
  rcases isNew.world with ⟨hpack, out, inBlock, equal, -⟩
  rw [equal] at same
  exact ⟨same.1, same.2.1, same.2.2.1⟩

/--
The preface and the frames of the log are, octet by octet, what was handed to
the transport and what still waits in the output.
-/
theorem Reachable.output : engine.world.log.flatMap Event.written =
    engine.world.log.flatMap Event.handed ++ engine.world.proto.out.data := by
  have told : some engine.world.proto.out.data = _ := reachable.live.queue_eq
  exact written_of_foldl_output told.symm

end

theorem reachable_run
    (created : (Engine.create mode config cbs script pulls).isSome)
    (ops : List Op) :
    Reachable mode config cbs
      (((Engine.create mode config cbs script pulls).get created).run ops) :=
  ⟨script, pulls, _, ops, (Option.some_get created).symm, rfl⟩

/-- The least buffers an engine accepts, with room for two streams. -/
def Config.small : Config where
  streamCapacity := 2
  outputBufferBytes := 16468
  inputBufferBytes := 16393
  headerBlockBytes := 4096
  maxHeaderListBytes := 4096
  hpackDynamicTableBytes := 4096
  maxHpackStringBytes := 4096
  maxSettingsCount := 8
  localInitialWindowSize := 0
  connectionReceiveWindowSize := 0

theorem create_small (mode : Mode) (cbs : Callbacks) (script : List Reply)
    (pulls : List Pull) :
    (Engine.create mode Config.small cbs script pulls).isSome :=
  rfl

/-- All callbacks are installed. -/
def Callbacks.all : Callbacks where
  onBeginHeaders := true
  onHeader := true
  onEndHeaders := true
  onData := true
  onStreamClose := true
  onSettings := true
  onSettingsAck := true
  onPingAck := true
  onWindowUpdate := true
  onGoaway := true
  onRstReceived := true
  onWakeWrite := true

/-- A run of an engine with the least buffers and all callbacks. -/
def smallRun (mode : Mode) (script : List Reply) (pulls : List Pull)
    (ops : List Op) : Engine :=
  ((Engine.create mode Config.small Callbacks.all script pulls).get
    (create_small mode Callbacks.all script pulls)).run ops

/-- A run from the small configuration is reachable. -/
theorem smallRun_reachable (mode : Mode) (script : List Reply)
    (pulls : List Pull) (ops : List Op) :
    Reachable mode Config.small Callbacks.all
      (smallRun mode script pulls ops) :=
  reachable_run (create_small mode Callbacks.all script pulls) ops

end Chttp.H2
