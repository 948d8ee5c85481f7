import Chttp.Lib.Incremental
import Chttp.H2.Simulation.Engine

/-!
# Segmentation of the input

The receive loop is an incremental consumer of octets: its rounds take the
client preface and then one complete frame each.  So it makes no difference
how the input is cut into pieces.
-/

namespace Chttp.H2

open Lib Hpack
open Engine

variable {hook : Hook}

/-! ## Rounds -/

/-- The round which takes the client preface. -/
def prefaceRound (world : World) (input : Bytes) : Option (World × Nat) :=
  if input.take prefaceLen ≠ clientPreface.take input.length then
    if world.proto.failed then
      none
    else
      some (protoFail world .protocolError, 0)
  else if input.length < prefaceLen then
    none
  else
    match
      ensurePreface
        ((world.update fun proto =>
          { proto with serverPrefaceSeen := true }).note .prefaceSeen)
    with
    | (world, false) => some (protoFail world .internalError, 0)
    | (world, true) => some (world, prefaceLen)

/-- Whether a server still waits for the client preface. -/
def awaitsPreface (world : World) : Prop :=
  world.proto.mode = .server ∧ ¬world.proto.serverPrefaceSeen

instance (world : World) : Decidable (awaitsPreface world) :=
  inferInstanceAs (Decidable (_ ∧ _))

/-- A round of `chttp_h2_proto_recv`. -/
def intakeRound (hook : Hook) (world : World) (input : Bytes) :
    Option (World × Nat) :=
  if world.proto.inputPaused then
    none
  else if awaitsPreface world then
    prefaceRound world input
  else
    frameRound hook world input

/-! ## Rounds depend on the octets they use -/

variable {input : Bytes} {world next : World} {used : Nat} {engine : Engine}

theorem readU24_append (enough : 3 ≤ input.length)
    (more : Bytes) : readU24 (input ++ more) = readU24 input := by
  rcases input with _ | ⟨a, _ | ⟨b, _ | ⟨c, input⟩⟩⟩
  · simp at enough
  · simp at enough
  · simp at enough
  · rfl

theorem readU32_append (enough : 4 ≤ input.length)
    (more : Bytes) : readU32 (input ++ more) = readU32 input := by
  rcases input with _ | ⟨a, _ | ⟨b, _ | ⟨c, _ | ⟨d, input⟩⟩⟩⟩
  · simp at enough
  · simp at enough
  · simp at enough
  · simp at enough
  · rfl

theorem frameHeaderDecode_append (enough : frameHeaderSize ≤ input.length)
    (more : Bytes)
    (maxFrameSize : Nat) :
    frameHeaderDecode (input ++ more) maxFrameSize =
      frameHeaderDecode input maxFrameSize := by
  have nine : 9 ≤ input.length := enough
  have tail : 4 ≤ (input.drop 5).length := by
    rw [List.length_drop]
    omega
  have long : ¬(input ++ more).length < frameHeaderSize := by
    rw [List.length_append]
    omega
  rw [frameHeaderDecode, frameHeaderDecode, if_neg long,
    if_neg (Nat.not_lt.mpr enough), readU24_append (by omega),
    List.drop_append_of_le_length (by omega), readU32_append tail,
    List.getD_append _ _ _ _ (by omega), List.getD_append _ _ _ _ (by omega)]

theorem mismatch_append (mismatch : input.take prefaceLen ≠
    clientPreface.take input.length)
    (more : Bytes) :
    (input ++ more).take prefaceLen ≠
      clientPreface.take (input ++ more).length := by
  intro equal
  apply mismatch
  have front := congrArg (List.take input.length) equal
  rw [List.take_take, List.take_take, List.length_append,
    Nat.min_eq_left (Nat.le_add_right _ _)] at front
  rw [← front]
  by_cases long : prefaceLen ≤ input.length
  · rw [Nat.min_eq_right long, List.take_append_of_le_length long]
  · have short : input.length ≤ prefaceLen := by omega
    rw [Nat.min_eq_left short, List.take_left, List.take_of_length_le short]

theorem match_append (matches' : input.take prefaceLen =
    clientPreface.take input.length)
    (long : prefaceLen ≤ input.length) (more : Bytes) :
    (input ++ more).take prefaceLen =
      clientPreface.take (input ++ more).length := by
  have whole (count : Nat) (large : prefaceLen ≤ count) :
      clientPreface.take count = clientPreface := by
    apply List.take_of_length_le
    rw [length_clientPreface]
    exact large
  have larger : prefaceLen ≤ (input ++ more).length := by
    rw [List.length_append]
    omega
  rw [List.take_append_of_le_length long, matches', whole _ long,
    whole _ larger]

theorem prefaceRound_append (taken : prefaceRound world input =
    some (next, used)) (more : Bytes) :
    prefaceRound world (input ++ more) = some (next, used) := by
  rw [prefaceRound] at taken ⊢
  split at taken
  · rename_i mismatch
    rw [if_pos (mismatch_append mismatch more)]
    exact taken
  rename_i matched
  split at taken
  · cases taken
  rename_i long
  have complete := match_append (not_not.mp matched) (Nat.not_lt.mp long) more
  have longer : ¬(input ++ more).length < prefaceLen := by
    rw [List.length_append]
    omega
  rw [if_neg (not_not.mpr complete), if_neg longer]
  exact taken

theorem frameRound_append (taken : frameRound hook world input =
    some (next, used)) (more : Bytes) :
    frameRound hook world (input ++ more) = some (next, used) := by
  rw [frameRound] at taken ⊢
  split at taken
  · cases taken
  rename_i going
  rw [not_or] at going
  have enough : frameHeaderSize ≤ input.length := Nat.not_lt.mp going.2
  have longer : ¬(input ++ more).length < frameHeaderSize := by
    rw [List.length_append]
    omega
  rw [if_neg (not_or.mpr ⟨going.1, longer⟩), frameHeaderDecode_append enough]
  split at taken
  · exact taken
  rename_i header _
  split at taken
  · cases taken
  rename_i complete
  have completeLonger : ¬(input ++ more).length - frameHeaderSize <
      header.length := by
    rw [List.length_append]
    omega
  have payload : ((input ++ more).drop frameHeaderSize).take header.length =
      (input.drop frameHeaderSize).take header.length := by
    rw [List.drop_append_of_le_length enough, List.take_append_of_le_length]
    rw [List.length_drop]
    omega
  simp only [payload]
  rw [if_neg completeLonger]
  exact taken

theorem frameRound_last (taken : frameRound hook world input = some (next, 0)) :
    next.proto.failed = true ∧
      (awaitsPreface next ↔ awaitsPreface world) := by
  rw [frameRound] at taken
  split at taken
  · cases taken
  split at taken
  · cases taken
    have kept := protoFail_unread world .protocolError
    rw [awaitsPreface, kept.2.1, kept.2.2]
    exact ⟨kept.1, Iff.rfl⟩
  · split at taken
    · cases taken
    · have size := congrArg Prod.snd (Option.some.inj taken)
      simp [frameHeaderSize] at size

theorem intakeRound_of_failed (failed : world.proto.failed = true)
    (ready : ¬awaitsPreface world)
    (input : Bytes) : intakeRound hook world input = none := by
  rw [intakeRound, if_neg ready, frameRound, if_pos (Or.inl failed)]
  split <;> rfl

theorem prefaceRound_last (waiting : awaitsPreface world)
    (taken : prefaceRound world input = some (next, 0)) (more : Bytes) :
    intakeRound hook next (input ++ more) = none := by
  rw [prefaceRound] at taken
  split at taken
  · rename_i mismatch
    split at taken
    · cases taken
    cases taken
    have kept := protoFail_unread world .protocolError
    have still : awaitsPreface (protoFail world .protocolError) := by
      rw [awaitsPreface, kept.2.1, kept.2.2]
      exact waiting
    rw [intakeRound, if_pos still, prefaceRound,
      if_pos (mismatch_append mismatch more), if_pos kept.1]
    split
    · rfl
    · rfl
  split at taken
  · cases taken
  have ensured := ensurePreface_unread
      ((world.update fun proto =>
        { proto with serverPrefaceSeen := true }).note .prefaceSeen)
  split at taken
  · rename_i after equal
    rw [equal] at ensured
    cases taken
    have kept := protoFail_unread after .internalError
    apply intakeRound_of_failed kept.1
    intro awaits
    apply awaits.2
    rw [kept.2.2, ensured.seen]
    rfl
  · cases taken

theorem intakeRound_inside (taken : intakeRound hook world input =
    some (next, used)) :
    used ≤ input.length := by
  rw [intakeRound] at taken
  split at taken
  · cases taken
  split at taken
  · rw [prefaceRound] at taken
    split at taken
    · split at taken
      · cases taken
      · cases taken
        exact Nat.zero_le _
    split at taken
    · cases taken
    rename_i long
    split at taken
    · cases taken
      exact Nat.zero_le _
    · cases taken
      exact Nat.not_lt.mp long
  rw [frameRound] at taken
  split at taken
  · cases taken
  split at taken
  · cases taken
    exact Nat.zero_le _
  · split at taken
    · cases taken
    · cases taken
      omega

theorem intakeRound_incremental (hook : Hook) :
    Incremental (intakeRound hook) where
  empty world := by
    rw [intakeRound]
    split
    · rfl
    · split
      · simp [prefaceRound, prefaceLen]
      · simp [frameRound, frameHeaderSize]
  stable := by
    intro world input next used taken more
    rw [intakeRound] at taken ⊢
    split at taken
    · cases taken
    rename_i running
    rw [if_neg running]
    split at taken
    · rename_i waiting
      rw [if_pos waiting]
      exact prefaceRound_append taken more
    · rename_i ready
      rw [if_neg ready]
      exact frameRound_append taken more
  inside := intakeRound_inside
  last := by
    intro world input next taken more
    rw [intakeRound] at taken
    split at taken
    · cases taken
    split at taken
    · rename_i waiting
      exact prefaceRound_last waiting taken more
    · rename_i ready
      have last := frameRound_last taken
      exact intakeRound_of_failed last.1 (last.2.not.mpr ready) _

/-! ## The receive loop is the consumer -/

theorem not_awaitsPreface_iff (world : World) :
    ¬awaitsPreface world ↔ world.conn.Ready := by
  rw [awaitsPreface, not_and]
  simp only [not_not]
  exact Iff.rfl

theorem consume_eq_receiveFrames (faithful : Faithful hook) (rounds : Nat)
    (live : Live world.conn)
    (ready : world.conn.Ready) (input : Bytes) :
    consume (intakeRound hook) rounds world input =
      receiveFrames hook rounds world input := by
  induction rounds generalizing world input with
  | zero => rfl
  | succ rounds induction =>
    have going : ¬awaitsPreface world := (not_awaitsPreface_iff world).mpr ready
    rw [consume, receiveFrames_succ, intakeRound]
    by_cases paused : world.proto.inputPaused = true
    · rw [if_pos paused, if_pos paused]
    rw [if_neg paused, if_neg paused, if_neg going]
    cases taken : frameRound hook world input with
    | none => rfl
    | some result =>
      rcases result with ⟨next, used⟩
      have steps := frameRound_steps faithful live ready taken
      simp only [induction (live.steps steps) (ready.steps steps)]

/-- The intake of a server which awaits the preface is the preface round. -/
theorem receivePreface_of_awaits (awaits : awaitsPreface world)
    (input : Bytes) :
    receivePreface world input =
      match prefaceRound world input with
      | none => .hold world
      | some (next, 0) => .hold next
      | some (next, used + 1) => .frames next (used + 1) := by
  rw [awaitsPreface] at awaits
  rw [receivePreface, prefaceRound, if_pos awaits]
  by_cases mismatch : input.take prefaceLen ≠ clientPreface.take input.length
  · rw [if_pos mismatch, if_pos mismatch, protoFail]
    by_cases failed : world.proto.failed = true
    · rw [if_pos failed, if_pos failed]
    · rw [if_neg failed, if_neg failed]
  rw [if_neg mismatch, if_neg mismatch]
  by_cases short : input.length < prefaceLen
  · rw [if_pos short, if_pos short]
  rw [if_neg short, if_neg short]
  simp only
  generalize ensurePreface
      ((world.update fun proto =>
        { proto with serverPrefaceSeen := true }).note .prefaceSeen) = result
  rcases result with ⟨after, succeeded⟩
  cases succeeded with
  | false => rfl
  | true => rfl

/-- An engine with the octets in its buffer consumed. -/
def Engine.consumed (engine : Engine) : Engine :=
  let result :=
    consume (intakeRound (application engine.depth)) engine.inbuf.data.length
      engine.world engine.inbuf.data
  { engine with world := result.1, inbuf := advance engine.inbuf result.2 }

theorem advance_zero (buffer : Buffer) : advance buffer 0 = buffer :=
  Buffer.ext List.drop_zero rfl

/-- An engine processes its input as the loop over frames does. -/
theorem Engine.process_eq_consumed (engine : Engine)
    (live : Live engine.world.conn) : engine.process = engine.consumed := by
  have incremental := intakeRound_incremental (application engine.depth)
  rw [process, consumed]
  simp only
  by_cases paused : engine.world.proto.inputPaused = true
  · have stuck : intakeRound
        (application engine.depth) engine.world engine.inbuf.data = none := by
      rw [intakeRound, if_pos paused]
    rw [if_pos paused, consume_of_none stuck, advance_zero]
  rw [if_neg paused]
  have sound := receivePreface_sound live engine.inbuf.data
  by_cases awaits : awaitsPreface engine.world
  · have roundEq : intakeRound (application engine.depth) engine.world
        engine.inbuf.data = prefaceRound engine.world engine.inbuf.data := by
      rw [intakeRound, if_neg paused, if_pos awaits]
    rw [receivePreface_of_awaits awaits] at sound ⊢
    cases taken : prefaceRound engine.world engine.inbuf.data with
    | none =>
      rw [taken] at roundEq
      rw [consume_of_none roundEq, advance_zero]
    | some result =>
      rcases result with ⟨next, used⟩
      rw [taken] at roundEq sound
      rw [incremental.consume_of_some roundEq le_rfl]
      cases used with
      | zero =>
        simp only [List.drop_zero, incremental.consume_of_last roundEq]
        rw [advance_zero]
      | succ used =>
        simp only
        rw [incremental.consume_congr (by rw [List.length_drop]; omega) le_rfl,
          consume_eq_receiveFrames (application_faithful engine.depth) _
            (live.steps sound.1) sound.2]
  have ready := (not_awaitsPreface_iff engine.world).mp awaits
  rw [awaitsPreface] at awaits
  rw [receivePreface, if_neg awaits,
    consume_eq_receiveFrames (application_faithful engine.depth) _ live ready]
  simp only [List.drop_zero, Nat.zero_add]

/-! ## Pieces -/

/-- What receiving input does, in terms of the consumer. -/
structure Received (engine : Engine) (input : Bytes) (rounds : Nat)
    (received : Engine) : Prop where
  world : received.world =
    (consume (intakeRound (application engine.depth)) rounds engine.world
      (engine.inbuf.data ++ input)).1
  data : received.inbuf.data = (engine.inbuf.data ++ input).drop
      (consume (intakeRound (application engine.depth)) rounds engine.world
        (engine.inbuf.data ++ input)).2
  maxCapacity : received.inbuf.maxCapacity = engine.inbuf.maxCapacity
  depth : received.depth = engine.depth

/-- `chttp_h2_proto_recv` consumes what was left over and the new input. -/
theorem Engine.recv_received (live : Live engine.world.conn) {rounds : Nat}
    (fits : engine.inbuf.size + input.length ≤ engine.inbuf.maxCapacity)
    (enough : (engine.inbuf.data ++ input).length ≤ rounds) :
    Received engine input rounds (engine.recv input) := by
  have room : input.length ≤ engine.inbuf.maxCapacity - engine.inbuf.size := by
    omega
  have incremental := intakeRound_incremental (application engine.depth)
  rw [recv, Buffer.write, dif_pos room]
  simp only
  rw [process_eq_consumed _ (by exact live)]
  constructor
  · rw [incremental.consume_congr enough le_rfl]
    rfl
  · rw [incremental.consume_congr enough le_rfl]
    rfl
  · rfl
  · rfl

/-- Receiving two pieces is receiving them at once. -/
theorem Engine.recv_recv (live : Live engine.world.conn) {first second : Bytes}
    (fits : engine.inbuf.size + (first ++ second).length ≤
      engine.inbuf.maxCapacity) :
    (engine.recv first).recv second = engine.recv (first ++ second) := by
  have incremental := intakeRound_incremental (application engine.depth)
  have lengths : (first ++ second).length = first.length + second.length :=
    List.length_append
  generalize totalEq : (engine.inbuf.data ++ (first ++ second)).length = total
  have whole : engine.inbuf.data ++ (first ++ second) =
      engine.inbuf.data ++ first ++ second :=
    (List.append_assoc _ _ _).symm
  have enough : (engine.inbuf.data ++ first).length ≤ total := by
    rw [← totalEq, List.length_append, List.length_append]
    omega
  have front : Received engine first total (engine.recv first) :=
    recv_received live (by omega) enough
  have atOnce : Received engine (first ++ second) total
      (engine.recv (first ++ second)) :=
    recv_received live fits totalEq.le
  have shrunk : (engine.recv first).inbuf.size ≤
      engine.inbuf.size + first.length := by
    rw [Buffer.size, front.data, List.length_drop, List.length_append]
    exact Nat.sub_le _ _
  have back : Received (engine.recv first) second total
      ((engine.recv first).recv second) := by
    apply recv_received (live.steps (recv_steps engine live first))
    · rw [front.maxCapacity]
      omega
    · rw [Buffer.size, Buffer.size] at shrunk
      rw [← totalEq, List.length_append, List.length_append, lengths]
      omega
  have cut := incremental.consume_append engine.world
    (engine.inbuf.data ++ first)
      second (whole ▸ totalEq.le) enough (whole ▸ totalEq.le)
  have backWorld := back.world
  have backData := back.data
  rw [front.depth, front.world, front.data] at backWorld backData
  have atOnceWorld := atOnce.world
  have atOnceData := atOnce.data
  rw [whole, cut] at atOnceWorld atOnceData
  simp only [← List.drop_drop] at atOnceData
  rw [List.drop_append_of_le_length (incremental.consume_inside _ _ _)]
    at atOnceData
  apply Engine.ext
  · rw [backWorld, atOnceWorld]
  · apply Buffer.ext
    · rw [backData, atOnceData]
    · rw [back.maxCapacity, front.maxCapacity, atOnce.maxCapacity]
  · rw [back.depth, front.depth, atOnce.depth]

theorem Engine.foldl_recv (live : Live engine.world.conn) (piece : Bytes)
    (pieces : List Bytes)
    (fits : engine.inbuf.size + (piece :: pieces).flatten.length ≤
      engine.inbuf.maxCapacity) :
    (piece :: pieces).foldl recv engine =
      engine.recv (piece :: pieces).flatten := by
  induction pieces generalizing piece with
  | nil => simp
  | cons next pieces induction =>
    have joined : (piece :: next :: pieces).flatten =
        ((piece ++ next) :: pieces).flatten := by
      simp [List.append_assoc]
    rw [joined] at fits ⊢
    rw [← induction (piece ++ next) fits, List.foldl_cons, List.foldl_cons,
      List.foldl_cons, recv_recv live]
    rw [List.flatten_cons, List.length_append] at fits
    omega

/-! ## The input buffer -/

theorem Engine.process_maxCapacity (engine : Engine) :
    engine.process.inbuf.maxCapacity = engine.inbuf.maxCapacity := by
  rw [process]
  split
  · rfl
  · split
    · rfl
    · rfl

theorem Engine.recv_maxCapacity (engine : Engine) (input : Bytes) :
    (engine.recv input).inbuf.maxCapacity = engine.inbuf.maxCapacity := by
  rw [recv, Buffer.write]
  split
  · rfl
  rename_i written
  split at written
  · cases written
    exact process_maxCapacity _
  · cases written

theorem Engine.step_maxCapacity (engine : Engine) (op : Op) :
    (engine.step op).inbuf.maxCapacity = engine.inbuf.maxCapacity := by
  cases op with
  | recv input => exact recv_maxCapacity engine input
  | resumeInput streamId =>
    have finish (world : World) :
        (if world.proto.failed then
          { engine with world }
        else
          recv { engine with world } []).inbuf.maxCapacity =
          engine.inbuf.maxCapacity := by
      split
      · rfl
      · exact recv_maxCapacity _ []
    rw [step, resumeInput]
    simp only
    split
    · rfl
    · exact finish _
  | call call => rfl

/-- The input buffer of an engine is bounded by `input_buffer_bytes`. -/
theorem Reachable.inbuf_maxCapacity {mode : Mode} {config : Config}
    {cbs : Callbacks}
    (reachable : Reachable mode config cbs engine) :
    engine.inbuf.maxCapacity = config.inputBufferBytes := by
  rcases reachable with ⟨script, pulls, start, ops, created, rfl⟩
  have bound := (create_created created).inbuf
  rw [run, ← bound]
  clear created bound
  induction ops generalizing start with
  | nil => rfl
  | cons op ops induction =>
    rw [List.foldl_cons, induction, step_maxCapacity]

/--
The input of an engine may be cut at any place.  Whatever the engine was
before, it ends up in the same state with the same log, and with the same
octets left over, when it receives the pieces one after another as when it
receives them at once, also when a pause is ended behind the last piece.
-/
theorem recv_segmentation {mode : Mode} {config : Config} {cbs : Callbacks}
    {engine : Engine}
    (reachable : Reachable mode config cbs engine) (piece : Bytes)
    (pieces : List Bytes)
    (fits : engine.inbuf.size + (piece :: pieces).flatten.length ≤
      config.inputBufferBytes)
    (resumed : List Int) :
    resumed.foldl resumeInput ((piece :: pieces).foldl recv engine) =
      resumed.foldl resumeInput (engine.recv (piece :: pieces).flatten) := by
  rw [foldl_recv reachable.live]
  rw [reachable.inbuf_maxCapacity]
  exact fits

/-- A client which receives an empty SETTINGS frame in two pieces. -/
theorem recv_segmentation_settings :
    ∃ engine, Reachable .client Config.small Callbacks.all engine ∧
    [[0, 0, 0], [4, 0, 0, 0, 0, 0]].foldl recv engine =
      engine.recv [0, 0, 0, 4, 0, 0, 0, 0, 0] := by
  have reachable := smallRun_reachable .client [] [] []
  refine ⟨_, reachable, ?_⟩
  exact recv_segmentation reachable [0, 0, 0] [[4, 0, 0, 0, 0, 0]]
    (by decide) []

end Chttp.H2
