import Chttp.H2.ResetHistory

/-!
# Late frames on streams which have ended

A closed stream is known only as long as its slot is not given to another
stream.  WINDOW_UPDATE and RST_STREAM frames which arrive behind the end of a
stream are ignored while the slot is there, and fail the connection when it is
gone.
-/

namespace Chttp.H2

open Lib Hpack

/-! ## A stream ends in one way -/

theorem LifeValid.cause_unique {conn : Conn} (valid : LifeValid conn) {id : Int}
    {cause cause' : CloseCause} (closed : .closed id cause ∈ conn.log)
    (closed' : .closed id cause' ∈ conn.log) : cause = cause' := by
  rcases List.append_of_mem closed with ⟨before, after, split⟩
  have first := valid.ordered before (.closed id cause)
    ⟨after, by rw [split, List.append_assoc]; rfl⟩
  rw [split, List.mem_append, List.mem_cons] at closed'
  rcases closed' with early | same | late
  · exact absurd early (first cause')
  · cases same
    rfl
  · rcases List.append_of_mem late with ⟨between, rest, rfl⟩
    have second := valid.ordered (before ++ .closed id cause :: between)
      (.closed id cause') ⟨rest, by simp [split]⟩
    exact absurd (by simp) (second cause)

/-- What the ring lists was reset locally. -/
def RingReset (conn : Conn) : Prop :=
  ∀ id ∈ conn.resetIds, id ≠ 0 → .closed id .localReset ∈ conn.log

theorem Step.ringReset {conn conn' : Conn} (step : Step conn conn')
    (ring : RingReset conn) : RingReset conn' := by
  have carried (same : ∀ id ∈ conn'.resetIds, id ≠ 0 → id ∈ conn.resetIds) :
      RingReset conn' := fun id member nonzero =>
    step.log.subset (ring id (same id member nonzero) nonzero)
  have recorded {stream : Stream}
      (resetIds : conn'.resetIds =
        if decide (stream.id ≤ 0 ∨ stream.id ∈ conn.resetIds) = true then
          conn.resetIds
        else
          conn.resetIds.set conn.cursor stream.id)
      (reset : .closed stream.id .localReset ∈ conn'.log) :
      RingReset conn' := by
    intro id member nonzero
    rw [resetIds] at member
    split at member
    · exact step.log.subset (ring id member nonzero)
    · rcases List.mem_or_eq_of_mem_set member with old | rfl
      · exact step.log.subset (ring id old nonzero)
      · exact reset
  cases step with
  | closeReset | pullError => exact recorded rfl (by simp)
  | forget =>
    refine carried fun id member nonzero => ?_
    rcases List.mem_map.mp member with ⟨entry, old, equal⟩
    split at equal
    · exact absurd equal.symm nonzero
    · rw [← equal]
      exact old
  | _ => exact carried fun _ member _ => member

theorem Live.ringReset {conn : Conn} (live : Live conn) : RingReset conn := by
  refine live.induction ?_ ?_
  · intro conn initial id member nonzero
    rw [initial.resetIds] at member
    exact absurd (List.eq_of_mem_replicate member) nonzero
  · intro conn conn' _ ring step
    exact step.ringReset ring

/-! ## The reaction -/

/-- A stream was closed by both sides, or by the peer. -/
def EndedByPeer (log : List Event) (id : Int) : Prop :=
  .closed id .ended ∈ log ∨ .closed id .peerReset ∈ log

/-- A stream its peer has ended is not recorded as reset, and closed. -/
theorem EndedByPeer.spec {world : World} {id : Int}
    (ended : EndedByPeer world.log id) (live : Live world.conn) :
    world.proto.localResetContains id = false ∧ ∀ slot stream,
      world.proto.find id = some slot →
        world.stream? slot = some stream → stream.closed = true := by
  obtain ⟨cause, closed, notReset⟩ :
      ∃ cause, .closed id cause ∈ world.log ∧ cause ≠ .localReset := by
    rcases ended with ended | reset
    · exact ⟨_, ended, by decide⟩
    · exact ⟨_, reset, by decide⟩
  constructor
  · rw [Bool.eq_false_iff]
    intro listed
    rcases (localResetContains_iff _ _).mp listed with ⟨positive, member⟩
    have reset := live.ringReset id member positive.ne'
    exact notReset (live.life.cause_unique closed reset)
  intro slot stream found present
  rcases find_spec found with ⟨stream', present', sameId⟩
  rw [present] at present'
  cases present'
  exact (live.life.closed id cause closed).2 stream
    (List.mem_of_getElem? present) sameId

/-- WINDOW_UPDATE with an increment other than zero, or RST_STREAM. -/
def LateControl (header : FrameHeader) (payload : Bytes) : Prop :=
  header.length = 4 ∧
    (FrameType.ofCode header.type = some .windowUpdate ∧
      readU32 payload % 2 ^ 31 ≠ 0 ∨
      FrameType.ofCode header.type = some .rstStream)

/--
An engine which takes the next frame: it has not failed, the peer has begun
with its settings, no header block is open, and a callback for RST_STREAM
would make no calls.
-/
structure Attentive (world : World) (header : FrameHeader) : Prop where
  sound : world.proto.failed = false
  settings : world.proto.peerSettingsReceived = true
  apart : world.proto.inHeaders = false
  idle : FrameType.ofCode header.type = some .rstStream →
    ∀ reply ∈ world.script.head?, reply.calls = []

/-- A frame is ignored: no failure, and nothing for the application. -/
def Engine.Ignores (engine : Engine) (header : FrameHeader) (payload : Bytes) :
    Prop :=
  Silent engine.world
    (dispatch (application engine.depth) engine.world header payload)

theorem not_silent_protoFail {world between : World} {error : ErrorCode}
    (sound : world.proto.failed = false) :
    ¬Silent world (protoFail between error) := by
  intro silent
  have failed := (protoFail_unread between error).1
  rw [silent.failed, sound] at failed
  cases failed

/-- A late frame is ignored exactly as long as the stream has its slot. -/
theorem ignores_iff_find {engine : Engine} {header : FrameHeader}
    {payload : Bytes}
    (live : Live engine.world.conn)
    (ended : EndedByPeer engine.world.log header.streamId)
    (late : LateControl header payload)
    (attentive : Attentive engine.world header) :
    engine.Ignores header payload ↔
      (engine.world.proto.find header.streamId).isSome := by
  rcases ended.spec live with ⟨unlisted, isClosed⟩
  have onStream : header.streamId ≠ 0 := by
    have positive : (0 : Int) < header.streamId := by
      rcases ended with closed | closed
      · exact live.table.positive _ (live.life.closed _ _ closed).1
      · exact live.table.positive _ (live.life.closed _ _ closed).1
    omega
  have noted : Silent engine.world
      (engine.world.note (.received header payload)) :=
    Silent.of_event rfl rfl
  rw [Engine.Ignores]
  cases found : engine.world.proto.find header.streamId with
  | none =>
    have lost : (engine.world.note (.received header payload)).proto.find
        header.streamId = none := found
    have unlisted' :
      (engine.world.note (.received header payload)).proto.localResetContains
        header.streamId = false := unlisted
    rw [Option.isSome_none, Bool.false_eq_true, iff_false]
    rcases late with ⟨length, ⟨isType, nonzero⟩ | isType⟩
    · rw [dispatch_type _ payload isType attentive.settings
        (.inr attentive.apart)]
      simp only
      rw [dispatchWindowUpdate,
        if_neg (not_not.mpr length), if_neg nonzero, if_neg onStream, lost]
      simp only [unlisted', Bool.false_eq_true, if_false]
      exact not_silent_protoFail attentive.sound
    rw [dispatch_type _ payload isType attentive.settings
      (.inr attentive.apart)]
    simp only
    rw [dispatchRstStream,
      if_neg onStream, if_neg (not_not.mpr length), lost]
    simp only [unlisted', Bool.false_eq_true, if_false]
    exact not_silent_protoFail attentive.sound
  | some slot =>
    rcases find_spec found with ⟨stream, present, -⟩
    have closed := isClosed slot stream found present
    rw [Option.isSome_some, eq_self, iff_true]
    rcases late with ⟨length, ⟨isType, nonzero⟩ | isType⟩
    · rw [dispatch_type _ payload isType attentive.settings
        (.inr attentive.apart)]
      simp only
      rw [@dispatchWindowUpdate_closed _ _
          (engine.world.note (.received header payload)) _ _ _ length
          nonzero onStream found present closed]
      exact noted
    rw [dispatch_type _ payload isType attentive.settings
      (.inr attentive.apart)]
    exact noted.trans
      (dispatchRstStream_closed engine.depth length onStream found present
        closed (attentive.idle isType))

/--
Two runs which differ in the capacity of the stream table only react alike to
a late frame exactly if the ended stream has kept its slot in both of them or
in none.
-/
theorem late_control_alike_iff {mode : Mode} {config : Config} {capacity : Nat}
    {cbs : Callbacks}
    {engine engine' : Engine} (reachable : Reachable mode config cbs engine)
    (reachable' : Reachable mode { config with streamCapacity := capacity } cbs
      engine')
    {header : FrameHeader} {payload : Bytes}
    (ended : EndedByPeer engine.world.log header.streamId)
    (ended' : EndedByPeer engine'.world.log header.streamId)
      (late : LateControl header payload)
    (attentive : Attentive engine.world header)
      (attentive' : Attentive engine'.world header) :
    (engine.Ignores header payload ↔ engine'.Ignores header payload) ↔
      ((engine.world.proto.find header.streamId).isSome ↔
        (engine'.world.proto.find header.streamId).isSome) := by
  rw [ignores_iff_find reachable.live ended late attentive,
    ignores_iff_find reachable'.live ended' late attentive']

/-- A table with one slot. -/
def Config.narrow : Config :=
  { Config.small with streamCapacity := 1 }

theorem create_narrow (mode : Mode) (cbs : Callbacks) (script : List Reply)
    (pulls : List Pull) :
    (Engine.create mode Config.narrow cbs script pulls).isSome :=
  rfl

/-- A run of an engine with one slot and all callbacks. -/
def narrowRun (mode : Mode) (script : List Reply) (pulls : List Pull)
    (ops : List Op) : Engine :=
  ((Engine.create mode Config.narrow Callbacks.all script pulls).get
    (create_narrow mode Callbacks.all script pulls)).run ops

/--
A client asks twice, is then allowed one request at a time, gets the first
answer, and asks again.
-/
def thriftyOps : List Op :=
  [.recv [0, 0, 0, 4, 0, 0, 0, 0, 0],
    .call (.submitRequestEx [] (.flat []) 0 0 false),
    .call (.submitRequestEx [] (.flat []) 0 0 false),
    .recv [0, 0, 6, 4, 0, 0, 0, 0, 0, 0, 3, 0, 0, 0, 1],
    .recv [0, 0, 0, 1, 5, 0, 0, 0, 1],
    .call (.submitRequestEx [] (.flat []) 0 0 false)]

/-- Late credit for the first stream. -/
def lateCredit : FrameHeader where
  length := 4
  type := 8
  flags := 0
  streamId := 1

/-- Before the client asks again, both tables have the first stream's slot. -/
theorem late_control_alike :
    (smallRun .client [] [] (thriftyOps.take 5)).Ignores lateCredit
      [0, 0, 0, 1] ↔
    (narrowRun .client [] [] (thriftyOps.take 5)).Ignores lateCredit
      [0, 0, 0, 1] := by
  refine (@late_control_alike_iff _ _ 1 _ _ _ (smallRun_reachable _ _ _ _)
    (reachable_run (create_narrow _ _ _ _) _) _ _ ?_ ?_ ?_ ?_ ?_).mpr ?_
  · exact .inl (by decide)
  · exact .inl (by decide)
  · exact ⟨rfl, .inl ⟨rfl, by decide⟩⟩
  · exact ⟨by decide, by decide, by decide, nofun⟩
  · exact ⟨by decide, by decide, by decide, nofun⟩
  · decide

/--
Behind the third request they have not: the wider table holds the second
stream, so that the request is refused and the first stream keeps its slot;
in the narrow table the new stream has taken it.
-/
theorem late_control_differs : Reachable .client Config.small Callbacks.all
      (smallRun .client [] [] thriftyOps) ∧
    Reachable .client { Config.small with streamCapacity := 1 }
      Callbacks.all (narrowRun .client [] [] thriftyOps) ∧
    .closed 1 .ended ∈ (smallRun .client [] [] thriftyOps).world.log ∧
    .closed 1 .ended ∈ (narrowRun .client [] [] thriftyOps).world.log ∧
    ((smallRun .client [] [] thriftyOps).recv
      [0, 0, 4, 8, 0, 0, 0, 0, 1, 0, 0, 0, 1]).world.proto.failed = false ∧
    (narrowRun .client [] [] thriftyOps).world.proto.failed = false ∧
    ((narrowRun .client [] [] thriftyOps).recv
      [0, 0, 4, 8, 0, 0, 0, 0, 1, 0, 0, 0, 1]).world.proto.failed =
      true := by
  refine ⟨smallRun_reachable _ _ _ _, reachable_run (create_narrow _ _ _ _) _,
    ?_⟩
  decide

end Chttp.H2
