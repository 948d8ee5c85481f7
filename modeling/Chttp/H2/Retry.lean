import Chttp.H2.Simulation.Engine

/-!
# Submissions which fail

What a submission leaves behind when it reports an error and the engine is
still usable.  Credit is granted, and a stream is marked as ended, before the
frame is known to fit, and the connection preface may be queued on the way.
-/

namespace Chttp.H2

open Lib Hpack

/-- The submissions for a stream, and credit for the connection. -/
def Call.submits : Call → Bool
  | .submitWindowUpdate .. | .submitHeaders .. | .submitResponseEx
      .. | .submitData ..
  | .submitTrailers .. | .submitRstStream .. => true
  | _ => false

namespace World

/--
What a caller retries on: the streams but for their trailer buffers, the
windows of the connection and the queued octets.
-/
def books (world : World) : List Stream × Int × Int × Bytes :=
  (world.proto.streams.map fun stream => { stream with trailers := [] },
    world.proto.connSendWindow, world.proto.connRecvWindow,
    world.proto.out.data)

/-- A submission passes the checks ahead of `proto_ensure_preface`. -/
def Reaches (world : World) : Call → Prop
  | .submitWindowUpdate .. => True
  | .submitRstStream id _ => 0 < id
  | .submitHeaders id _ _ | .submitResponseEx id _ _ | .submitTrailers id _ =>
    world.proto.mode = .server ∧ ∃ found, found ∈ world.findOpen id
  | .submitData id data endStream =>
    (data ≠ [] ∨ endStream = true) ∧ ∃ found ∈ world.findOpen id,
      ¬(found.2.body.isSome ∨ found.2.source ∨ found.2.endStreamSent)
  | _ => False

/-- The engine has announced itself, or a server has not seen its client. -/
def Settled (world : World) : Prop :=
  match world.proto.mode with
  | .client => world.proto.clientPrefaceDone = true
  | .server =>
    world.proto.serverPrefaceSeen = true → world.proto.settingsSent = true

/-- There is room for the preface of a client, or the SETTINGS of a server. -/
def HasRoom (world : World) : Prop :=
  (match world.proto.mode with
    | .client => prefaceLen + 2 * frameHeaderSize + 42 + 4
    | .server => (settingsFrame world.proto).octets.length) ≤
      world.proto.out.maxCapacity - world.proto.out.size

/-- Behind the preface, a submission changes the engine before its last check.
-/
def Hasty (world : World) : Call → Prop
  | .submitWindowUpdate id increment => 0 < increment.toNat ∧
      increment.toNat ≤ maxWindow ∧
      (id = 0 ∧ world.proto.connRecvWindow + increment.toNat ≤ maxWindow ∨
        0 < id ∧ ∃ found ∈ world.findOpen id,
          found.2.recvWindow + increment.toNat ≤ maxWindow)
  | .submitResponseEx id _ body => world.proto.mode = .server ∧
      ∃ found ∈ world.findOpen id, body.isEmpty ≠ found.2.endStreamSent
  | .submitTrailers id _ => world.proto.mode = .server ∧
      ∃ found ∈ world.findOpen id,
      ¬found.2.trailersPending ∧ ¬found.2.bodyPending ∧
        (¬found.2.endStreamSent ∨ found.2.bodyEof)
  | _ => False

end World

variable {world : World} {id : Int} {late : Prop}

/-- A submission which fails keeps the books unless it is late. -/
def Keeps (world : World) (result : World × Bool) (late : Prop) : Prop :=
  result.2 = false → result.1.proto.failed = false →
    (result.1.books = world.books ↔ ¬late)

theorem keeps_refused (not : ¬late) : Keeps world (world, false) late :=
  fun _ _ => iff_of_true rfl not

/-- A step, and what follows if it succeeds. -/
def andThen (first : World × Bool) (rest : World → World × Bool) :
    World × Bool :=
  match first with
  | (world, false) => (world, false)
  | (world, true) => rest world

/-- A step which fails queues no octets. -/
def Mute (world : World) (result : World × Bool) : Prop :=
  result.2 = false → result.1.proto.failed = false →
    result.1.proto.out.data = world.proto.out.data

theorem mute_refused : Mute world (world, false) := fun _ _ => rfl

theorem outFrame_size {marked : World}
    (same : marked.proto.out = world.proto.out)
    (frame : Frame) :
    world.proto.out.size ≤ (outFrame marked frame).1.proto.out.size := by
  rcases outFrame_spec marked frame with ⟨equal, -⟩ | ⟨queued, equal, isQueued⟩
  · rw [equal, same]
  · rw [equal, isQueued.size, same]
    omega

theorem grantWindow_size (world : World) (id : Int) (increment : Nat) :
    world.proto.out.size ≤
      (grantWindow world id increment).1.proto.out.size := by
  rw [grantWindow]
  repeat' split
  all_goals first
    | exact le_rfl
    | refine outFrame_size ?_ _
      rfl

/-- The announcement queues octets, or nothing if its SETTINGS do not fit. -/
theorem announce_cases (world : World) :
    announce world = (world, false) ∧
        world.proto.out.maxCapacity - world.proto.out.size <
          (settingsFrame world.proto).octets.length ∨
      (settingsFrame world.proto).octets.length ≤
          world.proto.out.maxCapacity - world.proto.out.size ∧
        world.proto.out.size < (announce world).1.proto.out.size := by
  have octets : (settingsFrame world.proto).octets.length =
      frameHeaderSize + (settingsFrame world.proto).payload.length := by
    simp only [Frame.octets, List.length_append]
    rfl
  rcases submitSettings_spec world with ⟨equal, unfit⟩ | ⟨queued, equal,
    isQueued⟩
  · refine .inl ⟨by rw [announce, equal], Nat.lt_of_not_le fun room => unfit ?_⟩
    have short := length_announcedSettings_le world.proto
    refine ⟨le_rfl, Int.natCast_nonneg maxWindow, ?_, octets ▸ room⟩
    simp only [settingsFrame, maxFrameBytes]
    omega
  · have grown := isQueued.size
    have capacity : queued.proto.out.maxCapacity =
        world.proto.out.maxCapacity :=
      congrArg Conn.outCapacity isQueued.becomes.conn
    have bounded : queued.proto.out.size ≤ queued.proto.out.maxCapacity :=
      queued.proto.out.bounded
    refine .inr ⟨by omega, ?_⟩
    rw [announce, equal]
    simp only
    have header : 0 < frameHeaderSize := by decide
    have first : world.proto.out.size <
        (queued.update fun proto =>
          { proto with settingsSent := true }).proto.out.size := by
      change _ < queued.proto.out.size
      omega
    split
    · exact first.trans_le (grantWindow_size _ _ _)
    · exact first

/-- What `proto_ensure_preface` leads to. -/
theorem ensurePreface_cases (world : World) :
    world.Settled ∧ ensurePreface world = (world, true) ∨
      ¬world.Settled ∧ ¬world.HasRoom ∧ ensurePreface world = (world, false) ∨
      (¬world.Settled ∧ world.HasRoom) ∧
        world.proto.out.size < (ensurePreface world).1.proto.out.size := by
  rw [ensurePreface, World.Settled, World.HasRoom]
  cases world.proto.mode with
  | client =>
    simp only [Buffer.reserve, decide_eq_true_eq]
    split_ifs with done room
    · exact .inl ⟨done, rfl⟩
    · refine .inr (.inr ⟨⟨done, room⟩, ?_⟩)
      split
      · rename_i refused
        rw [Buffer.write,
          dif_pos (by rw [length_clientPreface]; omega)] at refused
        cases refused
      · rename_i out written
        have grown : world.proto.out.size < out.size := by
          have contents := (Buffer.write_eq_some_iff.mp written).1
          rw [Buffer.size, Buffer.size, contents, List.length_append,
            length_clientPreface]
          exact Nat.lt_add_of_pos_right (by decide)
        rcases announce_cases ((world.update fun proto =>
            { proto with out, clientPrefaceDone := true }).note .preface) with
          ⟨equal, -⟩ | ⟨-, more⟩
        · rw [equal]
          exact grown
        · exact grown.trans more
    · exact .inr (.inl ⟨done, room, rfl⟩)
  | server =>
    simp only [Classical.not_imp]
    split_ifs with unsent
    · rcases announce_cases world with ⟨equal, full⟩ | ⟨room, grown⟩
      · exact .inr (.inl ⟨by simpa using unsent, Nat.not_le.mpr full, equal⟩)
      · exact .inr (.inr ⟨⟨by simpa using unsent, room⟩, grown⟩)
    · exact .inl ⟨by simpa using unsent, rfl⟩

/-- The preface is in the output when a later check fails. -/
theorem keeps_preface {reached : Prop} {rest : World → World × Bool}
    (reaches : reached) (silent : ∀ world, Mute world (rest world))
    (keeps : Keeps world (rest world) late) :
    Keeps world (andThen (ensurePreface world) rest)
      (reached ∧ (¬world.Settled ∧ world.HasRoom ∨ world.Settled ∧ late)) := by
  rcases ensurePreface_cases world with
    ⟨settled, equal⟩ | ⟨unsettled, full, equal⟩ | ⟨due, grown⟩
  · rw [equal]
    simpa [andThen, settled, reaches] using keeps
  · rw [equal]
    exact keeps_refused (by simp [unsettled, full])
  · intro refused sound
    refine iff_of_false (fun same => ?_) (not_not_intro ⟨reaches, .inl due⟩)
    have same : (andThen (ensurePreface world) rest).1.proto.out.data =
        world.proto.out.data := congrArg (·.2.2.2) same
    rcases ensured : ensurePreface world with ⟨queued, _ | _⟩ <;>
      rw [ensured] at same grown refused sound
    · exact grown.ne' (congrArg List.length same)
    · exact grown.ne'
        (congrArg List.length ((silent queued refused sound).symm.trans same))

theorem books_updateStream {slot : Nat} {stream : Stream}
    {change : Stream → Stream}
    (present : world.proto.streams[slot]? = some stream) :
    (world.updateStream slot change).books = world.books ↔
      { change stream with trailers := [] } =
        { stream with trailers := [] } := by
  simp only [World.books, World.updateStream, World.update, Prod.mk.injEq,
    and_true]
  constructor
  · intro same
    simpa [present] using congrArg (·[slot]?) same
  · intro same
    refine List.ext_getElem? fun other => ?_
    by_cases here : slot = other
    · subst here
      simp [present, same]
    · simp [here]

theorem outHeaderFrames_broken {flags : UInt8} {rounds : Nat} {type : FrameType}
    {block : Bytes}
    {after : World}
    (broken : outHeaderFrames id flags rounds type block world =
      (after, false)) :
    after.proto.failed = true := by
  induction rounds generalizing type block world with
  | zero => cases broken
  | succ rounds ih =>
    rw [outHeaderFrames] at broken
    split at broken
    · cases broken
      exact (protoFail_unread _ _).1
    · split_ifs at broken
      · cases broken
      · exact ih broken

theorem outHeaders_refused {headers : List Entry} {endStream : Bool}
    {after : World}
    (refused : outHeaders world id headers endStream none = (after, false))
    (sound : after.proto.failed = false) : after = world := by
  have usable : ¬after.proto.failed = true := by simp [sound]
  rw [outHeaders] at refused
  split at refused
  · cases refused
    rfl
  split at refused
  · split at refused
    · cases refused
      rfl
    split at refused
    · cases refused
      exact absurd (protoFail_unread _ _).1 usable
    · exact absurd (outHeaderFrames_broken refused) usable
  · cases refused
    rfl

section

variable {marked : World} (same : marked.proto.out.data = world.proto.out.data)

include same

theorem mute_outFrame (frame : Frame) : Mute world (outFrame marked frame) := by
  intro refused sound
  rcases outFrame_spec marked frame with ⟨equal, -⟩ | ⟨queued, equal, -⟩
  · rw [equal]
    exact same
  · rw [equal] at refused
    cases refused

theorem mute_outHeaders (headers : List Entry) (endStream : Bool) :
    Mute world (outHeaders marked id headers endStream none) := by
  intro refused sound
  rcases sent : outHeaders marked id headers endStream
    none with ⟨after, _ | _⟩ <;>
    rw [sent] at refused sound
  · rw [outHeaders_refused sent sound]
    exact same
  · cases refused

end

/-- A call which cannot fail may follow a mute one. -/
theorem Mute.accepted {first : World × Bool} {rest : World → World × Bool}
    (silent : Mute world first) (accepts : ∀ world, (rest world).2 = true) :
    Mute world (andThen first rest) := by
  rcases first with ⟨queued, _ | _⟩
  · exact silent
  · intro refused
    simp [andThen, accepts] at refused

theorem mute_grantWindow (world : World) (increment : Nat) :
    Mute world (grantWindow world id increment) := by
  rw [grantWindow]
  repeat' split
  all_goals first
    | exact mute_refused
    | exact mute_outFrame rfl _

section

variable {marked : World} (marks : marked.books = world.books ↔ ¬late)

include marks

theorem keeps_outFrame (frame : Frame) :
    Keeps world (outFrame marked frame) late := by
  intro refused sound
  rcases outFrame_spec marked frame with ⟨equal, -⟩ | ⟨queued, equal, -⟩
  · rw [equal]
    exact marks
  · rw [equal] at refused
    cases refused

theorem keeps_outHeaders (headers : List Entry) (endStream : Bool) :
    Keeps world (outHeaders marked id headers endStream none) late := by
  intro refused sound
  rcases sent : outHeaders marked id headers endStream
    none with ⟨after, _ | _⟩ <;>
    rw [sent] at refused sound
  · rw [outHeaders_refused sent sound]
    exact marks
  · cases refused

end

theorem grantWindow_keeps (increment : UInt32) :
    Keeps world (grantWindow world id increment.toNat)
    (world.Hasty (.submitWindowUpdate id increment)) := by
  rw [grantWindow]
  split
  · refine keeps_refused ?_
    rintro ⟨_, _, _⟩
    omega
  rename_i bad
  rw [show frameWindowUpdateEncode increment.toNat =
    some (writeU32 increment.toNat) by
    rw [frameWindowUpdateEncode, if_neg]
    simp only [maxWindow] at bad
    omega]
  simp only
  split
  · rename_i connection
    subst connection
    split
    · exact keeps_refused (by simp [World.Hasty]; omega)
    · refine keeps_outFrame (iff_of_false (fun same => ?_)
        (not_not_intro ⟨by omega, by omega, .inl ⟨rfl, by omega⟩⟩)) _
      have same : world.proto.connRecvWindow + increment.toNat =
          world.proto.connRecvWindow :=
        congrArg (·.2.2.1) same
      omega
  split
  · exact keeps_refused (by simp [World.Hasty, *])
  · rename_i slot stream found
    split
    · exact keeps_refused (by simp [World.Hasty, *]; omega)
    · refine keeps_outFrame (iff_of_false (fun same => ?_) (not_not_intro
        ⟨by omega, by omega, .inr ⟨by omega, _, found, by dsimp only; omega⟩⟩))
          _
      have same := congrArg Stream.recvWindow
        ((books_updateStream (findOpen_spec found).1.1).mp same)
      simp only at same
      omega

/-- A call which cannot fail may follow one which keeps. -/
theorem Keeps.accepted {first : World × Bool} {rest : World → World × Bool}
    (keeps : Keeps world first late)
    (accepts : ∀ world, (rest world).2 = true) :
    Keeps world (andThen first rest) late := by
  rcases first with ⟨queued, _ | _⟩
  · exact keeps
  · intro refused
    simp [andThen, accepts] at refused

theorem queueTrailers_out {slot : Nat} {headers : List Entry}
    (refused : (queueTrailers world slot id headers).2 = false) :
    (queueTrailers world slot id headers).1.proto.out.data =
      world.proto.out.data := by
  rw [queueTrailers] at refused ⊢
  split at refused
  · rfl
  split at refused
  · rfl
  · cases refused

theorem queueTrailers_books {slot : Nat} {stream : Stream}
    {headers : List Entry}
    (present : world.proto.streams[slot]? = some stream)
    (refused : (queueTrailers world slot id headers).2 = false) :
    (queueTrailers world slot id headers).1.books = world.books := by
  rw [queueTrailers] at refused ⊢
  split at refused
  · rfl
  split at refused
  · exact (@books_updateStream (world.update _) _ _ _ present).mpr rfl
  · cases refused

/-- A submission which fails has changed the books by then. -/
def World.Late (world : World) (call : Call) : Prop := world.Reaches call ∧
    (¬world.Settled ∧ world.HasRoom ∨ world.Settled ∧ world.Hasty call)

theorem keeps_unreached {call : Call} (not : ¬world.Reaches call) :
    Keeps world (world, false) (world.Late call) :=
  keeps_refused fun late => not late.1

section

variable (hook : Hook) (world : World) (id : Int)

theorem submitRstStream_keeps (errorCode : UInt32) :
    Keeps world (submitRstStream hook world id errorCode.toNat)
      (world.Late (.submitRstStream id errorCode)) := by
  rw [submitRstStream]
  split
  · exact keeps_unreached (by simp [World.Reaches]; omega)
  refine keeps_preface (Int.lt_of_not_ge ‹_›) (fun world => ?_) ?_
  · split
    · exact mute_refused
    · exact (mute_outFrame rfl _).accepted fun _ => rfl
  · split
    · exact keeps_refused (by simp [World.Hasty])
    · exact (keeps_outFrame (iff_of_true rfl not_false) _).accepted fun _ =>
        rfl

theorem submitHeaders_keeps (headers : List Entry) (endStream : Bool) :
    Keeps world (submitHeaders hook world id headers endStream)
      (world.Late (.submitHeaders id headers endStream)) := by
  rw [submitHeaders]
  split
  · exact keeps_unreached (by simp [World.Reaches, *])
  rename_i server
  split
  · exact keeps_unreached (by simp [World.Reaches, *])
  rename_i slot stream found
  have accepts : ∀ world : World, (if endStream then
      (maybeClose hook
        ((world.note (.submitted id (.headers endStream))).updateStream
        slot fun stream => { stream with endStreamSent := true }) slot, true)
      else (world.note (.submitted id (.headers endStream)), true)).2 =
        true := by
    intro world
    split <;> rfl
  refine keeps_preface ⟨not_not.mp server, _, found⟩ (fun world => ?_) ?_
  · exact (mute_outHeaders rfl _ _).accepted accepts
  · exact (keeps_outHeaders (iff_of_true rfl not_false) _ _).accepted accepts

theorem submitResponseEx_keeps (headers : List Entry) (body : Body) :
    Keeps world (submitResponseEx hook world id headers body)
      (world.Late (.submitResponseEx id headers body)) := by
  rw [submitResponseEx]
  split
  · exact keeps_unreached (by simp [World.Reaches, *])
  rename_i server
  split
  · exact keeps_unreached (by simp [World.Reaches, *])
  rename_i slot stream found
  refine keeps_preface ⟨not_not.mp server, _, found⟩ (fun world => ?_) ?_
  · refine (mute_outHeaders rfl _ _).accepted fun world => ?_
    split <;> rfl
  refine (keeps_outHeaders ?_ _ _).accepted fun world => ?_
  · rw [books_updateStream (findOpen_spec found).1.1]
    simp [World.Hasty, found, Classical.not_not.mp server]
  · split <;> rfl

theorem submitData_keeps (data : Bytes) (endStream : Bool) :
    Keeps world (submitData world id data endStream)
      (world.Late (.submitData id data endStream)) := by
  rw [submitData]
  split
  · exact keeps_unreached (by simp_all [World.Reaches])
  split
  · exact keeps_unreached (by simp [World.Reaches, *])
  rename_i inhabited _ slot stream found
  split
  · rename_i pending
    refine keeps_unreached ?_
    rintro ⟨-, other, there, idle⟩
    cases found.symm.trans there
    exact idle pending
  · rename_i idle
    refine keeps_preface ⟨?_, _, found, idle⟩ (by simp [Mute])
      (by simp [Keeps])
    simpa [or_iff_not_imp_left] using inhabited

theorem submitTrailers_keeps (headers : List Entry) :
    Keeps world (submitTrailers hook world id headers)
      (world.Late (.submitTrailers id headers)) := by
  rw [submitTrailers]
  split
  · exact keeps_unreached (by simp [World.Reaches, *])
  rename_i server
  split
  · exact keeps_unreached (by simp [World.Reaches, *])
  rename_i slot stream found
  refine keeps_preface ⟨not_not.mp server, _, found⟩ (fun world => ?_) ?_
  · split
    · exact mute_refused
    split
    · exact fun refused _ => queueTrailers_out refused
    · exact (mute_outHeaders rfl _ _).accepted fun _ => rfl
  split
  · exact keeps_refused (by simp [World.Hasty, *])
  split
  · exact fun refused _ => iff_of_true
      (queueTrailers_books (findOpen_spec found).1.1 refused)
      (by simp [World.Hasty, *])
  refine (keeps_outHeaders ?_ _ _).accepted fun _ => rfl
  rw [books_updateStream (findOpen_spec found).1.1]
  simp_all [World.Hasty]
end

/--
A submission which fails, and leaves the engine usable, keeps the streams, the
windows of the connection and the queued output, unless it comes to
`proto_ensure_preface` and this queues the preface, or it was one of three:
credit which is granted before its frame does not fit, and a response or
trailers which mark the stream as ended before their header block is refused.
-/
theorem failed_submission_kept_iff (hook : Hook) (world : World) {call : Call}
    (submits : call.submits = true)
    (refused : (perform hook world call).2 = false)
    (sound : (perform hook world call).1.proto.failed = false) :
    (perform hook world call).1.books = world.books ↔
      ¬(world.Reaches call ∧
        (¬world.Settled ∧ world.HasRoom ∨ world.Settled ∧
          world.Hasty call)) := by
  suffices keeps : Keeps world (perform hook world call) (world.Late call) from
    keeps refused sound
  clear refused sound
  cases call with
  | submitWindowUpdate id increment =>
    exact keeps_preface trivial (fun world => mute_grantWindow world _)
      (grantWindow_keeps increment)
  | submitRstStream => exact submitRstStream_keeps hook world _ _
  | submitHeaders => exact submitHeaders_keeps hook world _ _ _
  | submitResponseEx => exact submitResponseEx_keeps hook world _ _ _
  | submitData => exact submitData_keeps world _ _ _
  | submitTrailers => exact submitTrailers_keeps hook world _ _
  | _ => cases submits

/-- A server which has read a request of a client which takes no header lists.
-/
def deafRun : Engine := smallRun .server [] []
    [.recv
      (clientPreface ++ [0, 0, 6, 4, 0, 0, 0, 0, 0, 0, 6, 0, 0, 0, 1] ++
        [0, 0, 0, 1, 4, 0, 0, 0, 1])]

/-- A HEADERS frame which is refused leaves no trace. -/
theorem failed_submission_kept_headers :
    let call := .submitHeaders 1 [⟨[97], [98]⟩] true
    (perform (application 0) deafRun.world call).2 = false ∧
      (perform (application 0) deafRun.world call).1.books =
        deafRun.world.books := by
  refine ⟨by decide, (failed_submission_kept_iff _ _ rfl ?_ ?_).mpr ?_⟩
  · decide
  · decide
  · rintro ⟨-, ⟨unsettled, -⟩ | ⟨-, ⟨⟩⟩⟩
    exact unsettled fun _ =>
      (by decide : deafRun.world.proto.settingsSent = true)

/--
Trailers which are refused end the stream all the same, and a reset which
names no stream leaves the preface of a client in the output.
-/
theorem failed_submission_not_kept :
    (Reachable .server Config.small Callbacks.all deafRun ∧
      let result :=
        perform (application 0) deafRun.world (.submitTrailers 1 [⟨[97], [98]⟩])
      result.2 = false ∧ result.1.proto.failed = false ∧
        deafRun.world.proto.streams.map (·.endStreamSent) = [false] ∧
        result.1.proto.streams.map (·.endStreamSent) = [true]) ∧
    let engine := smallRun .client [] [] []
    Reachable .client Config.small Callbacks.all engine ∧
      let result := perform (application 0) engine.world (.submitRstStream 1 0)
      result.2 = false ∧ result.1.proto.failed = false ∧
        result.1.proto.out.data ≠ [] := by
  refine ⟨⟨smallRun_reachable _ _ _ _, ?_⟩, smallRun_reachable _ _ _ _, ?_⟩
  · decide
  · decide

end Chttp.H2
