import Chttp.H2.Table

/-!
# Steps of the output helpers

What `out_frame`, the connection preface, `proto_fail` and `out_headers` do
to the abstraction of an engine.
-/

namespace Chttp.H2

open Lib Hpack

/-! ## Worlds and steps -/

/-- A world with a given abstraction, in the same header block as before. -/
structure Becomes (world : World) (conn : Conn) (world' : World) : Prop where
  conn : world'.conn = conn
  reading : world'.proto.inHeadersStream = world.proto.inHeadersStream

/-- A world became another one by steps, in the same header block. -/
structure Moves (world world' : World) : Prop where
  steps : Steps world.conn world'.conn
  reading : world'.proto.inHeadersStream = world.proto.inHeadersStream

theorem Moves.refl (world : World) : Moves world world := ⟨.refl, rfl⟩

/-- Moves compose. -/
theorem Moves.trans {first second third : World} (left : Moves first second)
    (right : Moves second third) : Moves first third :=
  ⟨left.steps.trans right.steps, right.reading.trans left.reading⟩

variable {world world' : World} {conn conn' : Conn}

/-- A move keeps the connection live. -/
theorem Moves.live (moves : Moves world world') (live : Live world.conn) :
    Live world'.conn :=
  live.steps moves.steps

/-- Steps of the connection which the world takes are a move. -/
theorem Becomes.moves (becomes : Becomes world conn world')
    (steps : Steps world.conn conn) : Moves world world' :=
  ⟨becomes.conn ▸ steps, becomes.reading⟩

/-- One step of the connection which the world takes is a move. -/
theorem Becomes.step (becomes : Becomes world conn world')
    (step : Step world.conn conn) : Moves world world' :=
  becomes.moves (.single step)

/-- The last of two changes counts. -/
theorem Becomes.trans {first second third : World}
    (left : Becomes first conn second)
    (right : Becomes second conn' third) : Becomes first conn' third :=
  ⟨right.conn, right.reading.trans left.reading⟩

@[simp]
theorem conn_called (world : World) (call : Call) (succeeded : Bool) :
    (world.note (.called call succeeded)).conn =
      world.conn.note (.called call succeeded) := rfl

theorem called_moves (world : World) {call : Call}
    (neutral : call.neutral = true)
    (succeeded : Bool) : Moves world (world.note (.called call succeeded)) :=
  Becomes.step ⟨conn_called world call succeeded, rfl⟩ (Step.note neutral)

@[simp]
theorem conn_submitted (world : World) (id : Int) (submission : Submission) :
    (world.note (.submitted id submission)).conn =
      world.conn.note (.submitted id submission) := rfl

@[simp]
theorem conn_blockBroken (world : World) (id : Int) :
    (world.note (.blockBroken id)).conn = world.conn.note (.blockBroken id) :=
      rfl

@[simp]
theorem conn_updateStream (world : World) (slot : Nat)
    (change : Stream → Stream) :
    (world.updateStream slot change).conn =
      world.conn.updateStream slot change := rfl

/-- The output changes as an event says. -/
theorem conn_output {out : Buffer} {event : Event}
    (same : out.maxCapacity = world.proto.out.maxCapacity)
    (output : event.output (some world.proto.out.data) = some out.data) :
    ((world.update fun proto => { proto with out }).note event).conn =
      world.conn.note event := by
  simp only [World.conn, World.update, World.note, Conn.note, same, output]
  rfl

/-- The events of a list are neutral. -/
def Neutral (events : List Event) : Prop :=
  ∀ event ∈ events, event.neutral = true

/-- Neutral events one behind the other. -/
theorem Neutral.append {first second : List Event} (left : Neutral first)
    (right : Neutral second) : Neutral (first ++ second) :=
  List.forall_mem_append.mpr ⟨left, right⟩

theorem Neutral.single {event : Event} (neutral : event.neutral = true) :
    Neutral [event] :=
  List.forall_mem_singleton.mpr neutral

theorem notes_notes (conn : Conn) (first second : List Event) :
    (conn.notes first).notes second = conn.notes (first ++ second) := by
  simp [Conn.notes]

theorem note_notes (conn : Conn) (event : Event) (events : List Event) :
    (conn.note event).notes events = conn.notes (event :: events) := by
  simp [Conn.note, Conn.notes]

theorem notes_nil (conn : Conn) : conn.notes [] = conn := by
  simp [Conn.notes]

/-- Neutral events are steps of the connection. -/
theorem Neutral.steps {events : List Event} (neutral : Neutral events)
    (conn : Conn) : Steps conn (conn.notes events) := by
  induction events generalizing conn with
  | nil => rw [notes_nil]
  | cons event events induction =>
    have first : Step conn (conn.note event) :=
      Step.note (neutral event (by simp))
    have rest :=
      induction (fun other member => neutral other (by simp [member]))
        (conn.note event)
    rw [note_notes] at rest
    exact .head first rest

/-! ## Frames -/

/-- The conditions under which a frame is queued. -/
def FrameFits (proto : Proto) (frame : Frame) : Prop :=
  0 ≤ frame.streamId ∧ frame.streamId ≤ maxWindow ∧
    frame.payload.length ≤ maxFrameBytes ∧
    frameHeaderSize + frame.payload.length ≤
      proto.out.maxCapacity - proto.out.size

/-- A frame was queued. -/
structure Queued (world : World) (frame : Frame) (queued : World) : Prop where
  becomes : Becomes world (world.conn.note (.frame frame)) queued
  size : queued.proto.out.size =
    world.proto.out.size + frameHeaderSize + frame.payload.length

theorem length_of_frameHeaderEncode {header : FrameHeader} {octets : Bytes}
    (encoded : frameHeaderEncode header = some octets) :
    octets.length = frameHeaderSize := by
  rw [frameHeaderEncode] at encoded
  split at encoded
  · cases encoded
  · cases encoded
    rfl

/-- A frame is queued if there is room for it. -/
theorem outFrame_spec (world : World) (frame : Frame) :
    outFrame world frame = (world, false) ∧ ¬FrameFits world.proto frame ∨
      ∃ queued,
        outFrame world frame = (queued, true) ∧ Queued world frame queued := by
  rw [outFrame]
  split
  · left
    refine ⟨rfl, ?_⟩
    rintro ⟨positive, -⟩
    omega
  rename_i notNegative
  split
  · rename_i refused
    left
    refine ⟨rfl, ?_⟩
    rintro ⟨-, small, short, -⟩
    rw [frameHeaderEncode] at refused
    split at refused
    · rename_i bad
      simp only [maxWindow] at small
      simp only at bad
      omega
    · cases refused
  rename_i header encoded
  have headerLength := length_of_frameHeaderEncode encoded
  split
  · rename_i refused
    left
    refine ⟨rfl, ?_⟩
    rintro ⟨-, -, -, fits⟩
    rw [Buffer.write] at refused
    split at refused
    · cases refused
    · rename_i unfit
      rw [List.length_append, headerLength] at unfit
      exact unfit fits
  rename_i out written
  have contents := Buffer.write_eq_some_iff.mp written
  right
  refine ⟨_, rfl, ⟨?_, rfl⟩, ?_⟩
  · refine conn_output contents.2 ?_
    rw [frameHeaderEncode] at encoded
    split at encoded
    · cases encoded
    · cases encoded
      simp [Event.output, Frame.octets, contents.1]
  · change out.data.length = _
    rw [contents.1, List.length_append, List.length_append, headerLength,
      Buffer.size]
    omega

/-- Queueing a neutral frame is a move. -/
theorem Queued.moves {queued : World} {frame : Frame}
    (isQueued : Queued world frame queued)
    (neutral : (Event.frame frame).neutral = true) : Moves world queued :=
  isQueued.becomes.step (Step.note neutral)

/-! ## The connection preface -/

/-- What queueing the connection preface may do to a connection. -/
inductive Announced (conn : Conn) : Conn → Prop where
  | same : Announced conn conn
  | granted {events : List Event} :
      conn.announced = false →
        Neutral events →
        conn.connRecvWindow + conn.enlargement ≤ maxWindow →
        Announced conn
          (Conn.notes
            { conn with
              announced := true
              connRecvWindow := conn.connRecvWindow + conn.enlargement }
            events)
  | refused {events : List Event} :
      conn.announced = false →
        Neutral events →
        maxWindow < conn.connRecvWindow + conn.enlargement →
        Announced conn (Conn.notes { conn with announced := true } events)

section

variable (announced : Announced conn conn')

include announced

/-- Queueing the preface takes steps of the connection. -/
theorem Announced.steps : Steps conn conn' := by
  cases announced with
  | same => exact .refl
  | granted unsent neutral fits =>
    exact .head (Step.announce unsent fits) (neutral.steps _)
  | refused unsent neutral exceeds =>
    exact .head (Step.announceRefused unsent exceeds) (neutral.steps _)

theorem Announced.eq_of_announced (sent : conn.announced = true) :
    conn' = conn := by
  cases announced with
  | same => rfl
  | granted unsent
  | refused unsent => cases sent.symm.trans unsent

/-- Queueing the preface changes no stream. -/
theorem Announced.kept :
    conn'.mode = conn.mode ∧ conn'.streams = conn.streams ∧
      conn'.nextStreamId = conn.nextStreamId ∧
      conn'.connConsumed = conn.connConsumed ∧ conn'.seen = conn.seen := by
  cases announced <;> exact ⟨rfl, rfl, rfl, rfl, rfl⟩

/-- Queueing the preface logs neutral events. -/
theorem Announced.log : ∃ events, Neutral events ∧
    conn'.log = conn.log ++ events := by
  cases announced with
  | same => exact ⟨[], by simp [Neutral], by simp⟩
  | granted _ neutral _ | refused _ neutral _ => exact ⟨_, neutral, rfl⟩

end

theorem Announced.setConsumed (conn : Conn) (consumed : Int)
    (announced : Announced { conn with connConsumed := consumed } conn') :
    ∃ mid, Announced conn mid ∧ conn' =
      { mid with connConsumed := consumed } := by
  cases announced with
  | same => exact ⟨conn, .same, rfl⟩
  | granted unsent neutral fits =>
    exact ⟨_, .granted unsent neutral fits, rfl⟩
  | refused unsent neutral exceeds =>
    exact ⟨_, .refused unsent neutral exceeds, rfl⟩

theorem length_announcedSettings_le (proto : Proto) :
    (frameSettingsEncode (announcedSettings proto)).length ≤ 42 := by
  have sixEach : ∀ settings : List Setting,
      (frameSettingsEncode settings).length = 6 * settings.length := by
    intro settings
    induction settings with
    | nil => rfl
    | cons => grind [frameSettingsEncode, writeU32]
  rw [sixEach, announcedSettings]
  by_cases noConnect : proto.localSettings.enableConnectProtocol = 0 <;>
    cases proto.mode <;> simp [noConnect]

/-- The SETTINGS frame of the preface. -/
def settingsFrame (proto : Proto) : Frame where
  type := .settings
  flags := 0
  streamId := 0
  payload := frameSettingsEncode (announcedSettings proto)

theorem submitSettings_spec (world : World) :
    submitSettings world = (world, false) ∧
      ¬FrameFits world.proto (settingsFrame world.proto) ∨
    ∃ queued, submitSettings world =
          (queued.update fun proto => { proto with settingsSent := true },
            true) ∧
        Queued world (settingsFrame world.proto) queued := by
  rcases outFrame_spec world (settingsFrame world.proto) with
    ⟨equal, unfit⟩ | ⟨queued, equal, isQueued⟩
  · left
    refine ⟨?_, unfit⟩
    rw [settingsFrame] at equal
    rw [submitSettings, equal]
  · right
    refine ⟨queued, ?_, isQueued⟩
    rw [settingsFrame] at equal
    rw [submitSettings, equal]

theorem windowUpdate_neutral (flags : UInt8) (streamId : Int)
    (payload : Bytes) :
    (Event.frame { type := .windowUpdate, flags, streamId, payload }).neutral =
      true := rfl

/-- Credit for the connection is granted if it stays below the limit. -/
theorem grantWindow_connection (world : World) (increment : Nat)
    (positive : 0 < increment) (small : increment ≤ maxWindow) :
    grantWindow world 0 increment = (world, false) ∧
        maxWindow < world.conn.connRecvWindow + increment ∨
      ∃ granted succeeded events,
        grantWindow world 0 increment = (granted, succeeded) ∧
          world.conn.connRecvWindow + increment ≤ maxWindow ∧
          Neutral events ∧
          Becomes world
            (Conn.notes
              { world.conn with connRecvWindow := world.conn.connRecvWindow +
                increment }
              events)
            granted := by
  rw [grantWindow, if_neg (by omega)]
  have encoded : frameWindowUpdateEncode increment =
      some (writeU32 increment) := by
    rw [frameWindowUpdateEncode, if_neg]
    simp only [maxWindow] at small
    omega
  rw [encoded]
  simp only [if_true]
  split
  · rename_i exceeds
    left
    refine ⟨rfl, ?_⟩
    change _ < world.proto.connRecvWindow + _
    omega
  rename_i fits
  right
  have below : world.conn.connRecvWindow + increment ≤ maxWindow := by
    change world.proto.connRecvWindow + _ ≤ _
    omega
  rcases outFrame_spec
      (world.update fun proto =>
        { proto with connRecvWindow := proto.connRecvWindow + increment })
      { type := .windowUpdate, flags := 0, streamId := 0,
        payload := writeU32 increment } with
    ⟨equal, -⟩ | ⟨queued, equal, isQueued⟩
  · refine ⟨_, _, [], equal, below, by simp [Neutral], ?_, rfl⟩
    rw [notes_nil]
    rfl
  · refine ⟨_, _, _, equal, below,
      Neutral.single (windowUpdate_neutral 0 0 (writeU32 increment)), ?_⟩
    exact ⟨isQueued.becomes.conn, isQueued.becomes.reading⟩

/-- The announcement behind queued SETTINGS grants the enlarged window. -/
theorem announce_of_sent {sent : World} {events : List Event}
    (bounded : Bounded conn)
    (unsent : conn.announced = false) (neutral : Neutral events)
    (settings : submitSettings world = (sent, true))
    (becomes : Becomes world (Conn.notes { conn with announced := true } events)
      sent) :
    ∃ conn', Announced conn conn' ∧ Becomes world conn' (announce world).1 ∧
        conn'.announced = true ∧
        ((announce world).2 = true →
          conn.connRecvWindow + conn.enlargement ≤ maxWindow) := by
  have sameLocal : sent.proto.connLocalWindow = conn.connLocalWindow :=
    congrArg Conn.connLocalWindow becomes.conn
  have sameRecv : sent.conn.connRecvWindow = conn.connRecvWindow := by
    rw [becomes.conn, Conn.notes_connRecvWindow]
  have localBound := bounded.connLocalWindow_le
  have recvBound := bounded.connRecvWindow
  rw [announce, settings]
  simp only [sameLocal]
  by_cases larger : (defaultWindow : Int) < conn.connLocalWindow
  · rw [if_pos larger]
    have amount : conn.enlargement =
        ((conn.connLocalWindow - defaultWindow).toNat : Int) := by
      rw [Conn.enlargement, if_pos larger]
      omega
    rcases grantWindow_connection sent
      (conn.connLocalWindow - defaultWindow).toNat (by omega)
        (by omega) with
      ⟨equal, exceeds⟩ | ⟨granted, succeeded, more, equal, fits, alsoNeutral,
        after⟩
    · rw [equal]
      rw [sameRecv, ← amount] at exceeds
      exact ⟨_, .refused unsent neutral exceeds, becomes, rfl, nofun⟩
    rw [equal]
    rw [sameRecv, ← amount] at fits
    refine ⟨_, .granted unsent (neutral.append alsoNeutral) fits, ?_, rfl,
      fun _ => fits⟩
    refine becomes.trans ⟨?_, after.reading⟩
    rw [after.conn, sameRecv, becomes.conn, ← amount, ← notes_notes]
    rfl
  rw [if_neg larger]
  have none : conn.enlargement = 0 := by
    rw [Conn.enlargement, if_neg larger]
  have fits : conn.connRecvWindow + conn.enlargement ≤ maxWindow := by
    rw [none]
    omega
  refine ⟨_, .granted unsent neutral fits, ?_, rfl, fun _ => fits⟩
  rw [none, Int.add_zero]
  exact becomes

/-- What `proto_ensure_preface` does. -/
structure Ensured (conn conn' : Conn) (succeeded : Bool) : Prop where
  announced : Announced conn conn'
  sent : succeeded = true → conn.mode = .client ∨ conn.seen = true →
    conn'.announced = true ∧
      (conn.announced = false →
        conn.connRecvWindow + conn.enlargement ≤ maxWindow)

theorem ensurePreface_of_announced (announced : world.conn.announced = true) :
    ensurePreface world = (world, true) := by
  have sent : world.proto.announced = true := announced
  rw [Proto.announced] at sent
  rw [ensurePreface]
  cases mode : world.proto.mode with
  | client | server =>
    rw [mode] at sent
    simp only at sent
    simp [sent]

theorem length_clientPreface : clientPreface.length = prefaceLen := by
  decide

theorem settingsFits {proto : Proto} {out : Buffer}
    (room : proto.out.reserve (prefaceLen + 2 * frameHeaderSize + 42 + 4) =
      true)
    (written : proto.out.write clientPreface = some out) (changed : Proto)
    (sameOut : changed.out = out) :
    FrameFits changed (settingsFrame changed) := by
  have contents := Buffer.write_eq_some_iff.mp written
  have short := length_announcedSettings_le changed
  rw [Buffer.reserve, decide_eq_true_eq, Buffer.size] at room
  simp only [prefaceLen, frameHeaderSize] at room
  refine ⟨le_rfl, Int.natCast_nonneg maxWindow, ?_, ?_⟩
  · simp only [settingsFrame, maxFrameBytes]
    omega
  · rw [sameOut, contents.2, Buffer.size, contents.1, List.length_append,
      length_clientPreface]
    simp only [settingsFrame, frameHeaderSize, prefaceLen]
    omega

theorem conn_settingsSent (world : World) :
    (world.update fun proto => { proto with settingsSent := true }).conn =
      { world.conn with
        announced := world.conn.announced || world.conn.mode = .server } := by
  cases mode : world.proto.mode with
  | client | server =>
    simp [World.conn, World.update, Proto.announced, mode]

/-- What `proto_ensure_preface` does to the abstraction. -/
theorem ensurePreface_spec (world : World) (bounded : Bounded world.conn) :
    ∃ conn',
    Ensured world.conn conn' (ensurePreface world).2 ∧
      Becomes world conn' (ensurePreface world).1 := by
  by_cases sent : world.conn.announced = true
  · rw [ensurePreface_of_announced sent]
    exact ⟨world.conn,
      ⟨.same, fun _ _ => ⟨sent, fun unsent => absurd sent (by simp [unsent])⟩⟩,
      rfl, rfl⟩
  have unsent : world.conn.announced = false :=
    Bool.eq_false_of_not_eq_true sent
  have nothing : Ensured world.conn world.conn false :=
    ⟨.same, nofun⟩
  rw [ensurePreface]
  cases mode : world.proto.mode with
  | client =>
    have fresh : world.proto.clientPrefaceDone = false := by
      have unannounced : world.proto.announced = false := unsent
      rw [Proto.announced, mode] at unannounced
      exact unannounced
    simp only [fresh, Bool.false_eq_true, if_false]
    by_cases room : world.proto.out.reserve
      (prefaceLen + 2 * frameHeaderSize + 42 + 4) = true
    · rw [if_pos room]
      split
      · exact ⟨world.conn, nothing, rfl, rfl⟩
      rename_i out written
      have contents := Buffer.write_eq_some_iff.mp written
      generalize opened :
        (world.update fun proto =>
          { proto with out, clientPrefaceDone := true }).note .preface =
            world'
      have before : world'.conn = Conn.notes
        { world.conn with announced := true }
            [.preface] := by
        rw [← opened]
        simp only [World.conn, World.update, World.note, Conn.notes,
          Proto.announced, contents, mode, List.foldl_cons, List.foldl_nil,
          Event.output, Option.map_some]
      have sameReading : world'.proto.inHeadersStream =
          world.proto.inHeadersStream := by
        rw [← opened]
        rfl
      have sameOut : world'.proto.out = out := by
        rw [← opened]
        rfl
      rcases submitSettings_spec world' with
        ⟨-, unfit⟩ | ⟨queued, settings, isQueued⟩
      · exact absurd (settingsFits room written _ sameOut) unfit
      have after :
          (queued.update fun proto =>
            { proto with settingsSent := true }).conn =
            Conn.notes { world.conn with announced := true }
              [.preface, .frame (settingsFrame world'.proto)] := by
        rw [conn_settingsSent, isQueued.becomes.conn, before]
        simp [Conn.note, Conn.notes]
      rcases announce_of_sent bounded unsent
          (by simp [Neutral, Event.neutral, settingsFrame]) settings
          ⟨after, isQueued.becomes.reading⟩ with
        ⟨conn', announced, becomes, nowSent, fits⟩
      exact ⟨conn', ⟨announced, fun ok _ => ⟨nowSent, fun _ => fits ok⟩⟩,
        becomes.conn, becomes.reading.trans sameReading⟩
    · rw [if_neg room]
      exact ⟨world.conn, nothing, rfl, rfl⟩
  | server =>
    have fresh : world.proto.settingsSent = false := by
      have unannounced : world.proto.announced = false := unsent
      rw [Proto.announced, mode] at unannounced
      exact unannounced
    simp only
    by_cases seen : world.proto.serverPrefaceSeen = true
    · rw [if_pos ⟨seen, by simp [fresh]⟩]
      rcases submitSettings_spec world with
        ⟨settings, -⟩ | ⟨queued, settings, isQueued⟩
      · rw [announce, settings]
        exact ⟨world.conn, nothing, rfl, rfl⟩
      have after :
          (queued.update fun proto =>
            { proto with settingsSent := true }).conn =
            Conn.notes { world.conn with announced := true }
              [.frame (settingsFrame world.proto)] := by
        have server : world.conn.mode = .server := mode
        rw [conn_settingsSent, isQueued.becomes.conn]
        simp [Conn.note, Conn.notes, server]
      rcases announce_of_sent bounded unsent
          (by simp [Neutral, Event.neutral, settingsFrame]) settings
          ⟨after, isQueued.becomes.reading⟩ with
        ⟨conn', announced, becomes, nowSent, fits⟩
      exact ⟨conn', ⟨announced, fun ok _ => ⟨nowSent, fun _ => fits ok⟩⟩,
        becomes⟩
    rw [if_neg (fun both => seen both.1)]
    refine ⟨world.conn, ⟨.same, ?_⟩, rfl, rfl⟩
    rintro - (client | isSeen)
    · have server : world.conn.mode = .server := mode
      rw [client] at server
      cases server
    · exact absurd isSeen seen

theorem ensurePreface_moves (live : Live world.conn) :
    Moves world (ensurePreface world).1 := by
  rcases ensurePreface_spec world live.bounded with ⟨conn', ensured, becomes⟩
  exact becomes.moves ensured.announced.steps

/-! ## GOAWAY and failure -/

/-- A GOAWAY frame is queued behind the preface. -/
theorem submitGoaway_spec (world : World) (lastStreamId errorCode : Nat)
    (bounded : Bounded world.conn) :
    ∃ conn' events, Announced world.conn conn' ∧ Neutral events ∧
      Becomes world (conn'.notes events)
          (submitGoaway world lastStreamId errorCode).1 := by
  have nothing : Neutral [] := by
    simp [Neutral]
  rw [submitGoaway]
  split
  · refine ⟨world.conn, [], .same, nothing, ?_, rfl⟩
    rw [notes_nil]
  rcases ensurePreface_spec world bounded with ⟨conn', ensured, becomes⟩
  cases preface : ensurePreface world with
  | mk prefaced succeeded =>
    rw [preface] at becomes
    have unchanged : Becomes world (conn'.notes []) prefaced := by
      rw [notes_nil]
      exact becomes
    cases succeeded with
    | false => exact ⟨conn', [], ensured.announced, nothing, unchanged⟩
    | true =>
      simp only
      split
      · exact ⟨conn', [], ensured.announced, nothing, unchanged⟩
      rename_i payload _
      rcases outFrame_spec prefaced
          { type := .goaway, flags := 0, streamId := 0, payload } with
        ⟨equal, -⟩ | ⟨queued, equal, isQueued⟩
      · rw [equal]
        exact ⟨conn', [], ensured.announced, nothing, unchanged⟩
      rw [equal]
      refine ⟨conn',
        [.frame
          { type := .goaway, flags := 0, streamId := 0, payload }],
        ensured.announced, Neutral.single rfl, ?_,
        isQueued.becomes.reading.trans becomes.reading⟩
      have after := isQueued.becomes.conn
      rw [becomes.conn] at after
      exact after

/-- An error of the protocol is a move. -/
theorem Moves.protoFail {start : World} (error : ErrorCode)
    (live : Live start.conn)
    (steps : Steps start.conn { world.conn with failed := true })
    (reading : world.proto.inHeadersStream = start.proto.inHeadersStream) :
    Moves start (protoFail world error) := by
  rw [H2.protoFail]
  split
  · rename_i failed
    have same : { world.conn with failed := true } = world.conn := by
      rw [World.conn, failed]
    rw [same] at steps
    exact ⟨steps, reading⟩
  rcases submitGoaway_spec
      (world.update fun proto =>
        { proto with failed := true, lastError := error.code })
      world.proto.lastProcStreamId.toNat error.code
      (live.steps steps).bounded with
    ⟨conn', events, announced, neutral, becomes⟩
  refine ⟨?_, becomes.reading.trans reading⟩
  have after := becomes.conn
  rw [World.update] at after
  simp only [World.update]
  rw [after]
  exact steps.trans (announced.steps.trans (neutral.steps conn'))

theorem protoFail_moves (live : Live world.conn)
    (error : ErrorCode) : Moves world (protoFail world error) :=
  Moves.protoFail error live (.single Step.fail) rfl

theorem protoFail_streams (world : World)
    (bounded : Bounded { world.conn with failed := true })
    (error : ErrorCode) : (protoFail world error).conn.streams =
      world.conn.streams := by
  rw [protoFail]
  split
  · rfl
  rcases submitGoaway_spec
      (world.update fun proto =>
        { proto with failed := true, lastError := error.code })
      world.proto.lastProcStreamId.toNat error.code bounded with
    ⟨conn', events, announced, -, becomes⟩
  have after := congrArg Conn.streams becomes.conn
  rw [Conn.notes_streams, announced.kept.2.1] at after
  exact after

/-! ## Header blocks -/

/-- CONTINUATION frames of a stream. -/
def Continuations (id : Int) (events : List Event) : Prop :=
  ∀ event ∈ events, ∃ flags payload,
      event = .frame { type := .continuation, flags, streamId := id, payload }

/-- Continuations are queued until there is no room. -/
theorem outHeaderFrames_continuation (id : Int) (firstFlags : UInt8)
    (rounds : Nat) (block : Bytes) (world : World) :
    ∃ events after, Continuations id events ∧
      Becomes world (world.conn.notes events) after ∧
        (outHeaderFrames id firstFlags rounds .continuation block world =
          (after, true) ∨
          outHeaderFrames id firstFlags rounds .continuation block world =
            (protoFail (after.note (.blockBroken id)) .internalError,
              false)) := by
  have nothing : Continuations id [] := by
    simp [Continuations]
  induction rounds generalizing block world with
  | zero =>
    refine ⟨[], world, nothing, ⟨?_, rfl⟩, .inl rfl⟩
    rw [notes_nil]
  | succ rounds induction =>
    simp only [outHeaderFrames]
    generalize flagsEq :
      (((if FrameType.continuation = .headers then firstFlags else 0) |||
        if block.drop world.proto.peer.maxFrameSize = [] then
          flagEndHeaders
        else
          0) : UInt8) = flags
    generalize block.take world.proto.peer.maxFrameSize = payload
    rcases outFrame_spec world
        { type := .continuation, flags, streamId := id, payload } with
      ⟨equal, -⟩ | ⟨queued, equal, isQueued⟩
    · rw [equal]
      refine ⟨[], world, nothing, ⟨?_, rfl⟩, .inr rfl⟩
      rw [notes_nil]
    rw [equal]
    have first : Continuations id
        [.frame
          { type := .continuation, flags, streamId := id, payload }] := by
      simp [Continuations]
    simp only
    split
    · exact ⟨_, queued, first, isQueued.becomes, .inl rfl⟩
    rcases induction (block.drop world.proto.peer.maxFrameSize) queued with
      ⟨events, after, rest, becomes, result⟩
    refine ⟨.frame
          { type := .continuation, flags, streamId := id, payload } ::
        events,
      after, ?_, ⟨?_, ?_⟩, result⟩
    · intro event member
      rcases List.mem_cons.mp member with rfl | member
      · exact ⟨flags, payload, rfl⟩
      · exact rest event member
    · rw [becomes.conn, isQueued.becomes.conn]
      exact note_notes ..
    · exact becomes.reading.trans isQueued.becomes.reading

theorem hasFlag_endStream (endStream priority last : Bool) : hasFlag
      ((((if endStream then flagEndStream else 0) |||
        if priority then flagPriority else 0) : UInt8) |||
        if last then flagEndHeaders else 0)
      flagEndStream =
    endStream := by
  revert endStream priority last
  decide

/-- What queueing a header block leads to. -/
inductive BlockQueued (world : World) (id : Int) (endStream : Bool) :
    World × Bool → Prop where
  | refused {after : World} :
      Becomes world world.conn after →
        BlockQueued world id endStream (after, false)
  | broken {events : List Event} {after : World} :
      (events = [] ∨ HeaderFrames id endStream events) →
        Becomes world (world.conn.notes events) after →
        BlockQueued world id endStream
          (protoFail (after.note (.blockBroken id)) .internalError, false)
  | queued {events : List Event} {after : World} :
      HeaderFrames id endStream events →
        Becomes world (world.conn.notes events) after →
        BlockQueued world id endStream (after, true)

/-- A block is queued on equal connections alike. -/
theorem BlockQueued.congr {id : Int} {endStream : Bool} {result : World × Bool}
    (queued : BlockQueued world' id endStream result)
    (sameConn : world'.conn = world.conn)
    (sameReading : world'.proto.inHeadersStream = world.proto.inHeadersStream) :
    BlockQueued world id endStream result := by
  cases queued with
  | refused becomes =>
    rw [sameConn] at becomes
    exact .refused ⟨becomes.conn, becomes.reading.trans sameReading⟩
  | broken frames becomes =>
    rw [sameConn] at becomes
    exact .broken frames ⟨becomes.conn, becomes.reading.trans sameReading⟩
  | queued frames becomes =>
    rw [sameConn] at becomes
    exact .queued frames ⟨becomes.conn, becomes.reading.trans sameReading⟩

/-- A header block is queued in frames, or up to where room ends. -/
theorem outHeaderFrames_spec (world : World) (id : Int)
    (endStream priority : Bool) (rounds : Nat) (block : Bytes) :
    BlockQueued world id endStream
      (outHeaderFrames id
        ((if endStream then flagEndStream else 0) |||
          if priority then flagPriority else 0)
        (rounds + 1) .headers block world) := by
  rw [outHeaderFrames]
  have endFlag := hasFlag_endStream endStream priority
      (decide (block.drop world.proto.peer.maxFrameSize = []))
  simp only [decide_eq_true_eq] at endFlag
  simp only [if_true]
  generalize flagsEq :
    (((((if endStream then flagEndStream else 0) |||
      if priority then flagPriority else 0) : UInt8) |||
      if block.drop world.proto.peer.maxFrameSize = [] then
        flagEndHeaders
      else
        0) : UInt8) = flags at endFlag ⊢
  generalize block.take world.proto.peer.maxFrameSize = payload
  rcases outFrame_spec world
      { type := .headers, flags, streamId := id, payload } with
    ⟨equal, -⟩ | ⟨queued, equal, isQueued⟩
  · rw [equal]
    refine .broken (.inl rfl : [] = [] ∨ _) ⟨?_, rfl⟩
    rw [notes_nil]
  rw [equal]
  simp only
  split
  · refine .queued ⟨flags, payload, [], rfl, endFlag, ?_⟩ isQueued.becomes
    simp
  rcases outHeaderFrames_continuation id _ rounds
      (block.drop world.proto.peer.maxFrameSize) queued with
    ⟨events, after, continuations, becomes, result⟩
  have frames : HeaderFrames id endStream
      (.frame { type := .headers, flags, streamId := id, payload } ::
        events) :=
    ⟨flags, payload, events, rfl, endFlag, continuations⟩
  have whole : Becomes world
      (world.conn.notes
        (.frame { type := .headers, flags, streamId := id, payload } ::
          events))
      after := by
    refine ⟨?_, becomes.reading.trans isQueued.becomes.reading⟩
    rw [becomes.conn, isQueued.becomes.conn]
    exact note_notes ..
  rcases result with result | result
  · rw [result]
    exact .queued frames whole
  · rw [result]
    exact .broken (.inr frames) whole

theorem outHeaders_spec (world : World) (id : Int) (headers : List Entry)
    (endStream : Bool) (priority : Option Priority) :
    BlockQueued world id endStream
      (outHeaders world id headers endStream priority) := by
  rw [outHeaders]
  split
  · exact .refused ⟨rfl, rfl⟩
  split
  · split
    · exact .refused ⟨rfl, rfl⟩
    split
    · refine .broken (.inl rfl : [] = [] ∨ _) ⟨?_, rfl⟩
      rw [notes_nil]
      rfl
    simp only
    split
    · exact .refused ⟨rfl, rfl⟩
    · exact (outHeaderFrames_spec _ id endStream priority.isSome _ _).congr
        rfl rfl
  · exact .refused ⟨rfl, rfl⟩

end Chttp.H2
