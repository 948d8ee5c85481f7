import Chttp.H2.Simulation.Engine

/-!
# How streams get into the table

Streams are opened by clients only: by the local engine in client mode, by
the peer in server mode.  Their identifiers are odd and increase, whatever
happens to the slots, and the counters which hand them out stay in range.
-/

namespace Chttp.H2

open Lib Hpack

/-! ## Identifiers in the order in which they were opened -/

/-- The stream which an event opens. -/
def Event.opens? : Event → Option Int
  | .opened id => some id
  | _ => none

/-- The streams which were opened, in order. -/
def openedIds (log : List Event) : List Int := log.filterMap Event.opens?

theorem openedIds_append (log events : List Event) :
    openedIds (log ++ events) = openedIds log ++ openedIds events := by
  rw [openedIds, List.filterMap_append]
  rfl

variable {id : Int} {after : World}

theorem mem_openedIds {log : List Event} :
    id ∈ openedIds log ↔ .opened id ∈ log := by
  rw [openedIds, List.mem_filterMap]
  constructor
  · rintro ⟨event, member, opens⟩
    cases event with
    | opened =>
      cases opens
      exact member
    | _ => cases opens
  · intro member
    exact ⟨_, member, rfl⟩

theorem opens?_of_neutral {event : Event} (neutral : event.neutral = true) :
    event.opens? = none := by
  cases event with
  | opened => cases neutral
  | _ => rfl

variable {endStream : Bool} {conn conn' : Conn} {slot : Nat} {world : World}
  {headers : List Entry}

theorem HeaderFrames.openedIds {events : List Event}
    (frames : HeaderFrames id endStream events) :
    openedIds events = [] := by
  rw [H2.openedIds, List.filterMap_eq_nil_iff]
  intro event member
  rcases frames.frame_of_mem member with ⟨frame, rfl⟩
  rfl

/-! ## Steps -/

/-- A step opens one stream, whose identifier is next in turn, or none. -/
theorem Step.openedIds (step : Step conn conn') :
    openedIds conn'.log = openedIds conn.log ∨ ∃ id, Admits conn conn' id ∧
        openedIds conn'.log = openedIds conn.log ++ [id] ∧
        (id = conn.nextStreamId ∧ conn.mode = .client ∨ id % 2 = 1) := by
  cases step with
  | openLocal client announced below placed =>
    right
    refine ⟨_, admits_local client announced below placed, ?_,
      .inl ⟨rfl, client⟩⟩
    exact openedIds_append _ _
  | openRemote server announced odd below small placed =>
    right
    refine ⟨_, admits_remote server announced below small placed, ?_,
      .inr (by omega)⟩
    exact openedIds_append _ _
  | note neutral =>
    left
    simp [H2.openedIds, opens?_of_neutral neutral]
  | message _ frames
  | headersOnly _ frames
  | trailersSent _ frames =>
    left
    simp [openedIds_append, frames.openedIds]
    rfl
  | blockBroken _ frames =>
    left
    rcases frames with rfl | frames
    · simp [openedIds_append]
      rfl
    · simp [openedIds_append, frames.openedIds]
      rfl
  | closeReset | pullError =>
    left
    simp +contextual [H2.openedIds, Event.opens?, or_imp]
  | _ =>
    left
    simp [H2.openedIds, Event.opens?]

/-- The next number of a client grows by two or stays. -/
theorem Step.nextStreamId (step : Step conn conn') :
    conn'.nextStreamId = conn.nextStreamId ∨ conn.mode = .client ∧
      conn.nextStreamId ≤ 0x7ffffffe ∧
        conn'.nextStreamId = conn.nextStreamId + 2 := by
  cases step with
  | openLocal client _ below _ => exact .inr ⟨client, below, rfl⟩
  | burn client below => exact .inr ⟨client, below, rfl⟩
  | _ => exact .inl (by simp)

/-- Placing a stream keeps the table within its capacity. -/
theorem Placed.length_le {streams placed : List Stream} {streamCap : Nat}
    {stream : Stream} (isPlaced : Placed streams streamCap stream placed)
    (fits : streams.length ≤ streamCap) : placed.length ≤ streamCap := by
  rcases isPlaced with ⟨slot, old, -, -, rfl⟩ | ⟨room, rfl⟩
  · rw [List.length_set]
    exact fits
  · rw [List.length_append, List.length_singleton]
    exact room

/-- A step keeps the table within its capacity. -/
theorem Step.length_le (step : Step conn conn')
    (fits : conn.streams.length ≤ conn.streamCap) :
    conn'.streams.length ≤ conn'.streamCap := by
  cases step with
  | openLocal _ _ _ placed
  | openRemote _ _ _ _ _ placed => exact placed.length_le fits
  | _ => simpa using fits

/-- How identifiers are handed out. -/
structure Numbered (conn : Conn) : Prop where
  odd : conn.mode = .client → conn.nextStreamId % 2 = 1
  range : 1 ≤ conn.nextStreamId ∧ conn.nextStreamId ≤ 0x7fffffff
  openedOdd : ∀ id ∈ openedIds conn.log, id % 2 = 1
  increasing : (openedIds conn.log).Pairwise (· < ·)
  capacity : conn.streams.length ≤ conn.streamCap

/-- A new stream has a number above all before it. -/
theorem Admits.above (admits : Admits conn conn' id) (table : TableValid conn)
    {other : Int}
    (member : other ∈ openedIds conn.log) : other < id := by
  rw [mem_openedIds] at member
  rcases admits.unused with ⟨client, rfl, -⟩ | ⟨server, above, -⟩
  · exact table.client client other member
  · exact lt_of_le_of_lt (table.server server other member) above

/-- A step keeps the numbers in order. -/
theorem Step.numbered (step : Step conn conn') (table : TableValid conn)
    (numbered : Numbered conn) : Numbered conn' := by
  have sameMode := step.constant.1
  have range := numbered.range
  constructor
  · intro client
    rw [sameMode] at client
    have odd := numbered.odd client
    rcases step.nextStreamId with same | ⟨-, -, next⟩
    · rw [same]
      exact odd
    · omega
  · rcases step.nextStreamId with same | ⟨client, below, next⟩
    · rw [same]
      exact range
    · have odd := numbered.odd client
      omega
  · intro id member
    rcases step.openedIds with same | ⟨new, -, appended, isOdd⟩
    · rw [same] at member
      exact numbered.openedOdd id member
    rw [appended, List.mem_append, List.mem_singleton] at member
    rcases member with old | rfl
    · exact numbered.openedOdd id old
    · rcases isOdd with ⟨rfl, client⟩ | odd
      · exact numbered.odd client
      · exact odd
  · rcases step.openedIds with same | ⟨new, admits, appended, -⟩
    · rw [same]
      exact numbered.increasing
    rw [appended, List.pairwise_append]
    refine ⟨numbered.increasing, List.pairwise_singleton _ _, ?_⟩
    intro id member other single
    rw [List.mem_singleton.mp single]
    exact admits.above table member
  · exact step.length_le numbered.capacity

theorem Live.numbered (live : Live conn) : Numbered conn := by
  refine live.induction ?_ ?_
  · intro conn initial
    constructor
    · intro client
      rw [initial.parity client]
      rfl
    · cases mode : conn.mode with
      | client =>
        rw [initial.parity mode]
        decide
      | server =>
        rw [initial.unused mode]
        decide
    · simp [openedIds, initial.log]
    · simp [openedIds, initial.log]
    · simp [initial.streams]
  · intro conn conn' live numbered step
    exact step.numbered live.table numbered

/-! ## Admission -/

/-- A new stream makes one more open stream, under the same settings. -/
theorem newStream_active {proto after : Proto}
    (opened : proto.newStream id = some (after, slot)) :
    after.activeStreams = proto.activeStreams + 1 ∧
      after.localSettings = proto.localSettings := by
  have fresh : (proto.freshStream id).closed = false := rfl
  rw [Proto.newStream] at opened
  simp only at opened
  split at opened
  · rename_i free found
    cases opened
    rcases getElem?_of_findIdx? found with ⟨inside, old, present, closed⟩
    have here : proto.streams[slot] = old :=
      Option.some.inj ((List.getElem?_eq_getElem inside).symm.trans present)
    refine ⟨?_, rfl⟩
    rw [Proto.activeStreams, Proto.activeStreams, List.countP_set inside]
    simp [here, closed, fresh]
  split at opened
  · cases opened
  · cases opened
    refine ⟨?_, rfl⟩
    rw [Proto.activeStreams, Proto.activeStreams, List.countP_append]
    simp [fresh]

/-- A server accepts a stream only within the limit it has set itself. -/
theorem acceptStream_limit {id : Nat}
    (accepted : acceptStream world id = (after, true)) :
    after.proto.activeStreams ≤
      after.proto.localSettings.maxConcurrentStreams := by
  rw [acceptStream] at accepted
  split at accepted
  · cases accepted
  split at accepted
  · cases accepted
  rename_i below
  split at accepted
  · cases accepted
  rename_i opened slot isOpened
  cases accepted
  rw [openStream] at isOpened
  split at isOpened
  · cases isOpened
  rename_i proto position new
  cases isOpened
  rcases newStream_active new with ⟨count, sameSettings⟩
  change proto.activeStreams ≤ proto.localSettings.maxConcurrentStreams
  rw [count, sameSettings]
  exact Nat.lt_of_not_le below

theorem openRequest_id {priority : Option Priority}
    (opened : openRequest world headers endStream priority =
      (after, some (slot, id))) :
    id = world.proto.nextStreamId ∧
      after.proto.nextStreamId = world.proto.nextStreamId + 2 := by
  rw [openRequest] at opened
  simp only at opened
  split at opened
  · cases opened
  rename_i world' position isOpened
  rcases openStream_spec isOpened with ⟨streams, -, -, becomes⟩
  have next := congrArg Conn.nextStreamId becomes.conn
  have spec := outHeaders_spec
      (world'.updateStream position fun stream =>
        { stream with endStreamSent := endStream })
      world.proto.nextStreamId headers endStream priority
  generalize outHeaders
      (world'.updateStream position fun stream =>
        { stream with endStreamSent := endStream })
      world.proto.nextStreamId headers endStream priority =
    result at spec opened
  cases spec with
  | refused same => cases opened
  | broken frames same => cases opened
  | queued frames same =>
    cases opened
    exact ⟨rfl, (congrArg Conn.nextStreamId same.conn).trans next⟩

/-- What an accepted request rests on, and the identifier it gets. -/
structure RequestAccepted (world after : World) (submission : Submission) :
    Prop where
  below : world.proto.activeLocalStreams < world.proto.peer.maxConcurrentStreams
  id : after.log.getLast? =
    some (.submitted world.proto.nextStreamId submission)
  next : after.proto.nextStreamId = world.proto.nextStreamId + 2

theorem mayRequest_below {proto : Proto} {wrong : Prop}
    (allowed : ¬(¬mayRequest proto = true ∨ wrong)) :
    proto.activeLocalStreams < proto.peer.maxConcurrentStreams := by
  have may := Classical.not_not.mp (not_or.mp allowed).1
  rw [mayRequest, decide_eq_true_eq] at may
  exact may.2.2.2

theorem accepted_of_openRequest {prefaced opened : World}
    {priority : Option Priority}
    {submission : Submission} {wrong : Prop}
    (allowed : ¬(¬mayRequest world.proto = true ∨ wrong))
    (preface : ensurePreface world = (prefaced, true))
    (isOpened : openRequest prefaced headers endStream priority =
      (opened, some (slot, id)))
    (next : after.proto.nextStreamId = opened.proto.nextStreamId)
    (log : after.log = opened.log ++ [.submitted id submission]) :
    RequestAccepted world after submission := by
  have ensured := ensurePreface_unread world
  rw [preface] at ensured
  rcases openRequest_id isOpened with ⟨rfl, moved⟩
  rw [ensured.nextStreamId] at moved
  refine ⟨mayRequest_below allowed, ?_, next.trans moved⟩
  rw [log, ← ensured.nextStreamId]
  exact List.getLast?_concat

theorem submitRequestEx_accepted {body : Body} {weight : Nat}
    {depStreamId : Int}
    {exclusive : Bool}
    (accepted : submitRequestEx world headers body weight depStreamId
      exclusive = (after, true)) :
    RequestAccepted world after (.message body) := by
  rw [submitRequestEx] at accepted
  split at accepted
  · cases accepted
  rename_i allowed
  split at accepted
  · cases accepted
  rename_i prefaced preface
  simp only at accepted
  split at accepted
  · cases accepted
  · rename_i opened slot id isOpened
    cases accepted
    exact accepted_of_openRequest allowed preface isOpened rfl rfl

theorem submitRequestHeaders_accepted
    (accepted : submitRequestHeaders world headers endStream = (after, true)) :
    RequestAccepted world after (.headers endStream) := by
  rw [submitRequestHeaders] at accepted
  split at accepted
  · cases accepted
  rename_i allowed
  split at accepted
  · cases accepted
  rename_i prefaced preface
  split at accepted
  · cases accepted
  · rename_i opened slot id isOpened
    cases accepted
    exact accepted_of_openRequest allowed preface isOpened rfl rfl

/-! ## Runs of an engine -/

/-- The stream table of an engine, and the streams it has ever had. -/
structure TableOrderly (config : Config) (world : World) : Prop where
  /-- Open streams have different identifiers. -/
  distinct :
    ((world.proto.streams.filter fun stream => !stream.closed).map
      Stream.id).Nodup
  /-- Clients open all streams, and the identifiers of clients are odd. -/
  parity : ∀ stream ∈ world.proto.streams, 0 < stream.id ∧ stream.id % 2 = 1
  /-- Streams were accepted, and requests made, in increasing order. -/
  increasing : (openedIds world.log).Pairwise (· < ·)
  /-- Their identifiers were odd, too. -/
  odd : ∀ id ∈ openedIds world.log, id % 2 = 1
  /-- No more streams are open than there are slots. -/
  capacity : world.proto.activeStreams ≤ config.streamCapacity
  /-- The counter for requests is an identifier. -/
  counter : 1 ≤ world.proto.nextStreamId ∧ world.proto.nextStreamId ≤ 2 ^ 31 - 1

theorem Steps.nextStreamId_le
    (steps : Steps conn conn') : conn.nextStreamId ≤ conn'.nextStreamId := by
  induction steps with
  | refl => exact le_rfl
  | tail _ last induction =>
    rcases Step.nextStreamId last with same | ⟨-, -, next⟩
    · rw [same]
      exact induction
    · omega

/--
The invariant of the stream table.  In every state of a run the table is
orderly and the counter for requests has not gone back; a server accepts a
stream of the peer within its own limit; and a client makes a request within
the limit of the peer, with the next identifier in turn.
-/
theorem stream_table_orderly {mode : Mode} {config : Config} {cbs : Callbacks}
    {engine : Engine}
    (reachable : Reachable mode config cbs engine) :
    TableOrderly config engine.world ∧
      (∀ ops, engine.world.proto.nextStreamId ≤
        (engine.run ops).world.proto.nextStreamId) ∧
      (∀ world id after, acceptStream world id = (after, true) →
        after.proto.activeStreams ≤
            after.proto.localSettings.maxConcurrentStreams) ∧
      (∀ world headers body weight depStreamId exclusive after,
        submitRequestEx world headers body weight depStreamId exclusive =
          (after, true) →
          RequestAccepted world after (.message body)) ∧
      ∀ world headers endStream after,
        submitRequestHeaders world headers endStream = (after, true) →
          RequestAccepted world after (.headers endStream) := by
  have live := reachable.live
  have table := live.table
  have numbered := live.numbered
  refine ⟨?_, ?_, fun _ _ _ => acceptStream_limit,
    fun _ _ _ _ _ _ _ => submitRequestEx_accepted,
    fun _ _ _ _ => submitRequestHeaders_accepted⟩
  · constructor
    · exact table.nodup.sublist (List.filter_sublist.map _)
    · intro stream member
      have opened := table.opened stream.id (List.mem_map_of_mem member)
      exact ⟨table.positive _ opened,
        numbered.openedOdd _ (mem_openedIds.mpr opened)⟩
    · exact numbered.increasing
    · exact numbered.openedOdd
    · refine (List.countP_le_length).trans ?_
      rw [← reachable.constant.2.2]
      exact numbered.capacity
    · exact numbered.range
  · intro ops
    exact Steps.nextStreamId_le (Engine.run_steps ops live)

/-- A server with one stream closed and two open, the last in a used slot. -/
def reusedRun : Engine := smallRun .server [] []
    [.recv
      (clientPreface ++ [0, 0, 0, 4, 0, 0, 0, 0, 0] ++
        [0, 0, 0, 1, 4, 0, 0, 0, 1] ++
        [0, 0, 0, 1, 4, 0, 0, 0, 3]),
      .call (.submitRstStream 1 8),
      .recv [0, 0, 0, 1, 4, 0, 0, 0, 5]]

/-- Its table is orderly. -/
theorem stream_table_orderly_reused :
    openedIds reusedRun.world.log = [1, 3, 5] ∧
    reusedRun.world.proto.streams.map Stream.id = [5, 3] ∧
    TableOrderly Config.small reusedRun.world := by
  refine ⟨by decide, by decide, ?_⟩
  exact (stream_table_orderly (smallRun_reachable _ _ _ _)).1

end Chttp.H2
