import Chttp.Lib.Slots
import Chttp.H2.Transition
import Mathlib.Data.List.Nodup

/-!
# The stream table

Identifiers are never used twice, so that the log entries of a stream
identifier are about one stream.  A stream exists only behind the connection
preface.
-/

namespace Chttp.H2

open Lib Hpack

/-! ## Live connections -/

/-- A connection as an engine starts it. -/
structure Conn.Initial (conn : Conn) : Prop where
  seen : conn.seen = false
  announced : conn.announced = false
  streams : conn.streams = []
  streamCap : 0 < conn.streamCap
  resetIds : conn.resetIds = List.replicate conn.streamCap 0
  cursor : conn.cursor = 0
  nextStreamId : 0 < conn.nextStreamId
  parity : conn.mode = .client → conn.nextStreamId = 1
  unused : conn.mode = .server → conn.nextStreamId = 2
  maxPeerStreamId : conn.maxPeerStreamId = 0
  connSendWindow : conn.connSendWindow = defaultWindow
  connRecvWindow : conn.connRecvWindow = defaultWindow
  connConsumed : conn.connConsumed = 0
  connLocalWindow_ge : (defaultWindow : Int) ≤ conn.connLocalWindow
  connLocalWindow_le : conn.connLocalWindow ≤ maxWindow
  localInitial : conn.localInitial ≤ maxWindow
  peerInitial : conn.peerInitial = defaultWindow
  peerFrame : conn.peerFrame ≤ maxFrameBytes
  outCapacity : conn.outCapacity = conn.outLimit
  blockEnd : conn.blockEnd = none
  failed : conn.failed = false
  queue : conn.queue = some []
  log : conn.log = []

/-- A connection which steps have reached. -/
def Live (conn : Conn) : Prop := ∃ start, start.Initial ∧ Steps start conn

variable {conn conn' : Conn} {change : Stream → Stream} {reset : Bool}
  {streams : List Stream}
  {stream : Stream} {id : Int} {event : Event}

/-- Steps of a live connection. -/
theorem Live.steps (live : Live conn) (steps : Steps conn conn') :
    Live conn' := by
  rcases live with ⟨start, initial, reached⟩
  exact ⟨start, initial, reached.trans steps⟩

/-- One step of a live connection. -/
theorem Live.step (live : Live conn) (step : Step conn conn') : Live conn' :=
  live.steps (.single step)

/-- What holds at first and is kept by steps holds along every run. -/
theorem Live.induction {property : Conn → Prop}
    (initial : ∀ conn, conn.Initial → property conn)
    (step : ∀ conn conn', Live conn → property conn → Step conn conn' →
      property conn')
    {conn : Conn} (live : Live conn) : property conn := by
  rcases live with ⟨start, isInitial, reached⟩
  induction reached with
  | refl => exact initial start isInitial
  | tail reached last induction =>
    exact step _ _ ⟨start, isInitial, reached⟩ induction last

theorem Step.constant (step : Step conn conn') :
    conn'.mode = conn.mode ∧ conn'.cbs = conn.cbs ∧
      conn'.streamCap = conn.streamCap ∧
      conn'.connLocalWindow = conn.connLocalWindow ∧
      conn'.outCapacity = conn.outCapacity ∧
      conn'.outLimit = conn.outLimit := by
  cases step <;> simp

theorem Steps.constant (steps : Steps conn conn') :
    conn'.mode = conn.mode ∧ conn'.cbs = conn.cbs ∧
      conn'.streamCap = conn.streamCap ∧
      conn'.connLocalWindow = conn.connLocalWindow ∧
      conn'.outCapacity = conn.outCapacity ∧
      conn'.outLimit = conn.outLimit := by
  induction steps with
  | refl => simp
  | tail _ last induction =>
    have here := last.constant
    simp [here, induction]

/-- A step only adds to the log. -/
theorem Step.log (step : Step conn conn') : conn.log <+: conn'.log := by
  cases step <;> simp [List.append_assoc]

/-- Steps only add to the log. -/
theorem Steps.log (steps : Steps conn conn') : conn.log <+: conn'.log := by
  induction steps with
  | refl => exact List.prefix_rfl
  | tail _ last induction => exact induction.trans (Step.log last)

/-- What a step writes to the log. -/
def Conn.news (conn conn' : Conn) : List Event := conn'.log.drop conn.log.length

theorem Step.log_news (step : Step conn conn') :
    conn'.log = conn.log ++ conn.news conn' :=
  (List.prefix_iff_eq_append.mp step.log).symm

/-! ## The output -/

/-- The output is what the log makes of an empty one. -/
theorem Step.queue_eq (step : Step conn conn')
    (told : conn.queue = conn.log.foldl Event.output (some [])) :
    conn'.queue = conn'.log.foldl Event.output (some []) := by
  cases step <;> simp [told, List.foldl_append, Event.output]
  -- A callback may be missing, and a reset recorded already.
  all_goals split_ifs <;> rfl

theorem Live.queue_eq (live : Live conn) :
    conn.queue = conn.log.foldl Event.output (some []) := by
  refine live.induction (fun conn initial => ?_) fun conn conn' _ told step =>
    step.queue_eq told
  rw [initial.queue, initial.log]
  rfl

/-- The octets which an event appends to the output. -/
def Event.written : Event → Bytes
  | .preface => clientPreface
  | .frame queued => queued.octets
  | _ => []

/-- The octets which an event hands to the transport. -/
def Event.handed : Event → Bytes
  | .flushed octets => octets
  | _ => []

theorem foldl_output_none (log : List Event) :
    log.foldl Event.output none = none := by
  induction log with
  | nil => rfl
  | cons event log induction => cases event <;> exact induction

/-- No octet gets lost between the frames and the transport. -/
theorem written_of_foldl_output {log : List Event} {queue rest : Bytes}
    (told : log.foldl Event.output (some queue) = some rest) :
    queue ++ log.flatMap Event.written = log.flatMap Event.handed ++ rest := by
  induction log generalizing queue with
  | nil => simpa using told
  | cons event log induction =>
    rw [List.foldl_cons] at told
    simp only [List.flatMap_cons]
    cases event with
    | flushed octets =>
      rw [Event.output] at told
      split_ifs at told with whole
      · cases whole
        simpa [Event.written, Event.handed] using induction told
      · rw [foldl_output_none] at told
        cases told
    | _ => simpa [Event.written, Event.handed] using induction told

/-! ## Changes of a record keep its identifier -/

theorem QuietChange.id_eq (quiet : QuietChange change) (stream : Stream) :
    (change stream).id = stream.id := by
  rw [quiet stream]

theorem ClosingChange.id_eq (closing : ClosingChange reset change)
    (stream : Stream) :
    (change stream).id = stream.id := by
  rw [closing stream]

theorem RecvChange.id_eq (recv : RecvChange change) (stream : Stream) :
    (change stream).id = stream.id := by
  rw [(recv stream).1]

theorem attachBody_eq (body : Body) (stream : Stream) : attachBody body stream =
    { stream with
      body := (attachBody body stream).body
      bodyOff := (attachBody body stream).bodyOff
      bodyEof := (attachBody body stream).bodyEof
      source := (attachBody body stream).source } := by
  cases body with
  | flat octets =>
    rw [attachBody]
    split <;> rfl
  | source => rfl

@[simp]
theorem attachBody_keeps (body : Body) (stream : Stream) :
    (attachBody body stream).id = stream.id ∧
      (attachBody body stream).closed = stream.closed ∧
      (attachBody body stream).localReset = stream.localReset ∧
      (attachBody body stream).sendWindow = stream.sendWindow ∧
      (attachBody body stream).recvWindow = stream.recvWindow ∧
      (attachBody body stream).localWindow = stream.localWindow := by
  rw [attachBody_eq]
  exact ⟨rfl, rfl, rfl, rfl, rfl, rfl⟩

theorem shiftWindow_eq (delta : Int) (stream : Stream) :
    shiftWindow delta stream =
    { stream with
      sendWindow := (shiftWindow delta stream).sendWindow } := by
  rw [shiftWindow]
  split <;> rfl

@[simp]
theorem shiftWindow_keeps (delta : Int) (stream : Stream) :
    (shiftWindow delta stream).id = stream.id ∧
      (shiftWindow delta stream).closed = stream.closed ∧
      (shiftWindow delta stream).localReset = stream.localReset ∧
      (shiftWindow delta stream).recvWindow = stream.recvWindow ∧
      (shiftWindow delta stream).localWindow = stream.localWindow := by
  rw [shiftWindow_eq]
  exact ⟨rfl, rfl, rfl, rfl, rfl⟩

variable {Field : Type*} {field : Stream → Field} {streams' : List Stream}

theorem map_modify_of_eq (field : Stream → Field)
    (keeps : ∀ stream, field (change stream) = field stream)
    (streams : List Stream) (slot : Nat) :
    (streams.modify slot change).map field = streams.map field := by
  induction streams generalizing slot with
  | nil => simp
  | cons stream streams induction =>
    cases slot with
    | zero => simp [keeps]
    | succ slot => simp [induction]

/--
The records of a table come from those of another table: with the identifier
and a field unchanged, and none of them reopened.
-/
def Carried (field : Stream → Field) (streams streams' : List Stream) : Prop :=
  ∀ stream' ∈ streams', ∃ stream ∈ streams, stream.id = stream'.id ∧
    field stream = field stream' ∧
      (stream.closed = true → stream'.closed = true)

/-- Streams which stay are carried over. -/
@[simp]
theorem Carried.refl (streams : List Stream) : Carried field streams streams :=
  fun stream member => ⟨stream, member, rfl, rfl, id⟩

/-- Streams are carried over a change of one of them. -/
@[simp]
theorem Carried.modify (streams : List Stream) (slot : Nat)
    (keeps : ∀ stream, (change stream).id = stream.id ∧
      field (change stream) = field stream ∧
      (stream.closed = true → (change stream).closed = true)) :
    Carried field streams (streams.modify slot change) := by
  intro stream' member
  rcases mem_modify member with same | ⟨stream, present, rfl⟩
  · exact ⟨stream', same, rfl, rfl, id⟩
  · have kept := keeps stream
    exact ⟨stream, List.mem_of_getElem? present, kept.1.symm, kept.2.1.symm,
      kept.2.2⟩

/-- Streams are carried over a change of all of them. -/
@[simp]
theorem Carried.map (streams : List Stream)
    (keeps : ∀ stream, (change stream).id = stream.id ∧
      field (change stream) = field stream ∧
      (stream.closed = true → (change stream).closed = true)) :
    Carried field streams (streams.map change) := by
  intro stream' member
  rcases List.mem_map.mp member with ⟨stream, old, rfl⟩
  have kept := keeps stream
  exact ⟨stream, old, kept.1.symm, kept.2.1.symm, kept.2.2⟩

/-- Streams are carried over the end of one of them. -/
theorem ClosingChange.carried (closing : ClosingChange reset change)
    (keeps : ∀ stream, field (change stream) = field stream)
    (streams : List Stream) (slot : Nat) :
    Carried field streams (streams.modify slot change) := by
  apply Carried.modify
  intro stream
  refine ⟨closing.id_eq stream, keeps stream, ?_⟩
  rw [closing stream]
  exact fun _ => rfl

theorem Carried.of_open (carried : Carried field streams streams')
    {stream' : Stream}
    (member : stream' ∈ streams') (isOpen : stream'.closed = false) :
    ∃ stream ∈ streams, stream.closed = false ∧ stream.id = stream'.id ∧
      field stream = field stream' := by
  rcases carried stream' member with ⟨stream, old, sameId, same, stays⟩
  refine ⟨stream, old, ?_, sameId, same⟩
  by_contra closed
  rw [stays (Bool.eq_true_of_not_eq_false closed)] at isOpen
  cases isOpen

/-- The open records of a table come from open records of another table. -/
def CarriedOpen (field : Stream → Field) (streams streams' : List Stream) :
    Prop :=
  ∀ stream' ∈ streams', stream'.closed = false →
    ∃ stream ∈ streams, stream.closed = false ∧ stream.id = stream'.id ∧
      field stream = field stream'

theorem Carried.carriedOpen (carried : Carried field streams streams') :
    CarriedOpen field streams streams' :=
  fun _ member isOpen => carried.of_open member isOpen

theorem ClosingChange.carriedOpen (closing : ClosingChange reset change)
    (streams : List Stream)
    (slot : Nat) :
    CarriedOpen field streams (streams.modify slot change) := by
  intro stream' member isOpen
  rcases mem_modify member with old | ⟨stream, -, rfl⟩
  · exact ⟨stream', old, isOpen, rfl, rfl⟩
  · rw [closing stream] at isOpen
    cases isOpen

theorem Placed.mem {placed : List Stream} {streamCap : Nat} {other : Stream}
    (isPlaced : Placed streams streamCap stream placed)
    (member : other ∈ placed) :
    other ∈ streams ∨ other = stream := by
  rcases isPlaced with ⟨slot, old, -, -, rfl⟩ | ⟨-, rfl⟩
  · exact List.mem_or_eq_of_mem_set member
  · simpa using member

/-- The identifiers in the table. -/
def Conn.ids (conn : Conn) : List Int := conn.streams.map Stream.id

theorem slot_eq_of_id_eq (nodup : conn.ids.Nodup) {slot slot' : Nat}
    {stream' : Stream}
    (present : conn.streams[slot]? = some stream)
    (present' : conn.streams[slot']? = some stream')
    (sameId : stream.id = stream'.id) : slot = slot' := by
  have inside : slot < conn.ids.length := by
    rw [Conn.ids, List.length_map]
    exact (List.getElem?_eq_some_iff.mp present).1
  apply (List.getElem?_inj inside nodup).mp
  rw [Conn.ids, List.getElem?_map, List.getElem?_map, present, present']
  exact congrArg some sameId

/-- A stream behind a change of one is another one, or the changed. -/
theorem mem_modify_of_present {slot : Nat} {other : Stream}
    (nodup : conn.ids.Nodup)
    (present : conn.streams[slot]? = some stream)
    (member : other ∈ conn.streams.modify slot change) :
    other ∈ conn.streams ∧ other.id ≠ stream.id ∨ other = change stream := by
  rcases List.mem_iff_getElem?.mp member with ⟨position, found⟩
  rw [List.getElem?_modify] at found
  rcases Option.map_eq_some_iff.mp found with ⟨old, there, equal⟩
  by_cases here : slot = position
  · right
    rw [← here, present] at there
    cases there
    rw [if_pos here] at equal
    exact equal.symm
  left
  rw [if_neg here] at equal
  cases equal
  refine ⟨List.mem_of_getElem? there, ?_⟩
  intro sameId
  exact here (slot_eq_of_id_eq nodup present there sameId.symm)

@[simp]
theorem Stream.dropBody_id (stream : Stream) :
    stream.dropBody.id = stream.id := by
  simp [Stream.dropBody]

@[simp]
theorem Stream.endBody_id (stream : Stream) :
    stream.endBody.id = stream.id := by
  simp [Stream.endBody]

theorem HeaderFrames.frame_of_mem {endStream : Bool} {events : List Event}
    (frames : HeaderFrames id endStream events) (member : event ∈ events) :
    ∃ frame, event = .frame frame := by
  rcases frames with ⟨flags, payload, rest, rfl, -, continuation⟩
  rcases List.mem_cons.mp member with rfl | member
  · exact ⟨_, rfl⟩
  · rcases continuation event member with ⟨flags, payload, rfl⟩
    exact ⟨_, rfl⟩

theorem HeaderFrames.not_mem {endStream : Bool} {events : List Event}
    (frames : HeaderFrames id endStream events)
    (noFrame : ∀ frame, event ≠ .frame frame) :
    event ∉ events := by
  intro member
  rcases frames.frame_of_mem member with ⟨frame, equal⟩
  exact noFrame frame equal

theorem ne_of_neutral {other : Event} (neutral : event.neutral = true)
    (notNeutral : other.neutral = false) : other ≠ event := by
  rintro rfl
  rw [neutral] at notNeutral
  cases notNeutral

/-! ## What a step does to the table -/

/-- A step which opens a stream. -/
structure Admits (conn conn' : Conn) (id : Int) : Prop where
  announced : conn.announced = true
  small : id ≤ maxWindow
  ids : conn'.ids = conn.ids ++ [id] ∨ ∃ slot, conn'.ids = conn.ids.set slot id
  opened : ∀ other, .opened other ∈ conn'.log ↔
    .opened other ∈ conn.log ∨ other = id
  unused : conn.mode = .client ∧ id = conn.nextStreamId ∧
    conn'.nextStreamId = id + 2 ∧
      conn'.maxPeerStreamId = conn.maxPeerStreamId ∨
    conn.mode = .server ∧ conn.maxPeerStreamId < id ∧
      conn'.maxPeerStreamId = id ∧
      conn'.nextStreamId = conn.nextStreamId

/-- A step which opens no stream. -/
structure KeepsTable (conn conn' : Conn) : Prop where
  ids : conn'.ids = conn.ids
  opened : ∀ other, .opened other ∈ conn'.log ↔ .opened other ∈ conn.log
  nextStreamId : conn.nextStreamId ≤ conn'.nextStreamId
  maxPeerStreamId : conn'.maxPeerStreamId = conn.maxPeerStreamId

theorem Placed.ids {placed : List Stream} {streamCap : Nat}
    (isPlaced : Placed streams streamCap stream placed) :
    placed.map Stream.id = streams.map Stream.id ++ [stream.id] ∨ ∃ slot,
      placed.map Stream.id =
          (streams.map Stream.id).set slot stream.id := by
  rcases isPlaced with ⟨slot, old, -, -, rfl⟩ | ⟨-, rfl⟩
  · right
    exact ⟨slot, by rw [List.map_set]⟩
  · left
    rw [List.map_append, List.map_singleton]

/-- A request opens a stream with a number of its own. -/
theorem admits_local (client : conn.mode = .client)
    (announced : conn.announced = true)
    (below : conn.nextStreamId ≤ 0x7ffffffe)
    (placed : Placed conn.streams conn.streamCap
      (Stream.fresh conn.nextStreamId conn.peerInitial conn.localInitial)
      streams) :
    Admits conn
      (Conn.note
        { conn with nextStreamId := conn.nextStreamId + 2, streams }
        (.opened conn.nextStreamId))
      conn.nextStreamId := by
  refine ⟨announced, ?_, placed.ids, ?_, .inl ?_⟩
  · simp only [maxWindow]
    omega
  · simp
  · simp [client]

/-- A peer opens a stream with a number above the others. -/
theorem admits_remote {id : Nat} (server : conn.mode = .server)
    (announced : conn.announced = true) (below : conn.maxPeerStreamId < id)
    (small : id ≤ maxWindow)
    (placed : Placed conn.streams conn.streamCap
      (Stream.fresh id conn.peerInitial conn.localInitial) streams) :
    Admits conn
      (Conn.note
        { conn with maxPeerStreamId := id, streams }
        (.opened id))
      id := by
  refine ⟨announced, Int.ofNat_le.mpr small, placed.ids, ?_, .inr ?_⟩
  · simp
  · simp [server, below]

/-- A step keeps the table or admits one stream. -/
theorem Step.table (step : Step conn conn') :
    KeepsTable conn conn' ∨ ∃ id, Admits conn conn' id := by
  cases step with
  | openLocal client announced below placed =>
    exact .inr ⟨_, admits_local client announced below placed⟩
  | openRemote server announced _ below small placed =>
    exact .inr ⟨_, admits_remote server announced below small placed⟩
  | note neutral =>
    left
    constructor
    · rfl
    · intro other
      have distinct : Event.opened other ≠ _ := ne_of_neutral neutral rfl
      simp [distinct]
    · simp
    · rfl
  | message _ frames
  | headersOnly _ frames
  | trailersSent _ frames =>
    left
    constructor
    · simp [Conn.ids, map_modify_of_eq]
    · intro other
      simp [frames.not_mem]
    · simp
    · rfl
  | blockBroken _ frames =>
    left
    constructor
    · simp [Conn.ids, map_modify_of_eq]
    · intro other
      rcases frames with rfl | frames
      · simp
      · simp [frames.not_mem]
    · simp
    · rfl
  | close _ closing
  | closeReset _ closing
  | drop _ closing
  | pullError _ _ closing =>
    left
    constructor
    · simp [Conn.ids, map_modify_of_eq, closing.id_eq]
    · simp
    · simp
    · rfl
  | _ =>
    left
    constructor
    · simp [Conn.ids, map_modify_of_eq, QuietChange.id_eq, RecvChange.id_eq,
        Function.comp_def, *]
    · simp
    · simp
    · rfl

/-! ## The table invariant -/

/-- Identifiers are used once, and only behind the preface. -/
structure TableValid (conn : Conn) : Prop where
  nodup : conn.ids.Nodup
  opened : ∀ id ∈ conn.ids, .opened id ∈ conn.log
  positive : ∀ id, .opened id ∈ conn.log → 0 < id
  small : ∀ id : Int, .opened id ∈ conn.log → id ≤ maxWindow
  client : conn.mode = .client → ∀ id, .opened id ∈ conn.log →
    id < conn.nextStreamId
  server : conn.mode = .server → ∀ id, .opened id ∈ conn.log →
    id ≤ conn.maxPeerStreamId
  nextStreamId : 0 < conn.nextStreamId
  maxPeerStreamId : 0 ≤ conn.maxPeerStreamId

theorem Admits.unopened (admits : Admits conn conn' id)
    (valid : TableValid conn) :
    .opened id ∉ conn.log := by
  intro member
  rcases admits.unused with ⟨client, equal, -⟩ | ⟨server, above, -⟩
  · have below := valid.client client id member
    omega
  · have below := valid.server server id member
    omega

/-- A new stream has a positive number. -/
theorem Admits.positive (admits : Admits conn conn' id)
    (valid : TableValid conn) : 0 < id := by
  rcases admits.unused with ⟨-, equal, -⟩ | ⟨-, above, -⟩
  · rw [equal]
    exact valid.nextStreamId
  · exact lt_of_le_of_lt valid.maxPeerStreamId above

/-- Opening a stream keeps the table valid. -/
theorem TableValid.admits (valid : TableValid conn)
    (sameMode : conn'.mode = conn.mode)
    (admits : Admits conn conn' id) : TableValid conn' := by
  have unopened := admits.unopened valid
  have unused : id ∉ conn.ids := fun member =>
    unopened (valid.opened id member)
  have idPositive := admits.positive valid
  constructor
  · rcases admits.ids with appended | ⟨slot, placed⟩
    · rw [appended, ← List.concat_eq_append]
      exact .concat unused valid.nodup
    · rw [placed]
      exact .set valid.nodup unused
  · intro other member
    rw [admits.opened]
    rcases admits.ids with appended | ⟨slot, placed⟩
    · rw [appended, List.mem_append, List.mem_singleton] at member
      exact member.imp_left (valid.opened other)
    · rw [placed] at member
      exact (List.mem_or_eq_of_mem_set member).imp_left (valid.opened other)
  · intro other member
    rcases (admits.opened other).mp member with old | rfl
    · exact valid.positive other old
    · exact idPositive
  · intro other member
    rcases (admits.opened other).mp member with old | rfl
    · exact valid.small other old
    · exact admits.small
  · intro client other member
    rw [sameMode] at client
    rcases admits.unused with ⟨-, equal, next, -⟩ | ⟨server, -⟩
    · rcases (admits.opened other).mp member with old | rfl
      · have below := valid.client client other old
        omega
      · omega
    · rw [client] at server
      cases server
  · intro server other member
    rw [sameMode] at server
    rcases admits.unused with ⟨client, -⟩ | ⟨-, above, peer, -⟩
    · rw [client] at server
      cases server
    · rcases (admits.opened other).mp member with old | rfl
      · have below := valid.server server other old
        omega
      · omega
  · have next := valid.nextStreamId
    rcases admits.unused with ⟨-, equal, next', -⟩ | ⟨-, -, -, next'⟩
    · omega
    · omega
  · have peer := valid.maxPeerStreamId
    rcases admits.unused with ⟨-, -, -, peer'⟩ | ⟨-, above, peer', -⟩
    · omega
    · omega

/-- The table of a live connection is valid. -/
theorem Live.table (live : Live conn) : TableValid conn := by
  refine live.induction ?_ ?_
  · intro conn initial
    constructor
    · simp [Conn.ids, initial.streams]
    · simp [Conn.ids, initial.streams]
    · simp [initial.log]
    · simp [initial.log]
    · simp [initial.log]
    · simp [initial.log]
    · exact initial.nextStreamId
    · exact initial.maxPeerStreamId.ge
  intro conn conn' _ valid step
  have sameMode := step.constant.1
  rcases step.table with keeps | ⟨id, admits⟩
  · have next := keeps.nextStreamId
    constructor
    · rw [keeps.ids]
      exact valid.nodup
    · intro id member
      rw [keeps.ids] at member
      exact (keeps.opened id).mpr (valid.opened id member)
    · intro id member
      exact valid.positive id ((keeps.opened id).mp member)
    · intro id member
      exact valid.small id ((keeps.opened id).mp member)
    · intro client id member
      rw [sameMode] at client
      exact lt_of_lt_of_le
        (valid.client client id ((keeps.opened id).mp member)) next
    · intro server id member
      rw [sameMode] at server
      rw [keeps.maxPeerStreamId]
      exact valid.server server id ((keeps.opened id).mp member)
    · exact lt_of_lt_of_le valid.nextStreamId next
    · rw [keeps.maxPeerStreamId]
      exact valid.maxPeerStreamId
  · exact valid.admits sameMode admits

/-! ## The preface comes first -/

/-- Streams and reset streams are there only behind the preface. -/
structure Prefaced (conn : Conn) : Prop where
  streams : conn.streams ≠ [] → conn.announced = true
  resets : ∀ id ∈ conn.resetIds, id ≠ 0 → conn.announced = true
  seen : conn.mode = .server → conn.seen = true → conn.failed = false →
    conn.announced = true

section

variable (step : Step conn conn')

include step

/-- What is announced stays announced. -/
theorem Step.announced (announced : conn.announced = true) :
    conn'.announced = true := by
  cases step with
  | prefaceFailed _ keeps _ => simpa using keeps announced
  | _ => simp [announced]

/-- What has failed stays failed. -/
theorem Step.failed (failed : conn.failed = true) : conn'.failed = true := by
  cases step <;> simp [failed]

/-- The preface of the peer is seen behind the own one, or it fails. -/
theorem Step.seen : conn'.seen = conn.seen ∨ conn'.announced = true ∨
    conn'.failed = true := by
  cases step <;> simp [*]

/-- The history of resets grows only while there are streams. -/
theorem Step.resetIds :
    (∀ id ∈ conn'.resetIds, id ≠ 0 → id ∈ conn.resetIds) ∨
      conn.streams ≠ [] := by
  cases step with
  | closeReset isOpen _
  | pullError isOpen _ _ =>
    right
    intro empty
    simp [Conn.OpenAt, empty] at isOpen
  | forget =>
    left
    intro id member nonzero
    simp only [Conn.note_resetIds, List.mem_map] at member
    rcases member with ⟨entry, old, equal⟩
    split at equal
    · exact absurd equal.symm nonzero
    · rw [← equal]
      exact old
  | _ =>
    left
    intro id member _
    simpa using member

theorem Step.seen_of_seen (seen : conn.seen = true) : conn'.seen = true := by
  cases step <;> simp [seen]

theorem Step.prefaceSeen_mem (member : .prefaceSeen ∈ conn'.log) :
    .prefaceSeen ∈ conn.log ∨ conn'.seen = true := by
  cases step with
  | note neutral =>
    left
    have distinct : Event.prefaceSeen ≠ _ := ne_of_neutral neutral rfl
    simpa [distinct] using member
  | message _ frames
  | headersOnly _ frames
  | trailersSent _ frames =>
    left
    simpa [frames.not_mem] using member
  | blockBroken _ frames =>
    left
    rcases frames with rfl | frames
    · simpa using member
    · simpa [frames.not_mem] using member
  | prefaceSeen | prefaceAnnounced | prefaceFailed => exact .inr rfl
  | _ =>
    left
    simpa using member

end

theorem Live.seen_of_mem (live : Live conn) (member : .prefaceSeen ∈ conn.log) :
    conn.seen = true := by
  revert member
  refine @Live.induction
    (fun conn => .prefaceSeen ∈ conn.log → conn.seen = true) ?_ ?_ conn live
  · intro conn initial member
    rw [initial.log] at member
    cases member
  · intro conn conn' _ seen step member
    rcases step.prefaceSeen_mem member with old | now
    · exact step.seen_of_seen (seen old)
    · exact now

/-- The streams of a live connection are behind its preface. -/
theorem Live.prefaced (live : Live conn) : Prefaced conn := by
  refine live.induction ?_ ?_
  · intro conn initial
    constructor
    · simp [initial.streams]
    · intro id member nonzero
      rw [initial.resetIds] at member
      exact absurd (List.eq_of_mem_replicate member) nonzero
    · simp [initial.seen]
  intro conn conn' live prefaced step
  constructor
  · intro nonempty
    rcases step.table with keeps | ⟨id, admits⟩
    · refine step.announced (prefaced.streams ?_)
      intro empty
      have ids := keeps.ids
      rw [Conn.ids, Conn.ids, empty, List.map_nil, List.map_eq_nil_iff] at ids
      exact nonempty ids
    · exact step.announced admits.announced
  · intro id member nonzero
    rcases step.resetIds with old | nonempty
    · exact step.announced (prefaced.resets id (old id member nonzero) nonzero)
    · exact step.announced (prefaced.streams nonempty)
  intro server seen sound
  rcases step.seen with same | announced | failed
  · rw [step.constant.1] at server
    rw [same] at seen
    refine step.announced (prefaced.seen server seen ?_)
    by_contra failed
    rw [step.failed (Bool.eq_true_of_not_eq_false failed)] at sound
    cases sound
  · exact announced
  · rw [failed] at sound
    cases sound

/-! ## What the peer has ended -/

/-- What the peer has ended stays ended. -/
theorem PeerEnded.mono {log log' : List Event} (ended : PeerEnded log id)
    (begins : log <+: log') :
    PeerEnded log' id := by
  rcases ended with ⟨header, payload, member, finishes⟩
  exact ⟨header, payload, begins.subset member, finishes⟩

theorem Step.blockEnd (step : Step conn conn') :
    conn'.blockEnd = conn.blockEnd ∨ ∀ id, conn'.blockEnd = some id →
      PeerEnded conn'.log id := by
  cases step with
  | blockBegins received => exact .inr received
  | _ => exact .inl (by simp)

theorem Live.blockEnd (live : Live conn) (ends : conn.blockEnd = some id) :
    PeerEnded conn.log id := by
  revert id
  refine @Live.induction (fun conn => ∀ {id}, conn.blockEnd = some id →
    PeerEnded conn.log id)
    ?_ ?_ conn live
  · intro conn initial id ends
    rw [initial.blockEnd] at ends
    cases ends
  intro conn conn' _ received step id ends
  rcases step.blockEnd with same | new
  · rw [same] at ends
    exact (received ends).mono step.log
  · exact new id ends

/-! ## Bounds -/

/-- The bounds on sizes which hold whatever the engine does. -/
structure Bounded (conn : Conn) : Prop where
  connConsumed : 0 ≤ conn.connConsumed
  connRecvWindow : conn.connRecvWindow ≤ maxWindow
  connLocalWindow_ge : (defaultWindow : Int) ≤ conn.connLocalWindow
  connLocalWindow_le : conn.connLocalWindow ≤ maxWindow
  peerFrame : conn.peerFrame ≤ maxFrameBytes
  outCapacity : conn.outCapacity = conn.outLimit

theorem ConsumedBelow.nonneg {consumed : Int}
    (below : ConsumedBelow conn consumed)
    (nonneg : 0 ≤ conn.connConsumed) : 0 ≤ consumed := by
  rcases below with same | zero | ⟨above, -⟩ <;> omega

/-- What is consumed stays below its bound. -/
theorem Step.connConsumed (step : Step conn conn') :
    ConsumedBelow conn conn'.connConsumed := by
  cases step with
  | consumed _ below _
  | consumeFailed below _
  | drained _ below _
  | delivered _ _ below _ _
  | spoiled below _ _ => simpa using below
  | _ => exact .inl (by simp)

/-- The receive window grows to its limit at most. -/
theorem Step.connRecvWindow (step : Step conn conn') :
    conn'.connRecvWindow ≤ max conn.connRecvWindow maxWindow := by
  cases step with
  | consumed _ _ fits
  | consumeFailed _ fits
  | drained _ _ fits
  | delivered _ _ _ fits _
  | spoiled _ fits _
  | prefaceFailed _ _ fits => simpa using fits
  | announce _ fits
  | prefaceAnnounced _ _ fits
  | grantedConn fits => exact le_max_of_le_right (by simpa using fits)
  | _ => exact le_max_of_le_left (by simp)

theorem Step.peerFrame_le (step : Step conn conn')
    (fits : conn.peerFrame ≤ maxFrameBytes) :
    conn'.peerFrame ≤ maxFrameBytes := by
  cases step <;> simpa

/-- The windows of a live connection are bounded. -/
theorem Live.bounded (live : Live conn) : Bounded conn := by
  refine live.induction ?_ ?_
  · intro conn initial
    constructor
    · exact initial.connConsumed.ge
    · rw [initial.connRecvWindow]
      decide
    · exact initial.connLocalWindow_ge
    · exact initial.connLocalWindow_le
    · exact initial.peerFrame
    · exact initial.outCapacity
  intro conn conn' _ bounded step
  rcases step.constant with ⟨-, -, -, sameLocal, sameCapacity, sameLimit⟩
  constructor
  · exact step.connConsumed.nonneg bounded.connConsumed
  · exact step.connRecvWindow.trans (max_le bounded.connRecvWindow le_rfl)
  · rw [sameLocal]
    exact bounded.connLocalWindow_ge
  · rw [sameLocal]
    exact bounded.connLocalWindow_le
  · exact step.peerFrame_le bounded.peerFrame
  · rw [sameCapacity, sameLimit]
    exact bounded.outCapacity

end Chttp.H2
