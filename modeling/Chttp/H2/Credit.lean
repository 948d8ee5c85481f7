import Chttp.Lib.Trace
import Chttp.H2.Simulation.Engine

/-!
# Receive credit

An application which gives back what it was handed, octet by octet, keeps the
receive windows at their targets: what the windows lack is what it still has.
-/

namespace Chttp.H2

open Lib Hpack

/-! ## What the application has -/

/-- The octets of DATA which an event hands to the application. -/
def deliveredOctets : Event → Nat
  | .callback (.data _ data) => data.length
  | _ => 0

/-- The octets of a stream which an event hands to the application. -/
def deliveredOctetsOn (id : Int) : Event → Nat
  | .callback (.data streamId data) =>
    if streamId = id then data.length else 0
  | _ => 0

/-- The octets which an event gives back to the connection. -/
def consumedOctets : Event → Nat
  | .called (.consumeConnection bytes) true => bytes
  | _ => 0

/-- The octets which an event gives back to a stream. -/
def consumedOctetsOn (id : Int) : Event → Nat
  | .called (.consumeStream streamId bytes) true =>
    if streamId = id then bytes else 0
  | _ => 0

/-- The octets which were delivered but not yet consumed. -/
def outstanding (log : List Event) : Int :=
  total deliveredOctets log - total consumedOctets log

/-- The octets of a stream which were delivered but not yet consumed. -/
def outstandingOn (id : Int) (log : List Event) : Int :=
  total (deliveredOctetsOn id) log - total (consumedOctetsOn id) log

/-- Octets are given back with success, and credit is not granted. -/
def Event.consumes : Event → Bool
  | .called (.consumeConnection _) succeeded => succeeded
  | .called (.consumeStream _ _) succeeded => succeeded
  | .called (.submitWindowUpdate _ _) _ => false
  | _ => true

/--
What the application has to do: it consumes only what was delivered, each
time with success, it does not grant credit on its own, and on a server it
leaves the announcement of settings to the engine.
-/
@[mk_iff]
structure Consuming (mode : Mode) (log : List Event) : Prop where
  consumes : ∀ event ∈ log, event.consumes = true
  delivered : ∀ before, before <+: log → 0 ≤ outstanding before
  settings : mode = .server → ∀ before,
    before ++ [.called .submitSettings true] <+: log →
      .prefaceSeen ∈ before

instance (mode : Mode) (log : List Event) : Decidable (Consuming mode log) :=
  decidable_of_iff' _ (consuming_iff mode log)

/-- An application which consumes along a log did so before. -/
theorem Consuming.mono {mode : Mode} {log longer : List Event}
    (consuming : Consuming mode longer) (begins : log <+: longer) :
    Consuming mode log where
  consumes event member := consuming.consumes event (begins.subset member)
  delivered before earlier := consuming.delivered before (earlier.trans begins)
  settings server before earlier :=
    consuming.settings server before (earlier.trans begins)

/-! ## What a step does to the receive windows -/

/-- The connection window when nothing is outstanding. -/
def Conn.target (conn : Conn) : Int :=
  if conn.announced then conn.connLocalWindow else defaultWindow

/-- The receive window of a stream and its target. -/
def Stream.recvWindows (stream : Stream) : Int × Int :=
  (stream.recvWindow, stream.localWindow)

/-- Receive windows which move with what the events of a step amount to. -/
structure Credited (conn conn' : Conn) (events : List Event) : Prop where
  log : conn'.log = conn.log ++ events
  connection : conn'.connRecvWindow + conn'.connConsumed + outstanding events =
    conn.connRecvWindow + conn.connConsumed + (conn'.target - conn.target)
  streams : ∀ stream' ∈ conn'.streams, stream'.closed = false →
    (∃ stream ∈ conn.streams, stream.closed = false ∧
      stream.id = stream'.id ∧ stream.localWindow = stream'.localWindow ∧
      stream'.recvWindow + outstandingOn stream.id events = stream.recvWindow) ∨
      .opened stream'.id ∉ conn.log ∧ stream'.recvWindow = stream'.localWindow
  unopened : ∀ id, .opened id ∉ conn.log → outstandingOn id events = 0

/-- Events which hand nothing over and take nothing back. -/
def Event.uncredited : Event → Bool
  | .callback (.data _ _) => false
  | .called (.consumeConnection _) _ => false
  | .called (.consumeStream _ _) _ => false
  | .opened _ => false
  | _ => true

@[simp]
theorem outstanding_append (log more : List Event) :
    outstanding (log ++ more) = outstanding log + outstanding more := by
  simp only [outstanding, total_append]
  omega

@[simp]
theorem outstandingOn_append (id : Int) (log more : List Event) :
    outstandingOn id (log ++ more) =
    outstandingOn id log + outstandingOn id more := by
  simp only [outstandingOn, total_append]
  omega

variable {events : List Event} {conn conn' : Conn}

theorem outstanding_of_uncredited (quiet : ∀ event ∈ events,
    event.uncredited = true) :
    outstanding events = 0 ∧ ∀ id, outstandingOn id events = 0 := by
  have nothing (measure : Event → Nat)
      (zero : ∀ event, event.uncredited = true → measure event = 0) :
      total measure events = 0 :=
    total_eq_zero fun event member => zero event (quiet event member)
  have zeros (event : Event) (isQuiet : event.uncredited = true) :
      deliveredOctets event = 0 ∧ consumedOctets event = 0 ∧ ∀ id,
      deliveredOctetsOn id event = 0 ∧
          consumedOctetsOn id event = 0 := by
    cases event with
    | callback entered =>
      cases entered with
      | data => cases isQuiet
      | _ => exact ⟨rfl, rfl, fun _ => ⟨rfl, rfl⟩⟩
    | called call succeeded =>
      cases call with
      | consumeConnection | consumeStream => cases isQuiet
      | _ => exact ⟨rfl, rfl, fun _ => ⟨rfl, rfl⟩⟩
    | _ => exact ⟨rfl, rfl, fun _ => ⟨rfl, rfl⟩⟩
  constructor
  · rw [outstanding, nothing _ fun event quiet => (zeros event quiet).1,
      nothing _ fun event quiet => (zeros event quiet).2.1]
    rfl
  · intro id
    rw [outstandingOn,
      nothing _ fun event quiet => ((zeros event quiet).2.2 id).1,
      nothing _ fun event quiet => ((zeros event quiet).2.2 id).2]
    rfl

section

variable (log : conn'.log = conn.log ++ events)
  (quiet : ∀ event ∈ events, event.uncredited = true)

include log quiet

theorem credited_quiet
    (recv : conn'.connRecvWindow + conn'.connConsumed =
      conn.connRecvWindow + conn.connConsumed +
        (conn'.target - conn.target))
    (carried : Carried Stream.recvWindows conn.streams conn'.streams) :
    Credited conn conn' events := by
  rcases outstanding_of_uncredited quiet with ⟨nothing, nothingOn⟩
  constructor
  · exact log
  · rw [nothing, recv]
    omega
  · intro stream' member isOpen
    rcases carried.of_open member isOpen with
      ⟨stream, old, wasOpen, sameId, same⟩
    rcases Prod.ext_iff.mp same with ⟨sameRecv, sameLocal⟩
    refine .inl ⟨stream, old, wasOpen, sameId, sameLocal, ?_⟩
    rw [nothingOn, Int.add_zero]
    exact sameRecv.symm
  · exact fun id _ => nothingOn id

theorem credited_idle
    (recv : conn'.connRecvWindow + conn'.connConsumed =
      conn.connRecvWindow + conn.connConsumed)
    (target : conn'.target = conn.target)
    (carried : Carried Stream.recvWindows conn.streams conn'.streams) :
    Credited conn conn' events := by
  refine credited_quiet log quiet ?_ carried
  rw [recv, target]
  omega

end

section

variable (large : (defaultWindow : Int) ≤ conn.connLocalWindow)
  (unannounced : conn.announced = false) (announced : conn'.announced = true)
  (sameLocal : conn'.connLocalWindow = conn.connLocalWindow)

include large unannounced announced sameLocal

theorem target_announced : conn'.target - conn.target = conn.enlargement := by
  rw [Conn.target, Conn.target, Conn.enlargement, unannounced, announced,
    sameLocal]
  simp only [if_true, Bool.false_eq_true, if_false]
  split
  · rfl
  · omega

theorem credited_announce (log : conn'.log = conn.log ++ events)
    (quiet : ∀ event ∈ events, event.uncredited = true)
    (recv : conn'.connRecvWindow = conn.connRecvWindow + conn.enlargement)
    (consumed : conn'.connConsumed = conn.connConsumed)
    (carried : Carried Stream.recvWindows conn.streams conn'.streams) :
    Credited conn conn' events := by
  refine credited_quiet log quiet ?_ carried
  rw [target_announced large unannounced announced sameLocal, recv, consumed]
  omega

end

theorem credited_consumed {bytes : Nat}
    (log : conn'.log = conn.log ++ [.called (.consumeConnection bytes) true])
    (balance : conn'.connRecvWindow + conn'.connConsumed =
      conn.connRecvWindow + conn.connConsumed + bytes) (target :
      conn'.target = conn.target)
    (streams : conn'.streams = conn.streams) :
    Credited conn conn' [.called (.consumeConnection bytes) true] := by
  have nothingOn (id : Int) :
      outstandingOn id [.called (.consumeConnection bytes) true] = 0 := by
    simp [outstandingOn, deliveredOctetsOn, consumedOctetsOn]
  constructor
  · exact log
  · simp only [outstanding, total_singleton, deliveredOctets, consumedOctets]
    omega
  · intro stream member isOpen
    rw [streams] at member
    refine .inl ⟨stream, member, isOpen, rfl, rfl, ?_⟩
    rw [nothingOn, Int.add_zero]
  · exact fun id _ => nothingOn id

theorem credited_stream (table : TableValid conn) {event : Event} {slot : Nat}
    {stream : Stream}
    {change : Stream → Stream} (isOpen : conn.OpenAt slot stream)
    (log : conn'.log = conn.log ++ [event])
    (balance : conn'.connRecvWindow + conn'.connConsumed + outstanding [event] =
      conn.connRecvWindow + conn.connConsumed) (target :
      conn'.target = conn.target)
    (streams : conn'.streams = conn.streams.modify slot change)
    (sameId : (change stream).id = stream.id)
    (sameLocal : (change stream).localWindow = stream.localWindow)
    (here : (change stream).recvWindow + outstandingOn stream.id [event] =
      stream.recvWindow)
    (elsewhere : ∀ id, id ≠ stream.id → outstandingOn id [event] = 0) :
    Credited conn conn' [event] := by
  have member : stream ∈ conn.streams := List.mem_of_getElem? isOpen.1
  constructor
  · exact log
  · rw [balance, target]
    omega
  · intro other changed stillOpen
    rw [streams] at changed
    left
    rcases mem_modify_of_present table.nodup isOpen.1 changed with
      ⟨old, otherId⟩ | rfl
    · refine ⟨other, old, stillOpen, rfl, rfl, ?_⟩
      rw [elsewhere _ otherId, Int.add_zero]
    · exact ⟨stream, member, isOpen.2, sameId.symm, sameLocal.symm, here⟩
  · intro id unopened
    apply elsewhere
    rintro rfl
    exact unopened (table.opened _ (List.mem_map_of_mem member))

theorem credited_opened (table : TableValid conn) {id : Int} {stream : Stream}
    (admits : Admits conn conn' id) (log : conn'.log = conn.log ++ [.opened id])
    (isId : stream.id = id) (full : stream.recvWindow = stream.localWindow)
    (recv : conn'.connRecvWindow + conn'.connConsumed =
      conn.connRecvWindow + conn.connConsumed)
    (target : conn'.target = conn.target)
    (members : ∀ stream' ∈ conn'.streams, stream' ∈ conn.streams ∨
      stream' = stream) :
    Credited conn conn' [.opened id] := by
  have nothingOn (other : Int) : outstandingOn other [.opened id] = 0 := by
    simp [outstandingOn, deliveredOctetsOn, consumedOctetsOn]
  constructor
  · exact log
  · simp only [outstanding, total_singleton, deliveredOctets, consumedOctets]
    omega
  · intro stream' member isOpen
    rcases members stream' member with old | rfl
    · refine .inl ⟨stream', old, isOpen, rfl, rfl, ?_⟩
      rw [nothingOn, Int.add_zero]
    · right
      rw [isId]
      exact ⟨admits.unopened table, full⟩
  · exact fun other _ => nothingOn other

theorem Event.uncredited_of_neutral {event : Event}
    (neutral : event.neutral = true) : event.uncredited = true := by
  cases event with
  | callback entered =>
    cases entered with
    | data => cases neutral
    | _ => rfl
  | called call succeeded =>
    cases call with
    | consumeConnection | consumeStream => cases neutral
    | _ => rfl
  | opened => cases neutral
  | _ => rfl

theorem HeaderFrames.uncredited {id : Int} {endStream : Bool}
    (frames : HeaderFrames id endStream events) :
    ∀ event ∈ events, event.uncredited = true := by
  intro event member
  rcases frames.frame_of_mem member with ⟨frame, rfl⟩
  rfl

/-- The receive windows are at their targets, up to what is outstanding. -/
structure CreditValid (conn : Conn) : Prop where
  connection : conn.connRecvWindow + conn.connConsumed + outstanding conn.log =
    conn.target
  streams : ∀ stream ∈ conn.streams, stream.closed = false →
    stream.recvWindow + outstandingOn stream.id conn.log = stream.localWindow
  unopened : ∀ id, .opened id ∉ conn.log → outstandingOn id conn.log = 0

/-- A step which books its credit keeps the balance. -/
theorem CreditValid.credited (valid : CreditValid conn)
    (credited : Credited conn conn' events) :
    CreditValid conn' := by
  constructor
  · have before := valid.connection
    have moved := credited.connection
    rw [credited.log, outstanding_append]
    omega
  · intro stream' member isOpen
    rw [credited.log, outstandingOn_append]
    rcases credited.streams stream' member isOpen with
      ⟨stream, old, wasOpen, sameId, sameLocal, moved⟩ | ⟨fresh, full⟩
    · have before := valid.streams stream old wasOpen
      rw [← sameId, ← sameLocal]
      omega
    · rw [valid.unopened _ fresh, credited.unopened _ fresh, full]
      omega
  intro id unopened
  rw [credited.log, List.mem_append, not_or] at unopened
  rw [credited.log, outstandingOn_append, valid.unopened id unopened.1,
    credited.unopened id unopened.1]
  rfl

/-- Every step of an application which consumes is credited. -/
theorem Step.credited (step : Step conn conn') (live : Live conn)
    (valid : CreditValid conn)
    (installed : conn.cbs.onData = true) (sound : conn'.failed = false)
    (consuming : Consuming conn'.mode conn'.log) :
    ∃ events, Credited conn conn' events := by
  have bounded := live.bounded
  have table := live.table
  have log := step.log_news
  cases step with
  | announce unannounced =>
    exact ⟨_, credited_announce bounded.connLocalWindow_ge unannounced rfl rfl
      log (by simp [Conn.news]) rfl rfl (.refl _)⟩
  | announceRefused unannounced exceeds =>
    -- The window is the default less what is outstanding, so it has room.
    have few := consuming.delivered conn.log List.prefix_rfl
    have balance := valid.connection
    have nonneg := bounded.connConsumed
    have target : conn.target = defaultWindow := by
      rw [Conn.target, unannounced]
      rfl
    have large := bounded.connLocalWindow_ge
    have small := bounded.connLocalWindow_le
    rw [Conn.enlargement] at exceeds
    split at exceeds <;> omega
  | settingsCalled =>
    refine ⟨_, credited_idle log ?_ rfl ?_ (.refl _)⟩
    · simp [Conn.news, Event.uncredited]
    -- A server has announced its settings once it has seen the preface.
    cases isServer : conn.mode with
    | client => simp [Conn.target]
    | server =>
      have seen := live.seen_of_mem
        (consuming.settings isServer conn.log List.prefix_rfl)
      have announced := live.prefaced.seen isServer seen sound
      simp [Conn.target, announced]
  | prefaceSeen server announced =>
    exact ⟨_, credited_idle log (by simp [Conn.news, Event.uncredited]) rfl rfl
      (.refl _)⟩
  | prefaceAnnounced server unannounced =>
    exact ⟨_, credited_announce bounded.connLocalWindow_ge unannounced rfl rfl
      log (by simp [Conn.news, Event.uncredited]) rfl rfl (.refl _)⟩
  | prefaceFailed | spoiled | blockBroken => cases sound
  | grantedConn
  | grantedStream
  | consumeFailed
  | consumeStreamFailed => cases consuming.consumes _ List.mem_concat_self
  | consumed balance =>
    exact ⟨_, credited_consumed rfl balance rfl rfl⟩
  | consumedStream isOpen =>
    refine ⟨_, credited_stream table isOpen rfl ?_ rfl rfl rfl rfl ?_ ?_⟩
    · simp [outstanding, deliveredOctets, consumedOctets]
    · simp [outstandingOn, deliveredOctetsOn, consumedOctetsOn]
    · intro id other
      simp [outstandingOn, deliveredOctetsOn, consumedOctetsOn, Ne.symm other]
  | drained balance =>
    exact ⟨_, credited_idle log (by simp [Conn.news]) balance rfl (.refl _)⟩
  | @delivered slot stream data _ _ _ _ isOpen balance _ _ streamBalance =>
    refine ⟨[.callback (.data stream.id data)],
      credited_stream table isOpen ?_ ?_ rfl rfl rfl rfl ?_ ?_⟩
    · simp [Callbacks.has, installed]
    · simp [outstanding, deliveredOctets, consumedOctets, balance]
    · simp [outstandingOn, deliveredOctetsOn, consumedOctetsOn, streamBalance]
    · intro id other
      simp [outstandingOn, deliveredOctetsOn, consumedOctetsOn, Ne.symm other]
  | openLocal client announced below placed =>
    exact ⟨_, credited_opened table
      (admits_local client announced below placed) rfl rfl rfl rfl rfl
      fun _ => placed.mem⟩
  | openRemote server announced _ below small placed =>
    exact ⟨_, credited_opened table
      (admits_remote server announced below small placed) rfl rfl rfl rfl
      rfl fun _ => placed.mem⟩
  | note neutral =>
    refine ⟨_, credited_idle log ?_ rfl rfl (.refl _)⟩
    simp [Conn.news, Event.uncredited_of_neutral neutral]
  | @refused call =>
    refine ⟨_, credited_idle log ?_ rfl rfl (.refl _)⟩
    have consumes := consuming.consumes _ List.mem_concat_self
    cases call with
    | consumeConnection | consumeStream => cases consumes
    | _ => simp [Conn.news, Event.uncredited]
  | message _ frames
  | headersOnly _ frames
  | trailersSent _ frames =>
    refine ⟨_, credited_idle log ?_ rfl rfl (by simp [Stream.recvWindows])⟩
    simpa [Conn.news, or_imp, forall_and,
      Event.uncredited] using frames.uncredited
  | close _ closing
  | closeReset _ closing
  | drop _ closing
  | pullError _ _ closing =>
    refine ⟨_, credited_idle log ?_ (by simp) (by simp [Conn.target]) ?_⟩
    · simp +contextual [Conn.news, or_imp, Event.uncredited]
    · have keeps (stream : Stream) :=
        congrArg Stream.recvWindows (closing stream)
      simpa using closing.carried keeps conn.streams _
  | tune quiet =>
    refine ⟨_, credited_idle log ?_ rfl rfl (.modify _ _ fun stream => ?_)⟩
    · simp [Conn.news]
    · rw [quiet stream]
      exact ⟨rfl, rfl, id⟩
  | @headerCallback event _ ofHeaders =>
    refine ⟨_, credited_idle log ?_ rfl rfl (.refl _)⟩
    cases event with
    | data => cases ofHeaders
    | _ => simp [Conn.news, Event.uncredited]
  | _ =>
    refine ⟨_, credited_idle log ?_ rfl rfl ?_⟩
    · simp [Conn.news, Event.uncredited]
    · simp [Stream.recvWindows, List.modify_modify_eq, Stream.endBody,
        Stream.dropBody]

/-- The windows of an application which consumes are at their targets. -/
theorem Live.creditValid (live : Live conn)
    (installed : conn.cbs.onData = true) (sound : conn.failed = false)
    (consuming : Consuming conn.mode conn.log) : CreditValid conn := by
  revert installed sound consuming
  refine @Live.induction
    (fun conn =>
      conn.cbs.onData = true → conn.failed = false →
        Consuming conn.mode conn.log → CreditValid conn)
    ?_ ?_ conn live
  · intro conn initial _ _ _
    constructor
    · simp [initial.connRecvWindow, initial.connConsumed, initial.log,
        Conn.target, initial.announced, outstanding]
    · simp [initial.streams]
    · simp [initial.log, outstandingOn]
  intro conn conn' live valid step installed sound consuming
  rw [step.constant.2.1] at installed
  have wasSound : conn.failed = false := by
    by_contra failed
    rw [step.failed (Bool.eq_true_of_not_eq_false failed)] at sound
    cases sound
  have earlier : Consuming conn.mode conn.log := by
    rw [← step.constant.1]
    exact consuming.mono step.log
  have before := valid installed wasSound earlier
  rcases step.credited live before installed sound consuming with
    ⟨events, credited⟩
  exact before.credited credited

/-! ## Bounds on the receive windows -/

/-- The bounds on receive windows, whatever the application does. -/
structure RecvBounded (conn : Conn) : Prop where
  localInitial : conn.localInitial ≤ maxWindow
  streams : ∀ stream ∈ conn.streams, stream.recvWindow ≤ maxWindow
  connConsumed : conn.connConsumed = 0 ∨
    conn.connConsumed < conn.connLocalWindow / 2

/-- A step does not raise the window of a stream over the limit. -/
theorem Step.stream_recvWindow (step : Step conn conn')
    (localInitial : conn.localInitial ≤ maxWindow)
    (bounded : ∀ stream ∈ conn.streams, stream.recvWindow ≤ maxWindow) :
    ∀ stream ∈ conn'.streams, stream.recvWindow ≤ maxWindow := by
  have carried (same : Carried Stream.recvWindow conn.streams conn'.streams) :
      ∀ stream ∈ conn'.streams, stream.recvWindow ≤ maxWindow := by
    intro stream member
    obtain ⟨old, there, -, equal, -⟩ := same stream member
    rw [← equal]
    exact bounded old there
  cases step with
  | openLocal _ _ _ placed
  | openRemote _ _ _ _ _ placed =>
    intro stream member
    rcases placed.mem member with old | rfl
    · exact bounded stream old
    · exact Int.ofNat_le.mpr localInitial
  | grantedStream isOpen fits
  | consumedStream isOpen fits =>
    refine forall_mem_modify bounded ?_
    intro stream present _
    rw [isOpen.1] at present
    cases present
    exact fits
  | delivered isOpen _ _ _ balance =>
    refine forall_mem_modify bounded ?_
    intro stream present below
    rw [isOpen.1] at present
    cases present
    simp only
    omega
  | consumeStreamFailed recv
  | spoiled _ _ recv =>
    refine forall_mem_modify bounded ?_
    intro stream _ below
    exact (recv stream).2.trans (max_le below le_rfl)
  | tune quiet =>
    refine carried (.modify _ _ fun stream => ?_)
    rw [quiet stream]
    exact ⟨rfl, rfl, id⟩
  | close _ closing
  | closeReset _ closing
  | drop _ closing
  | pullError _ _ closing =>
    have keeps (stream : Stream) := congrArg Stream.recvWindow (closing stream)
    exact carried (by simpa using closing.carried keeps conn.streams _)
  | _ =>
    exact carried (by
      simp [List.modify_modify_eq, Stream.endBody, Stream.dropBody])

theorem Step.localInitial_le (step : Step conn conn')
    (small : conn.localInitial ≤ maxWindow) :
    conn'.localInitial ≤ maxWindow := by
  cases step <;> simpa

theorem Live.recvBounded (live : Live conn) : RecvBounded conn := by
  refine live.induction ?_ ?_
  · intro conn initial
    constructor
    · exact initial.localInitial
    · simp [initial.streams]
    · exact .inl initial.connConsumed
  intro conn conn' _ bounded step
  constructor
  · exact step.localInitial_le bounded.localInitial
  · exact step.stream_recvWindow bounded.localInitial bounded.streams
  rw [step.constant.2.2.2.1]
  rcases step.connConsumed with same | zero | ⟨-, below⟩
  · rw [same]
    exact bounded.connConsumed
  · exact .inl zero
  · exact .inr below

/-! ## Runs of an engine -/

/--
Receive credit is conserved.  What the windows lack is what the application
has not consumed, no window exceeds the limit, and more than half of the
connection window is open when nothing is outstanding.
-/
theorem receive_credit {mode : Mode} {config : Config} {cbs : Callbacks}
    {engine : Engine}
    (reachable : Reachable mode config cbs engine)
    (installed : cbs.onData = true)
    (consuming : Consuming mode engine.world.log)
    (sound : engine.world.proto.failed = false)
    (announced : engine.world.proto.announced = true) :
    (engine.world.proto.connRecvWindow + engine.world.proto.connConsumed +
        outstanding engine.world.log =
      engine.world.proto.connLocalWindow) ∧
    (∀ stream ∈ engine.world.proto.streams, stream.closed = false →
      stream.recvWindow + outstandingOn stream.id engine.world.log =
        stream.localWindow) ∧
    (engine.world.proto.connRecvWindow ≤ 2 ^ 31 - 1 ∧
      ∀ stream ∈ engine.world.proto.streams, stream.recvWindow ≤ 2 ^ 31 - 1) ∧
    (outstanding engine.world.log = 0 → engine.world.proto.connLocalWindow / 2 <
        engine.world.proto.connRecvWindow) := by
  have live := reachable.live
  have recvBounded := live.recvBounded
  rcases reachable.constant with ⟨sameMode, sameCbs, -⟩
  have valid : CreditValid engine.world.conn := by
    apply live.creditValid _ sound
    · rw [show engine.world.conn.mode = mode from sameMode]
      exact consuming
    · rw [show engine.world.conn.cbs = cbs from sameCbs]
      exact installed
  have balance : engine.world.proto.connRecvWindow +
    engine.world.proto.connConsumed +
        outstanding engine.world.log =
      engine.world.proto.connLocalWindow := by
    have target : engine.world.conn.target =
      engine.world.proto.connLocalWindow := if_pos announced
    rw [← target]
    exact valid.connection
  refine ⟨balance, valid.streams,
    ⟨live.bounded.connRecvWindow, recvBounded.streams⟩, ?_⟩
  intro nothing
  have large : (defaultWindow : Int) ≤ engine.world.proto.connLocalWindow :=
    live.bounded.connLocalWindow_ge
  have waiting : engine.world.proto.connConsumed = 0 ∨
    engine.world.proto.connConsumed <
        engine.world.proto.connLocalWindow / 2 :=
    recvBounded.connConsumed
  simp only [defaultWindow] at large
  omega

/-- A server which was handed three octets and has given back two of them. -/
def consumedRun : Engine := smallRun .server [] []
    [.recv
      (clientPreface ++ [0, 0, 0, 4, 0, 0, 0, 0, 0] ++
        [0, 0, 0, 1, 4, 0, 0, 0, 1] ++
        [0, 0, 3, 0, 0, 0, 0, 0, 1, 7, 8, 9]),
      .call (.consumeConnection 2),
      .call (.consumeStream 1 2)]

theorem consumedRun_reachable :
    Reachable .server Config.small Callbacks.all consumedRun :=
  smallRun_reachable _ _ _ _

/-- One octet is outstanding, and it is missing in both windows. -/
theorem receive_credit_consumed : outstanding consumedRun.world.log = 1 ∧
    consumedRun.world.proto.connRecvWindow +
      consumedRun.world.proto.connConsumed +
        outstanding consumedRun.world.log =
      consumedRun.world.proto.connLocalWindow ∧
    ∀ stream ∈ consumedRun.world.proto.streams, stream.closed = false →
      stream.recvWindow + outstandingOn stream.id consumedRun.world.log =
        stream.localWindow := by
  have credit := receive_credit consumedRun_reachable rfl (by decide)
    (by decide) (by decide)
  exact ⟨by decide, credit.1, credit.2.1⟩

/--
Three things are outside the rule: credit which the application grants on its
own, DATA which nobody receives, and settings which a server announces before
the client preface is there, which leaves the connection window small.
-/
theorem receive_credit_exceptions :
    (∃ engine, Reachable .client Config.small Callbacks.all engine ∧
      engine.world.proto.failed = false ∧
      engine.world.proto.announced = true ∧
      outstanding engine.world.log = 0 ∧
      engine.world.proto.connRecvWindow + engine.world.proto.connConsumed ≠
        engine.world.proto.connLocalWindow) ∧
    (∃ engine, Reachable .server Config.small
      { Callbacks.all with onData := false }
        engine ∧
      engine.world.proto.failed = false ∧
      engine.world.proto.announced = true ∧
      outstanding engine.world.log = 0 ∧
      engine.world.proto.connRecvWindow + engine.world.proto.connConsumed ≠
        engine.world.proto.connLocalWindow) ∧
    ∃ engine, Reachable .server
        { Config.small with connectionReceiveWindowSize := 131070 }
        Callbacks.all engine ∧
      engine.world.proto.failed = false ∧
      engine.world.proto.announced = true ∧
      outstanding engine.world.log = 0 ∧
      engine.world.proto.connRecvWindow + engine.world.proto.connConsumed ≠
        engine.world.proto.connLocalWindow := by
  refine ⟨⟨_, smallRun_reachable .client [] []
    [.call (.submitWindowUpdate 0 1)],
      ?_⟩, ⟨_, reachable_run (create_small _ _ [] [])
        [.recv
          (clientPreface ++ [0, 0, 0, 4, 0, 0, 0, 0, 0] ++
            [0, 0, 0, 1, 4, 0, 0, 0, 1] ++
            [0, 0, 3, 0, 0, 0, 0, 0, 1, 7, 8, 9])], ?_⟩,
    ⟨_, @reachable_run _ _ _ [] [] rfl
      [.call .submitSettings, .recv clientPreface], ?_⟩⟩
  · decide
  · decide
  · decide

end Chttp.H2
