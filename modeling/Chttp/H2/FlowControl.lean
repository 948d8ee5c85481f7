import Chttp.Lib.Trace
import Chttp.H2.Simulation.Engine

/-!
# Flow control of the sending side

The log says how many octets of DATA were queued and how much credit was
accepted.  The send windows are the difference, in every run.
-/

namespace Chttp.H2

open Lib Hpack

/-! ## What the log says about credit -/

/-- The octets of DATA in an event. -/
def dataOctets : Event → Nat
  | .frame frame => if frame.type = .data then frame.payload.length else 0
  | _ => 0

variable (id : Int)

/-- The octets of DATA of a stream in an event. -/
def streamOctets : Event → Nat
  | .frame frame =>
    if frame.type = .data ∧ frame.streamId = id then
      frame.payload.length
    else
      0
  | _ => 0

/-- The credit which an event accepts for a stream, or for the connection. -/
def creditOctets : Event → Nat
  | .credited streamId increment => if streamId = id then increment else 0
  | _ => 0

variable (log : List Event)

/-- The octets of DATA queued on the connection. -/
def dataSent : Nat := total dataOctets log

/-- The octets of DATA queued on a stream. -/
def dataSentOn : Nat := total (streamOctets id) log

/-- The credit accepted for a stream; stream `0` is the connection. -/
def creditOn : Nat := total (creditOctets id) log

variable (log more : List Event)

@[simp]
theorem dataSent_append :
    dataSent (log ++ more) = dataSent log + dataSent more :=
  total_append _ _ _

@[simp]
theorem dataSentOn_append :
    dataSentOn id (log ++ more) = dataSentOn id log + dataSentOn id more :=
  total_append _ _ _

@[simp]
theorem creditOn_append :
    creditOn id (log ++ more) = creditOn id log + creditOn id more :=
  total_append _ _ _

@[simp]
theorem dataSent_singleton (event : Event) :
    dataSent [event] = dataOctets event :=
  total_singleton _ _

@[simp]
theorem dataSentOn_singleton (event : Event) :
    dataSentOn id [event] = streamOctets id event :=
  total_singleton _ _

@[simp]
theorem creditOn_singleton (event : Event) :
    creditOn id [event] = creditOctets id event :=
  total_singleton _ _

/-- The initial window after an event. -/
def nextInitialWindow (size : Nat) : Event → Nat
  | .initialWindow size => size
  | _ => size

/-- The initial window which the peer has announced last. -/
def initialWindow (log : List Event) : Nat :=
  log.foldl nextInitialWindow defaultWindow

/-- Events which neither send nor accept credit and open no stream. -/
def Event.unsent : Event → Bool
  | .frame queued => queued.type != .data
  | .credited _ _ => false
  | .initialWindow _ => false
  | .opened _ => false
  | _ => true

/-! ## What a step does to the send windows -/

/-- What a step does to the sending side. -/
inductive SendEffect (conn conn' : Conn) : Prop where
  | idle :
      (∀ event ∈ conn.news conn', event.unsent = true) →
        conn'.connSendWindow = conn.connSendWindow →
        conn'.peerInitial = conn.peerInitial →
        Carried Stream.sendWindow conn.streams conn'.streams →
        SendEffect conn conn'
  | emit (events : List Event) (flags : UInt8) (payload : Bytes)
      (change : Stream → Stream) {slot : Nat} {stream : Stream} :
      conn.OpenAt slot stream → conn'.log = conn.log ++ events ++
            [.frame (dataFrame flags stream.id payload)] →
        (∀ event ∈ events, event.unsent = true) →
        (payload ≠ [] → payload.length ≤ conn.connSendWindow ∧
          payload.length ≤ stream.sendWindow) →
        conn'.connSendWindow = conn.connSendWindow - payload.length →
        conn'.peerInitial = conn.peerInitial →
        conn'.streams = conn.streams.modify slot change →
        (change stream).id = stream.id →
        (change stream).sendWindow = stream.sendWindow - payload.length →
        SendEffect conn conn'
  | creditConn {increment : Nat} :
      conn'.log = conn.log ++ [.credited 0 increment] →
        conn.connSendWindow + increment ≤ maxWindow →
        conn'.connSendWindow = conn.connSendWindow + increment →
        conn'.peerInitial = conn.peerInitial →
        conn'.streams = conn.streams →
        SendEffect conn conn'
  | creditStream {slot increment : Nat} {stream : Stream} :
      conn.OpenAt slot stream →
        conn'.log = conn.log ++ [.credited stream.id increment] →
        stream.sendWindow + increment ≤ maxWindow →
        conn'.connSendWindow = conn.connSendWindow →
        conn'.peerInitial = conn.peerInitial →
        conn'.streams = conn.streams.modify slot
            (fun stream =>
              { stream with sendWindow := stream.sendWindow + increment }) →
        SendEffect conn conn'
  | shift {size : Nat} :
      conn'.log = conn.log ++ [.initialWindow size] → size ≤ maxWindow →
        (∀ stream ∈ conn.streams,
          shiftAllowed (size - conn.peerInitial) stream = true) →
        conn'.connSendWindow = conn.connSendWindow →
        conn'.peerInitial = size →
        conn'.streams = conn.streams.map
          (shiftWindow (size - conn.peerInitial)) →
        SendEffect conn conn'
  | opened {id : Int} {stream : Stream} :
      Admits conn conn' id → conn'.log = conn.log ++ [.opened id] →
        stream.id = id →
        stream.sendWindow = conn.peerInitial →
        conn'.connSendWindow = conn.connSendWindow →
        conn'.peerInitial = conn.peerInitial →
        (∀ stream' ∈ conn'.streams, stream' ∈ conn.streams ∨ stream' = stream) →
        SendEffect conn conn'

variable {events : List Event} {size slot : Nat} {conn conn' : Conn}
  {stream : Stream}

theorem HeaderFrames.unsent {id : Int} {endStream : Bool}
    (frames : HeaderFrames id endStream events) :
    ∀ event ∈ events, event.unsent = true := by
  rcases frames with ⟨flags, payload, rest, rfl, -, continuation⟩
  intro event member
  rcases List.mem_cons.mp member with rfl | member
  · rfl
  · rcases continuation event member with ⟨flags, payload, rfl⟩
    rfl

theorem Event.unsent_of_neutral {event : Event}
    (neutral : event.neutral = true) : event.unsent = true := by
  cases event <;> simp_all [Event.neutral, Event.unsent]

theorem length_cut {body : Bytes} {offset : Nat}
    (inside : offset + size ≤ body.length) :
    ((body.drop offset).take size).length = size := by
  rw [List.length_take, List.length_drop]
  omega

theorem emit_effect {body : Bytes} {flags : UInt8} {change : Stream → Stream}
    (isOpen : conn.OpenAt slot stream)
    (inside : stream.bodyOff + size ≤ body.length)
    (connFits : size ≤ conn.connSendWindow)
    (streamFits : size ≤ stream.sendWindow)
    (keeps : ∀ stream, (change stream).id = stream.id ∧
      (change stream).sendWindow = stream.sendWindow) :
    SendEffect conn
      (((conn.note
        (.frame (dataFrame flags stream.id
          ((body.drop stream.bodyOff).take size)))).spend slot
        size).updateStream slot change) := by
  have length := length_cut inside
  refine .emit [] flags ((body.drop stream.bodyOff).take size)
    (change ∘ fun stream =>
      { stream with sendWindow := stream.sendWindow - size })
    isOpen ?_ ?_ ?_ ?_ rfl ?_ ?_ ?_
  · simp
  · simp
  · rw [length]
    exact fun _ => ⟨connFits, streamFits⟩
  · rw [length]
    rfl
  · exact List.modify_modify_eq _ _ _ _
  · exact (keeps _).1
  · rw [length]
    exact (keeps _).2

/-- Every step has one of these effects on the sending side. -/
theorem Step.sends (step : Step conn conn') : SendEffect conn conn' := by
  cases step with
  | emitEmpty isOpen =>
    refine .emit [] flagEndStream [] Stream.endBody isOpen ?_ ?_ ?_ ?_ rfl rfl
      ?_ ?_ <;>
      simp [Stream.endBody, Stream.dropBody]
  | emitChunk isOpen _ _ _ inside connFits streamFits =>
    exact emit_effect isOpen inside connFits streamFits fun _ => ⟨rfl, rfl⟩
  | emitLast isOpen _ _ _ inside _ connFits streamFits =>
    exact emit_effect isOpen inside.le connFits streamFits fun _ => ⟨rfl, rfl⟩
  | emitFinal isOpen _ _ _ inside _ _ connFits streamFits =>
    exact emit_effect isOpen inside.le connFits streamFits fun _ => ⟨rfl, rfl⟩
  | pullData isOpen _ _ _ _ connFits streamFits =>
    refine .emit [_] 0 _ _ isOpen rfl ?_
      (fun _ => ⟨connFits, streamFits⟩) rfl rfl rfl ?_ ?_ <;>
      simp [Event.unsent]
  | pullEnd isOpen =>
    refine .emit [_] flagEndStream [] _ isOpen rfl ?_ ?_ ?_ rfl rfl ?_ ?_ <;>
      simp [Event.unsent]
  | creditConn fits => exact .creditConn rfl fits rfl rfl rfl
  | creditStream isOpen fits => exact .creditStream isOpen rfl fits rfl rfl rfl
  | shift small allowed => exact .shift rfl small allowed rfl rfl rfl
  | openLocal client announced below placed =>
    exact .opened (admits_local client announced below placed) rfl rfl rfl
      rfl rfl fun _ => placed.mem
  | openRemote server announced _ below small placed =>
    exact .opened (admits_remote server announced below small placed) rfl
      rfl rfl rfl rfl fun _ => placed.mem
  | note neutral =>
    refine .idle ?_ rfl rfl (.refl _)
    simp [Conn.news, Event.unsent_of_neutral neutral]
  | message _ frames
  | headersOnly _ frames
  | trailersSent _ frames =>
    refine .idle ?_ rfl rfl (by simp)
    simpa [Conn.news, or_imp, forall_and, Event.unsent] using frames.unsent
  | blockBroken _ frames =>
    refine .idle ?_ rfl rfl (by simp)
    rcases frames with rfl | frames
    · simp [Conn.news, Event.unsent]
    · simpa [Conn.news, or_imp, forall_and, Event.unsent] using frames.unsent
  | close _ closing
  | closeReset _ closing
  | drop _ closing
  | pullError _ _ closing =>
    refine .idle ?_ (by simp) (by simp) ?_
    · simp +contextual [Conn.news, or_imp, Event.unsent]
    · have keeps (stream : Stream) :=
        congrArg Stream.sendWindow (closing stream)
      simpa using closing.carried keeps conn.streams _
  | tune quiet =>
    refine .idle ?_ rfl rfl (.modify _ _ fun stream => ?_)
    · simp [Conn.news]
    · rw [quiet stream]
      exact ⟨rfl, rfl, id⟩
  | consumeStreamFailed recv
  | spoiled _ _ recv =>
    refine .idle ?_ rfl rfl (.modify _ _ fun stream => ?_)
    · simp [Conn.news, Event.unsent]
    · rw [(recv stream).1]
      exact ⟨rfl, rfl, id⟩
  | emitTrailers _ _ isHeaders =>
    refine .idle ?_ rfl rfl (by simp [Stream.endBody, Stream.dropBody])
    simp [Conn.news, Event.unsent, isHeaders]
  | _ =>
    refine .idle ?_ rfl rfl (by simp)
    simp +contextual [Conn.news, Event.unsent]

/-! ## Windows are credit less DATA -/

section Unsent

variable {events : List Event}
  (unsent : ∀ event ∈ events, event.unsent = true)

include unsent

theorem nothing_of_unsent :
    dataSent events = 0 ∧ (∀ id, dataSentOn id events = 0) ∧
    ∀ id, creditOn id events = 0 := by
  refine ⟨total_eq_zero ?_, fun id => total_eq_zero ?_,
    fun id => total_eq_zero ?_⟩
  all_goals
    intro event member
    have quiet := unsent event member
    cases event <;> simp_all [Event.unsent, dataOctets, streamOctets,
      creditOctets]

theorem foldl_of_unsent (size : Nat) :
    events.foldl nextInitialWindow size = size := by
  induction events with
  | nil => rfl
  | cons event events induction =>
    rw [List.forall_mem_cons] at unsent
    have keeps : nextInitialWindow size event = size := by
      cases event with
      | initialWindow => cases unsent.1
      | _ => rfl
    rw [List.foldl_cons, keeps, induction unsent.2]

theorem initialWindow_append_of_unsent (log : List Event) :
    initialWindow (log ++ events) = initialWindow log := by
  rw [initialWindow, List.foldl_append, foldl_of_unsent unsent]
  rfl

end Unsent

/-- The frames which are held to the windows: DATA with octets. -/
def Frame.Counted (frame : Frame) : Prop :=
  frame.type = .data ∧ frame.payload ≠ []

/-- What a frame leaves of the windows when it is queued. -/
def WithinWindows (before : List Event) (frame : Frame) : Prop :=
  dataSent (before ++ [.frame frame]) ≤ defaultWindow + creditOn 0 before ∧
    dataSentOn frame.streamId (before ++ [.frame frame]) ≤
      initialWindow before + creditOn frame.streamId before

/-- The send windows are what the log says. -/
structure SendValid (conn : Conn) : Prop where
  connection : conn.connSendWindow =
    defaultWindow + creditOn 0 conn.log - dataSent conn.log
  connSendWindow_nonneg : 0 ≤ conn.connSendWindow
  connSendWindow_le : conn.connSendWindow ≤ maxWindow
  peerInitial : conn.peerInitial = initialWindow conn.log
  peerInitial_le : conn.peerInitial ≤ maxWindow
  range : ∀ stream ∈ conn.streams, -2 ^ 31 ≤ stream.sendWindow ∧
    stream.sendWindow ≤ maxWindow
  streams : ∀ stream ∈ conn.streams, stream.closed = false → stream.sendWindow =
      initialWindow conn.log + creditOn stream.id conn.log -
        dataSentOn stream.id conn.log
  unopened : ∀ id, id ≠ 0 → .opened id ∉ conn.log →
    creditOn id conn.log = 0 ∧ dataSentOn id conn.log = 0
  frames : ∀ before frame, before ++ [.frame frame] <+: conn.log →
    frame.Counted → WithinWindows before frame

/-- The send windows of a new connection. -/
theorem SendValid.initial (initial : conn.Initial) : SendValid conn := by
  constructor
  · simp [initial.connSendWindow, initial.log, creditOn, dataSent]
  · rw [initial.connSendWindow]
    exact Int.natCast_nonneg _
  · rw [initial.connSendWindow]
    decide
  · rw [initial.peerInitial, initial.log]
    rfl
  · rw [initial.peerInitial]
    decide
  · simp [initial.streams]
  · simp [initial.streams]
  · simp [initial.log, creditOn, dataSentOn]
  · simp [initial.log]

/-- Windows which move with what the events of a step amount to. -/
structure Booked (conn conn' : Conn) (events : List Event) : Prop where
  log : conn'.log = conn.log ++ events
  connection : conn'.connSendWindow =
    conn.connSendWindow + creditOn 0 events - dataSent events
  connSendWindow_nonneg : 0 ≤ conn'.connSendWindow
  connSendWindow_le : conn'.connSendWindow ≤ maxWindow
  peerInitial : conn'.peerInitial =
    events.foldl nextInitialWindow conn.peerInitial
  peerInitial_le : conn'.peerInitial ≤ maxWindow
  range : ∀ stream ∈ conn'.streams, -2 ^ 31 ≤ stream.sendWindow ∧
    stream.sendWindow ≤ maxWindow
  streams : ∀ stream' ∈ conn'.streams, stream'.closed = false →
    (∃ stream ∈ conn.streams, stream.closed = false ∧ stream.id = stream'.id ∧
      stream'.sendWindow =
        stream.sendWindow + (conn'.peerInitial - conn.peerInitial) +
          creditOn stream.id events - dataSentOn stream.id events) ∨
      stream'.id ≠ 0 ∧ .opened stream'.id ∉ conn.log ∧
        stream'.sendWindow = conn'.peerInitial
  unopened : ∀ id, id ≠ 0 → .opened id ∉ conn.log →
    creditOn id events = 0 ∧ dataSentOn id events = 0
  frames : ∀ before frame, before ++ [.frame frame] <+: events → frame.Counted →
    WithinWindows (conn.log ++ before) frame

/-- A step which books its events keeps the send windows. -/
theorem SendValid.booked (valid : SendValid conn)
    (booked : Booked conn conn' events) :
    SendValid conn' := by
  have initial : conn'.peerInitial = initialWindow conn'.log := by
    rw [booked.peerInitial, booked.log, initialWindow, List.foldl_append,
      valid.peerInitial]
    rfl
  constructor
  · rw [booked.connection, valid.connection, booked.log, creditOn_append,
      dataSent_append]
    omega
  · exact booked.connSendWindow_nonneg
  · exact booked.connSendWindow_le
  · exact initial
  · exact booked.peerInitial_le
  · exact booked.range
  · intro stream' member isOpen
    rw [← initial, booked.log, creditOn_append, dataSentOn_append]
    rcases booked.streams stream' member isOpen with
      ⟨stream, old, wasOpen, sameId, moved⟩ | ⟨nonzero, fresh, window⟩
    · have before := valid.streams stream old wasOpen
      rw [← valid.peerInitial] at before
      rw [moved, before, ← sameId]
      omega
    · rw [(valid.unopened _ nonzero fresh).1,
        (valid.unopened _ nonzero fresh).2,
        (booked.unopened _ nonzero fresh).1,
        (booked.unopened _ nonzero fresh).2, window]
      omega
  · intro id nonzero unopened
    rw [booked.log, List.mem_append, not_or] at unopened
    rw [booked.log, creditOn_append, dataSentOn_append,
      (valid.unopened id nonzero unopened.1).1,
      (valid.unopened id nonzero unopened.1).2,
      (booked.unopened id nonzero unopened.1).1,
      (booked.unopened id nonzero unopened.1).2]
    exact ⟨rfl, rfl⟩
  intro before frame begins counted
  rw [booked.log, concat_prefix_append_iff] at begins
  rcases begins with old | ⟨between, rfl, new⟩
  · exact valid.frames before frame old counted
  · exact booked.frames between frame new counted

/-! ## Every step is booked -/

section Booked

variable {conn conn' : Conn} (valid : SendValid conn)
  (table : TableValid conn)

include valid

theorem booked_idle (log : conn'.log = conn.log ++ events)
    (unsent : ∀ event ∈ events, event.unsent = true)
    (sameWindow : conn'.connSendWindow = conn.connSendWindow)
    (sameInitial : conn'.peerInitial = conn.peerInitial)
    (same : Carried Stream.sendWindow conn.streams conn'.streams) :
    Booked conn conn' events := by
  obtain ⟨noData, noDataOn, noCredit⟩ := nothing_of_unsent unsent
  constructor
  · exact log
  · rw [sameWindow, noCredit, noData]
    omega
  · rw [sameWindow]
    exact valid.connSendWindow_nonneg
  · rw [sameWindow]
    exact valid.connSendWindow_le
  · rw [sameInitial, foldl_of_unsent unsent]
  · rw [sameInitial]
    exact valid.peerInitial_le
  · intro stream' member
    rcases same stream' member with ⟨stream, old, -, window, -⟩
    rw [← window]
    exact valid.range stream old
  · intro stream' member isOpen
    rcases same.of_open member isOpen with
      ⟨stream, old, wasOpen, sameId, window⟩
    refine .inl ⟨stream, old, wasOpen, sameId, ?_⟩
    rw [noCredit, noDataOn, sameInitial, window]
    omega
  · exact fun id _ _ => ⟨noCredit id, noDataOn id⟩
  · intro before frame begins counted
    have quiet := unsent (.frame frame) (begins.subset (by simp))
    simp [Event.unsent, counted.1] at quiet

include table

/-- Octets which both windows have are booked. -/
theorem booked_emit {flags : UInt8} {payload : Bytes} {change : Stream → Stream}
    (isOpen : conn.OpenAt slot stream)
    (log : conn'.log = conn.log ++ events ++
      [.frame (dataFrame flags stream.id payload)])
    (unsent : ∀ event ∈ events, event.unsent = true)
    (fits : payload ≠ [] → payload.length ≤ conn.connSendWindow ∧
        payload.length ≤ stream.sendWindow)
    (window : conn'.connSendWindow = conn.connSendWindow - payload.length)
    (initial : conn'.peerInitial = conn.peerInitial)
    (streams : conn'.streams = conn.streams.modify slot change)
    (sameId : (change stream).id = stream.id)
    (spent : (change stream).sendWindow = stream.sendWindow - payload.length) :
    Booked conn conn'
      (events ++ [.frame (dataFrame flags stream.id payload)]) := by
  have member : stream ∈ conn.streams := List.mem_of_getElem? isOpen.1
  have range := valid.range stream member
  have members (other) (changed : other ∈ conn'.streams) :=
    mem_modify_of_present table.nodup isOpen.1 (streams ▸ changed)
  obtain ⟨noData, noDataOn, noCredit⟩ := nothing_of_unsent unsent
  have sound : (payload.length : Int) ≤ conn.connSendWindow ∧
      -2 ^ 31 ≤ stream.sendWindow - payload.length := by
    by_cases empty : payload = []
    · rw [empty]
      simpa using ⟨valid.connSendWindow_nonneg, range.1⟩
    · have room := fits empty
      exact ⟨room.1, by omega⟩
  constructor
  · rw [log, List.append_assoc]
  · simp [window, noCredit, noData, creditOctets, dataOctets, dataFrame]
  · omega
  · have below := valid.connSendWindow_le
    omega
  · rw [initial, List.foldl_append, foldl_of_unsent unsent]
    rfl
  · rw [initial]
    exact valid.peerInitial_le
  · intro other changed
    rcases members other changed with ⟨old, -⟩ | rfl
    · exact valid.range other old
    · rw [spent]
      omega
  · intro other changed stillOpen
    left
    rcases members other changed with ⟨old, otherId⟩ | rfl
    · refine ⟨other, old, stillOpen, rfl, ?_⟩
      simp [initial, noCredit, noDataOn, creditOctets, streamOctets, dataFrame,
        Ne.symm otherId]
    · refine ⟨stream, member, isOpen.2, sameId.symm, ?_⟩
      simp [initial, noCredit, noDataOn, creditOctets, streamOctets, dataFrame,
        spent]
  · intro id nonzero unopened
    have other : stream.id ≠ id := by
      rintro rfl
      exact unopened (table.opened _ (List.mem_map_of_mem member))
    simp [noCredit, noDataOn, creditOctets, streamOctets, dataFrame, other]
  intro before frame begins counted
  rw [concat_prefix_concat_iff] at begins
  rcases begins with old | ⟨rfl, equal⟩
  · have quiet := unsent (.frame frame) (old.subset (by simp))
    simp [Event.unsent, counted.1] at quiet
  cases equal
  have room := fits counted.2
  have connection := valid.connection
  have bound := valid.streams stream member isOpen.2
  rw [WithinWindows, initialWindow_append_of_unsent unsent]
  simp only [dataSent_append, dataSentOn_append, creditOn_append,
    noData, noDataOn, noCredit, dataSent_singleton,
    dataSentOn_singleton]
  simp only [dataOctets, streamOctets, dataFrame, and_self, if_true]
  omega

theorem booked_creditConn {increment : Nat}
    (log : conn'.log = conn.log ++ [.credited 0 increment])
    (fits : conn.connSendWindow + increment ≤ maxWindow)
    (window : conn'.connSendWindow = conn.connSendWindow + increment)
    (initial : conn'.peerInitial = conn.peerInitial)
    (streams : conn'.streams = conn.streams) :
    Booked conn conn' [.credited 0 increment] := by
  have nonneg := valid.connSendWindow_nonneg
  constructor
  · exact log
  · simp [window, creditOctets, dataOctets]
  · omega
  · omega
  · exact initial
  · rw [initial]
    exact valid.peerInitial_le
  · rw [streams]
    exact valid.range
  · intro stream member isOpen
    rw [streams] at member
    have positive :=
      table.positive _ (table.opened _ (List.mem_map_of_mem member))
    refine .inl ⟨stream, member, isOpen, rfl, ?_⟩
    simp [initial, creditOctets, streamOctets, positive.ne]
  · intro id nonzero _
    simp [creditOctets, streamOctets, Ne.symm nonzero]
  · intro before frame begins _
    cases (concat_prefix_singleton_iff.mp begins).2

/-- Credit for one open stream is booked. -/
theorem booked_creditStream {increment : Nat} (isOpen : conn.OpenAt slot stream)
    (log : conn'.log = conn.log ++ [.credited stream.id increment])
    (fits : stream.sendWindow + increment ≤ maxWindow)
    (window : conn'.connSendWindow = conn.connSendWindow)
    (initial : conn'.peerInitial = conn.peerInitial)
    (streams : conn'.streams = conn.streams.modify slot fun stream =>
        { stream with sendWindow := stream.sendWindow + increment }) :
    Booked conn conn' [.credited stream.id increment] := by
  have member : stream ∈ conn.streams := List.mem_of_getElem? isOpen.1
  have range := valid.range stream member
  have members (other) (changed : other ∈ conn'.streams) :=
    mem_modify_of_present table.nodup isOpen.1 (streams ▸ changed)
  have opened := table.opened _ (List.mem_map_of_mem member)
  have positive := table.positive _ opened
  constructor
  · exact log
  · simp [window, creditOctets, dataOctets, positive.ne']
  · rw [window]
    exact valid.connSendWindow_nonneg
  · rw [window]
    exact valid.connSendWindow_le
  · exact initial
  · rw [initial]
    exact valid.peerInitial_le
  · intro other changed
    rcases members other changed with ⟨old, -⟩ | rfl
    · exact valid.range other old
    · constructor
      · simp only
        omega
      · exact fits
  · intro other changed stillOpen
    left
    rcases members other changed with ⟨old, otherId⟩ | rfl
    · refine ⟨other, old, stillOpen, rfl, ?_⟩
      simp [initial, creditOctets, streamOctets, Ne.symm otherId]
    · refine ⟨stream, member, isOpen.2, rfl, ?_⟩
      simp [initial, creditOctets, streamOctets]
  · intro id nonzero unopened
    have other : stream.id ≠ id := by
      rintro rfl
      exact unopened opened
    simp [creditOctets, streamOctets, other]
  · intro before frame begins _
    cases (concat_prefix_singleton_iff.mp begins).2

omit table

/-- A new initial window is booked for every stream. -/
theorem booked_shift (log : conn'.log = conn.log ++ [.initialWindow size])
    (small : size ≤ maxWindow)
    (allowed : ∀ stream ∈ conn.streams,
      shiftAllowed (size - conn.peerInitial) stream = true)
    (window : conn'.connSendWindow = conn.connSendWindow)
    (initial : conn'.peerInitial = size)
    (streams : conn'.streams =
      conn.streams.map (shiftWindow (size - conn.peerInitial))) :
    Booked conn conn' [.initialWindow size] := by
  constructor
  · exact log
  · simp [window, creditOctets, dataOctets]
  · rw [window]
    exact valid.connSendWindow_nonneg
  · rw [window]
    exact valid.connSendWindow_le
  · exact initial
  · rw [initial]
    exact small
  · intro stream' shifted
    rw [streams] at shifted
    rcases List.mem_map.mp shifted with ⟨stream, member, rfl⟩
    have allowedHere := allowed stream member
    rw [shiftWindow]
    split
    · exact valid.range stream member
    · rename_i isOpen
      simpa [shiftAllowed, isOpen] using allowedHere
  · intro stream' shifted isOpen
    rw [streams] at shifted
    rcases List.mem_map.mp shifted with ⟨stream, member, rfl⟩
    rw [shiftWindow] at isOpen ⊢
    split at isOpen
    · rename_i closed
      rw [closed] at isOpen
      cases isOpen
    · rename_i wasOpen
      refine .inl ⟨stream, member, isOpen, ?_, ?_⟩
      · rw [if_neg wasOpen]
      · simp [wasOpen, initial, creditOctets, streamOctets]
  · intro id _ _
    simp [creditOctets, streamOctets]
  · intro before frame begins _
    cases (concat_prefix_singleton_iff.mp begins).2

theorem booked_opened {id : Int} (log : conn'.log = conn.log ++ [.opened id])
    (isId : stream.id = id) (fresh : .opened id ∉ conn.log) (positive : 0 < id)
    (full : stream.sendWindow = conn.peerInitial)
    (window : conn'.connSendWindow = conn.connSendWindow)
    (initial : conn'.peerInitial = conn.peerInitial)
    (members : ∀ stream' ∈ conn'.streams, stream' ∈ conn.streams ∨
      stream' = stream) :
    Booked conn conn' [.opened id] := by
  constructor
  · exact log
  · simp [window, creditOctets, dataOctets]
  · rw [window]
    exact valid.connSendWindow_nonneg
  · rw [window]
    exact valid.connSendWindow_le
  · exact initial
  · rw [initial]
    exact valid.peerInitial_le
  · intro stream' member
    rcases members stream' member with old | rfl
    · exact valid.range stream' old
    · have small := valid.peerInitial_le
      rw [full]
      omega
  · intro stream' member isOpen
    rcases members stream' member with old | rfl
    · refine .inl ⟨stream', old, isOpen, rfl, ?_⟩
      simp [initial, creditOctets, streamOctets]
    · right
      rw [isId, full, initial]
      exact ⟨by omega, fresh, rfl⟩
  · intro id _ _
    simp [creditOctets, streamOctets]
  · intro before frame begins _
    cases (concat_prefix_singleton_iff.mp begins).2

end Booked

/-- A step keeps the send windows. -/
theorem SendValid.step (valid : SendValid conn) (table : TableValid conn)
    (step : Step conn conn') :
    SendValid conn' := by
  cases step.sends with
  | idle unsent window initial same =>
    exact valid.booked
      (booked_idle valid step.log_news unsent window initial same)
  | emit events flags payload change isOpen log unsent fits window initial
      streams sameId spent =>
      exact valid.booked
        (booked_emit valid table isOpen log unsent fits window initial streams
          sameId spent)
  | creditConn log fits window initial streams =>
    exact valid.booked
      (booked_creditConn valid table log fits window initial streams)
  | creditStream isOpen log fits window initial streams =>
    exact valid.booked
      (booked_creditStream valid table isOpen log fits window initial streams)
  | shift log small allowed window initial streams =>
    exact valid.booked
      (booked_shift valid log small allowed window initial streams)
  | opened admits log isId full window initial members =>
    exact valid.booked
      (booked_opened valid log isId (admits.unopened table)
        (admits.positive table) full window initial members)

theorem Live.sendValid (live : Live conn) : SendValid conn := by
  refine live.induction ?_ ?_
  · exact fun _ => SendValid.initial
  · exact fun _ _ live valid step => valid.step live.table step

theorem SendValid.dataSent_le (valid : SendValid conn) {before : List Event}
    (begins : before <+: conn.log) :
    dataSent before ≤ defaultWindow + creditOn 0 before := by
  induction before using List.reverseRecOn with
  | nil => exact Nat.zero_le _
  | append_singleton before event induction =>
    have earlier := induction ((List.prefix_append _ _).trans begins)
    rw [creditOn_append, dataSent_append, dataSent_singleton]
    by_cases counted : ∃ frame, event = .frame frame ∧ frame.Counted
    · rcases counted with ⟨frame, rfl, counted⟩
      have within := (valid.frames before frame begins counted).1
      rw [dataSent_append, dataSent_singleton] at within
      omega
    have nothing : dataOctets event = 0 := by
      cases event with
      | frame frame =>
        rw [dataOctets]
        split
        · rename_i isData
          by_contra nonzero
          refine counted ⟨frame, rfl, isData, ?_⟩
          intro empty
          rw [empty] at nonzero
          exact nonzero rfl
        · rfl
      | _ => rfl
    omega

/-! ## Runs of an engine -/

/--
Flow control holds in every run.  The connection has never sent more than its
credit.  A DATA frame with octets fits the window of its stream when it is
queued.  The windows are credit less DATA, and `int32_t` values.
-/
theorem send_windows {mode : Mode} {config : Config} {cbs : Callbacks}
    {engine : Engine} (reachable : Reachable mode config cbs engine) :
    (∀ before, before <+: engine.world.log →
      dataSent before ≤ defaultWindow + creditOn 0 before) ∧
    (∀ before frame, before ++ [.frame frame] <+: engine.world.log →
      frame.type = .data → frame.payload ≠ [] →
        dataSentOn frame.streamId (before ++ [.frame frame]) ≤
          initialWindow before + creditOn frame.streamId before) ∧
    (engine.world.proto.connSendWindow =
        defaultWindow + creditOn 0 engine.world.log -
          dataSent engine.world.log ∧
      -2 ^ 31 ≤ engine.world.proto.connSendWindow ∧
      engine.world.proto.connSendWindow ≤ 2 ^ 31 - 1) ∧
    ∀ stream ∈ engine.world.proto.streams,
      (stream.closed = false →
        stream.sendWindow =
          initialWindow engine.world.log + creditOn stream.id engine.world.log -
            dataSentOn stream.id engine.world.log) ∧
      -2 ^ 31 ≤ stream.sendWindow ∧ stream.sendWindow ≤ 2 ^ 31 - 1 := by
  have valid := reachable.live.sendValid
  refine ⟨?_, ?_, ?_, ?_⟩
  · exact fun before begins => valid.dataSent_le begins
  · intro before frame begins isData nonempty
    exact (valid.frames before frame begins ⟨isData, nonempty⟩).2
  · have nonneg := valid.connSendWindow_nonneg
    exact ⟨valid.connection, le_trans (by decide) nonneg,
      valid.connSendWindow_le⟩
  · intro stream member
    exact ⟨valid.streams stream member, valid.range stream member⟩

/--
A client which has sent one octet when the peer sets its initial window to
zero, and then ends its stream.
-/
def shrunkRun : Engine := smallRun .client [] []
    [.call (.submitRequestHeaders [] false), .call (.submitData 1 [7] false),
      .call .send,
      .recv [0, 0, 6, 4, 0, 0, 0, 0, 0, 0, 4, 0, 0, 0, 0],
      .call (.submitData 1 [] true),
      .call .send]

theorem shrunkRun_reachable :
    Reachable .client Config.small Callbacks.all shrunkRun :=
  smallRun_reachable _ _ _ _

/-- The window of the stream has become negative, as the log says. -/
theorem send_windows_shrunk :
    shrunkRun.world.proto.streams.map Stream.sendWindow = [-1] ∧
    ∀ stream ∈ shrunkRun.world.proto.streams, stream.closed = false →
      stream.sendWindow =
        initialWindow shrunkRun.world.log +
          creditOn stream.id shrunkRun.world.log -
          dataSentOn stream.id shrunkRun.world.log := by
  constructor
  · decide
  · intro stream member
    exact ((send_windows shrunkRun_reachable).2.2.2 stream member).1

/--
Two things are outside the rule.  The window of a closed stream does not
follow the initial window of the peer, and an empty DATA frame is queued
whatever the window is.
-/
theorem send_windows_exceptions :
    (∃ engine, Reachable .client Config.small Callbacks.all engine ∧
      engine.world.proto.failed = false ∧
      ∃ stream ∈ engine.world.proto.streams,
        stream.sendWindow ≠ initialWindow engine.world.log +
            creditOn stream.id engine.world.log -
            dataSentOn stream.id engine.world.log) ∧
    ∃ engine, Reachable .client Config.small Callbacks.all engine ∧
      engine.world.proto.failed = false ∧
      ∃ before frame, before ++ [.frame frame] <+: engine.world.log ∧
        frame.type = .data ∧
        initialWindow before + creditOn frame.streamId before <
          dataSentOn frame.streamId (before ++ [.frame frame]) := by
  constructor
  · refine ⟨_, smallRun_reachable .client [] []
        [.call (.submitRequestHeaders [] true), .call .send,
          .recv [0, 0, 0, 4, 0, 0, 0, 0, 0],
          .recv [0, 0, 0, 1, 5, 0, 0, 0, 1],
          .recv [0, 0, 6, 4, 0, 0, 0, 0, 0, 0, 4, 0, 0, 0, 0]],
      ?_, ?_⟩
    · decide
    · decide
  refine ⟨shrunkRun, shrunkRun_reachable, ?_,
    shrunkRun.world.log.take 18, dataFrame flagEndStream 1 [], ?_, rfl, ?_⟩
  · decide
  · decide
  · decide

end Chttp.H2
