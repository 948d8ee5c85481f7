import Chttp.Lib.Trace
import Chttp.H2.Simulation.Engine

/-!
# Message bodies

What was queued for a stream is what was sent of it, followed by what its
record still holds.  The engine marks the end of a stream behind the last
octet, and queues nothing of the stream any more.
-/

namespace Chttp.H2

open Lib Hpack

variable (id : Int) (log : List Event)

/-! ## What the log says about a body -/

/-- The octets of a stream which an event sends. -/
def sentOctets : Event → Bytes
  | .frame frame =>
    if frame.type = .data ∧ frame.streamId = id then frame.payload else []
  | _ => []

/-- The octets which an event hands over for a stream. -/
def queuedOctets : Event → Bytes
  | .submitted streamId (.message (.flat octets)) =>
    if streamId = id then octets else []
  | .submitted streamId (.data octets _) =>
    if streamId = id then octets else []
  | .pulled streamId pull limit _ =>
    if streamId = id ∧ pull.status = .data ∧ pull.octets.length ≤ limit then
      pull.octets
    else
      []
  | _ => []

/-- The DATA payloads of a stream. -/
def sentOn : Bytes := log.flatMap (sentOctets id)

/-- The octets handed over for a stream, by the application or a source. -/
def queuedOn : Bytes := log.flatMap (queuedOctets id)

/-- A HEADERS or DATA frame of a stream. -/
def Frame.Carries (frame : Frame) : Prop :=
  frame.streamId = id ∧ (frame.type = .data ∨ frame.type = .headers)

/-- A frame which ends a stream. -/
def Frame.Ends (frame : Frame) : Prop :=
  frame.Carries id ∧ hasFlag frame.flags flagEndStream = true

instance (id : Int) (frame : Frame) : Decidable (frame.Carries id) :=
  inferInstanceAs (Decidable (_ ∧ _))

instance (id : Int) (frame : Frame) : Decidable (frame.Ends id) :=
  inferInstanceAs (Decidable (_ ∧ _))

/-- A stream was ended. -/
def Ended : Prop := ∃ frame, .frame frame ∈ log ∧ frame.Ends id

/--
What an event says about the submissions for a stream: one was accepted, or
the header block of one was broken, which is `none`.
-/
def attempt : Event → Option (Option Submission)
  | .submitted streamId submission =>
    if streamId = id then some (some submission) else none
  | .blockBroken streamId => if streamId = id then some none else none
  | _ => none

/-- The submissions for a stream. -/
def attempts : List (Option Submission) := log.filterMap (attempt id)

/-- No response was submitted on a stream, not even in vain. -/
def Unanswered : Prop := ∀ headers body succeeded,
    .called (.submitResponseEx id headers body) succeeded ∉ log

/--
One body is submitted for a stream: behind header blocks which leave it open,
one message, which may break, or any number of chunks.
-/
def OneBody : Prop := ∃ count rest,
    attempts id log = List.replicate count (some (.headers false)) ++ rest ∧
      (rest = [] ∨ rest = [none] ∨ (∃ body, rest = [some (.message body)]) ∨
        Unanswered id log ∧ ∃ chunks : List (Bytes × Bool),
            rest = chunks.map fun chunk => some (.data chunk.1 chunk.2))

/--
The body of a stream was marked final: it was a flat body, a chunk was the
last one, or its source has reported the end.  A header block which breaks
ends the connection.
-/
def Final : Prop :=
  (∃ octets, .submitted id (.message (.flat octets)) ∈ log) ∨
    (∃ octets, .submitted id (.data octets true) ∈ log) ∨
    (∃ pull limit room, .pulled id pull limit room ∈ log ∧ pull.status = .eof) ∨
    .blockBroken id ∈ log

/-! ## Growing logs -/

@[simp]
theorem sentOn_append (id : Int) (log more : List Event) :
    sentOn id (log ++ more) = sentOn id log ++ sentOn id more :=
  List.flatMap_append

@[simp]
theorem queuedOn_append (id : Int) (log more : List Event) :
    queuedOn id (log ++ more) = queuedOn id log ++ queuedOn id more :=
  List.flatMap_append

@[simp]
theorem sentOn_singleton (id : Int) (event : Event) :
    sentOn id [event] = sentOctets id event := by
  simp [sentOn]

@[simp]
theorem queuedOn_singleton (id : Int) (event : Event) :
    queuedOn id [event] = queuedOctets id event := by
  simp [queuedOn]

@[simp]
theorem attempts_append (id : Int) (log more : List Event) :
    attempts id (log ++ more) = attempts id log ++ attempts id more :=
  List.filterMap_append

variable {id : Int} {log more frames : List Event} {made : Option Submission}
  {event : Event}
  {stream : Stream} {endStream : Bool} {pull : Pull} {limit room : Nat}

theorem ended_append_iff : Ended id (log ++ more) ↔
    Ended id log ∨ Ended id more := by
  simp only [Ended, List.mem_append, or_and_right, exists_or]

theorem not_ended_of_ne_frame (noFrame : ∀ frame, event ≠ .frame frame) :
    ¬Ended id [event] := by
  rintro ⟨frame, member, -⟩
  exact noFrame frame (List.mem_singleton.mp member).symm

theorem ended_concat_iff (noFrame : ∀ frame, event ≠ .frame frame) :
    Ended id (log ++ [event]) ↔ Ended id log := by
  rw [ended_append_iff]
  exact or_iff_left (not_ended_of_ne_frame noFrame)

theorem sentOctets_of_ne_frame (noFrame : ∀ frame, event ≠ .frame frame) :
    sentOctets id event = [] := by
  cases event with
  | frame queued => exact absurd rfl (noFrame queued)
  | _ => rfl

theorem Unanswered.of_append (unanswered : Unanswered id (log ++ more)) :
    Unanswered id log :=
  fun headers body succeeded member =>
    unanswered headers body succeeded (List.mem_append_left _ member)

/-- What is final stays final. -/
theorem Final.append (final : Final id log) (more : List Event) :
    Final id (log ++ more) := by
  rcases final with ⟨octets, member⟩ | ⟨octets, member⟩ | ⟨pull, limit, room,
    member, eof⟩ | member
  · exact .inl ⟨octets, List.mem_append_left _ member⟩
  · exact .inr (.inl ⟨octets, List.mem_append_left _ member⟩)
  · exact .inr
      (.inr (.inl ⟨pull, limit, room, List.mem_append_left _ member, eof⟩))
  · exact .inr (.inr (.inr (List.mem_append_left _ member)))

/-- Events which are about the body of a stream. -/
def Event.touches (id : Int) : Event → Bool
  | .frame queued => queued.Carries id
  | .submitted streamId _ => streamId = id
  | .blockBroken streamId => streamId = id
  | .pulled streamId pull _ _ =>
    streamId = id ∧ (pull.status = .data ∨ pull.status = .eof)
  | _ => false

/-! ## Events about other streams -/

section Untouched

variable {id : Int} {events : List Event}

section

variable (untouched : ∀ event ∈ events, event.touches id = false)

include untouched

theorem sentOn_of_untouched : sentOn id events = [] := by
  rw [sentOn, List.flatMap_eq_nil_iff]
  intro event member
  have other := untouched event member
  unfold sentOctets
  split <;> grind [Event.touches, Frame.Carries]

theorem queuedOn_of_untouched : queuedOn id events = [] := by
  rw [queuedOn, List.flatMap_eq_nil_iff]
  intro event member
  have other := untouched event member
  unfold queuedOctets
  split <;> simp_all [Event.touches]

theorem attempts_of_untouched : attempts id events = [] := by
  rw [attempts, List.filterMap_eq_nil_iff]
  intro event member
  have other := untouched event member
  unfold attempt
  split <;> simp_all [Event.touches]

theorem not_ended_of_untouched : ¬Ended id events := by
  rintro ⟨frame, member, ends⟩
  have other := untouched _ member
  simp only [Event.touches, decide_eq_false_iff_not] at other
  exact other ends.1

end

end Untouched

/-! ## One body for each stream -/

/-- Only header blocks which leave a stream open were submitted. -/
def Opening (id : Int) (log : List Event) : Prop :=
  ∀ made ∈ attempts id log, made = some (.headers false)

/-- Only such header blocks and chunks were submitted. -/
def Chunked (id : Int) (log : List Event) : Prop := ∀ made ∈ attempts id log,
    made = some (.headers false) ∨
      ∃ octets last, made = some (.data octets last)

theorem Opening.of_append (opening : Opening id (log ++ more)) :
    Opening id log := by
  intro made member
  apply opening made
  rw [attempts_append]
  exact List.mem_append_left _ member

theorem OneBody.of_append (one : OneBody id (log ++ more)) :
    OneBody id log := by
  rcases one with ⟨count, rest, all, shape⟩
  rw [attempts_append, List.append_eq_append_iff] at all
  rcases all with ⟨tail, headers, -⟩ | ⟨front, whole, split⟩
  · rw [List.replicate_eq_append_iff] at headers
    exact ⟨_, [], by rw [List.append_nil]; exact headers.2.1, .inl rfl⟩
  refine ⟨count, front, whole, ?_⟩
  rcases shape with rfl | rfl | ⟨body, rfl⟩ | ⟨unanswered, chunks, rfl⟩
  · exact .inl (List.append_eq_nil_iff.mp split.symm).1
  · rcases List.singleton_eq_append_iff.mp split with ⟨rfl, -⟩ | ⟨rfl, -⟩
    · exact .inl rfl
    · exact .inr (.inl rfl)
  · rcases List.singleton_eq_append_iff.mp split with ⟨rfl, -⟩ | ⟨rfl, -⟩
    · exact .inl rfl
    · exact .inr (.inr (.inl ⟨body, rfl⟩))
  rcases List.map_eq_append_iff.mp split with
    ⟨first, second, -, equal, -⟩
  exact .inr (.inr (.inr ⟨unanswered.of_append, first, equal.symm⟩))

theorem opening_of_eq {count : Nat}
    (equal : attempts id log = List.replicate count (some (.headers false))) :
    Opening id log := by
  intro made member
  rw [equal] at member
  exact List.eq_of_mem_replicate member

/-- The last attempt opens the body or continues it. -/
theorem OneBody.last (one : OneBody id (log ++ more))
    (single : attempts id more = [made]) :
    (made = some (.headers false) ∨ made = none ∨
        ∃ body, made = some (.message body)) ∧ Opening id log ∨
      (∃ octets last, made = some (.data octets last)) ∧
        Unanswered id (log ++ more) ∧ Chunked id log := by
  rcases one with ⟨count, rest, all, shape⟩
  rw [attempts_append, single] at all
  have opening (empty : rest = []) : made = some (.headers false) ∧
      Opening id log := by
    rw [empty, List.append_nil] at all
    rcases List.append_eq_replicate_iff.mp all with ⟨-, earlier, last⟩
    exact ⟨List.eq_of_mem_replicate (last ▸ List.mem_singleton_self made),
      opening_of_eq earlier⟩
  rcases shape with empty | rfl | ⟨body, rfl⟩ | ⟨unanswered, chunks, rfl⟩
  · exact .inl ⟨.inl (opening empty).1, (opening empty).2⟩
  · rcases List.append_inj' all rfl with ⟨earlier, last⟩
    cases last
    exact .inl ⟨.inr (.inl rfl), opening_of_eq earlier⟩
  · rcases List.append_inj' all rfl with ⟨earlier, last⟩
    cases last
    exact .inl ⟨.inr (.inr ⟨body, rfl⟩), opening_of_eq earlier⟩
  rcases List.eq_nil_or_concat chunks with rfl | ⟨chunks, chunk, rfl⟩
  · exact .inl ⟨.inl (opening rfl).1, (opening rfl).2⟩
  rw [List.concat_eq_append, List.map_append, ← List.append_assoc] at all
  rcases List.append_inj' all rfl with ⟨earlier, last⟩
  cases last
  refine .inr ⟨⟨chunk.1, chunk.2, rfl⟩, unanswered, ?_⟩
  intro other member
  rw [earlier, List.mem_append] at member
  rcases member with header | data
  · exact .inl (List.eq_of_mem_replicate header)
  · rcases List.mem_map.mp data with ⟨chunk, -, rfl⟩
    exact .inr ⟨chunk.1, chunk.2, rfl⟩

/-! ## What was sent stays in order -/

/-- What the log says about the octets and frames of a stream. -/
structure History (id : Int) (log : List Event) : Prop where
  sound : ∀ before, before <+: log → sentOn id before <+: queuedOn id before
  complete : ∀ before frame, before ++ [.frame frame] <+: log → frame.Ends id →
    sentOn id (before ++ [.frame frame]) = queuedOn id log
  last : ∀ before frame, before ++ [.frame frame] <+: log → frame.Carries id →
    ¬Ended id before

theorem History.snoc (history : History id log)
    (sound : sentOn id (log ++ [event]) <+: queuedOn id (log ++ [event]))
    (nothing : Ended id log → queuedOctets id event = [])
    (complete : ∀ frame, event = .frame frame → frame.Ends id →
      sentOn id (log ++ [event]) = queuedOn id (log ++ [event]))
    (last : ∀ frame, event = .frame frame → frame.Carries id → ¬Ended id log) :
    History id (log ++ [event]) := by
  constructor
  · intro before begins
    rcases List.prefix_concat_iff.mp begins with rfl | old
    · exact sound
    · exact history.sound before old
  · intro before frame begins ends
    rcases concat_prefix_concat_iff.mp begins with old | ⟨rfl, rfl⟩
    · have ended : Ended id log :=
        ⟨frame, old.subset List.mem_concat_self, ends⟩
      rw [queuedOn_append, queuedOn_singleton, nothing ended, List.append_nil]
      exact history.complete before frame old ends
    · exact complete frame rfl ends
  · intro before frame begins carries
    rcases concat_prefix_concat_iff.mp begins with old | ⟨rfl, rfl⟩
    · exact history.last before frame old carries
    · exact last frame rfl carries

theorem History.snoc_other (history : History id log)
    (noFrame : ∀ frame, event ≠ .frame frame)
    (nothing : Ended id log → queuedOctets id event = []) :
    History id (log ++ [event]) := by
  apply history.snoc _ nothing
  · exact fun frame equal => absurd equal (noFrame frame)
  · exact fun frame equal => absurd equal (noFrame frame)
  rw [sentOn_append, sentOn_singleton, sentOctets_of_ne_frame noFrame,
    List.append_nil,
    queuedOn_append]
  exact (history.sound log List.prefix_rfl).trans (List.prefix_append _ _)

theorem History.snoc_frame {frame : Frame} (history : History id log)
    (unended : ¬Ended id log)
    {rest : Bytes}
    (balance : sentOn id log ++ sentOctets id (.frame frame) ++ rest =
      queuedOn id log)
    (complete : frame.Ends id → rest = []) :
    History id (log ++ [.frame frame]) := by
  have queued : queuedOn id (log ++ [.frame frame]) = queuedOn id log := by
    rw [queuedOn_append, queuedOn_singleton]
    exact List.append_nil _
  apply history.snoc
  · rw [queued, ← balance, sentOn_append, sentOn_singleton]
    exact List.prefix_append _ _
  · exact fun ended => absurd ended unended
  · intro other equal ends
    cases equal
    rw [queued, ← balance, complete ends, List.append_nil, sentOn_append,
      sentOn_singleton]
  · exact fun _ _ _ => unended

/-- Events of other streams keep the history of this one. -/
theorem History.append {events : List Event} (history : History id log)
    (untouched : ∀ event ∈ events, event.touches id = false) :
    History id (log ++ events) := by
  induction events generalizing log with
  | nil =>
    rw [List.append_nil]
    exact history
  | cons event events induction =>
    rw [List.append_cons]
    rw [List.forall_mem_cons] at untouched
    have other : ∀ first ∈ [event], first.touches id = false :=
      List.forall_mem_singleton.mpr untouched.1
    refine induction ?_ untouched.2
    have sent := sentOn_of_untouched other
    have queued := queuedOn_of_untouched other
    apply history.snoc
    · rw [sentOn_append, queuedOn_append, sent, queued, List.append_nil,
        List.append_nil]
      exact history.sound log List.prefix_rfl
    · intro _
      rw [← queuedOn_singleton]
      exact queued
    · rintro frame rfl ends
      exact absurd ⟨frame, List.mem_singleton_self _, ends⟩
        (not_ended_of_untouched other)
    · rintro frame rfl carries
      exact absurd carries (of_decide_eq_false untouched.1)

/-! ## What a record holds of its body -/

/-- The record of an open stream agrees with the log. -/
structure BodyAt (id : Int) (log : List Event) (stream : Stream) : Prop where
  balance : sentOn id log ++ (stream.body.getD []).drop stream.bodyOff =
    queuedOn id log
  ended : Ended id log → stream.body = none ∧ stream.source = false ∧
    Final id log
  -- A chunk is refused behind the end of the stream.
  refuses : Ended id log → Unanswered id log → Chunked id log →
    stream.endStreamSent = true
  opening : Opening id log → stream.body = none ∧ stream.source = false ∧
    ¬Ended id log
  untrailed : stream.trailersPending = false
  final : stream.body ≠ none → stream.bodyEof = true → Final id log
  alone : stream.source = true → stream.body = none

/-- The fields which say how far a body is. -/
def Stream.bodyFields (stream : Stream) :
    Option Bytes × Nat × Bool × Bool × Bool × Bool :=
  (stream.body, stream.bodyOff, stream.bodyEof, stream.source,
    stream.trailersPending, stream.endStreamSent)

/-- The record goes on while nothing is handed over, sent or submitted. -/
theorem BodyAt.extend {events : List Event} {stream' : Stream}
    (here : BodyAt id log stream)
    (sent : sentOn id events = []) (queued : queuedOn id events = [])
    (made : attempts id events = []) (unended : ¬Ended id events)
    (body : stream'.body = stream.body)
    (bodyOff : stream'.bodyOff = stream.bodyOff)
    (bodyEof : stream'.bodyEof = true → stream.bodyEof = true)
    (source : stream'.source = true → stream.source = true)
    (untrailed : stream'.trailersPending = stream.trailersPending)
    (endStreamSent : Unanswered id (log ++ events) →
      stream.endStreamSent = true →
      stream'.endStreamSent = true) : BodyAt id (log ++ events) stream' := by
  have attempted : attempts id (log ++ events) = attempts id log := by
    rw [attempts_append, made, List.append_nil]
  have earlier : Ended id (log ++ events) → Ended id log := fun ended =>
    (ended_append_iff.mp ended).resolve_right unended
  have noSource : stream.source = false → stream'.source = false := by
    intro isFalse
    by_contra isSource
    rw [source (Bool.eq_true_of_not_eq_false isSource)] at isFalse
    cases isFalse
  constructor
  · rw [body, bodyOff, sentOn_append, queuedOn_append, sent, queued,
      List.append_nil,
      List.append_nil]
    exact here.balance
  · intro ended
    have gone := here.ended (earlier ended)
    exact ⟨body.trans gone.1, noSource gone.2.1, gone.2.2.append _⟩
  · intro ended unanswered chunked
    rw [Chunked, attempted] at chunked
    exact endStreamSent unanswered
      (here.refuses (earlier ended) unanswered.of_append chunked)
  · intro opening
    have empty := here.opening opening.of_append
    exact ⟨body.trans empty.1, noSource empty.2.1,
      fun ended => empty.2.2 (earlier ended)⟩
  · exact untrailed.trans here.untrailed
  · intro nonempty eof
    rw [body] at nonempty
    exact (here.final nonempty (bodyEof eof)).append _
  · exact fun isSource => body.trans (here.alone (source isSource))

/-- Events of other streams keep the body of this one. -/
theorem BodyAt.append {events : List Event} {stream' : Stream}
    (here : BodyAt id log stream)
    (untouched : ∀ event ∈ events, event.touches id = false)
    (same : stream.bodyFields = stream'.bodyFields) :
    BodyAt id (log ++ events) stream' := by
  simp only [Stream.bodyFields, Prod.mk.injEq] at same
  obtain ⟨body, off, eof, source, trailers, sent⟩ := same
  exact here.extend (sentOn_of_untouched untouched)
    (queuedOn_of_untouched untouched)
    (attempts_of_untouched untouched)
      (not_ended_of_untouched untouched) body.symm off.symm
    eof.trans source.trans trailers.symm fun _ => sent.symm.trans

/-! ## Header blocks -/

section Frames

variable {id : Int} {endStream : Bool} {frames log : List Event}

theorem continuation_untouched {rest : List Event}
    (continuation : ∀ event ∈ rest, ∃ flags payload, event =
        .frame { type := .continuation, flags, streamId := id, payload }) :
    ∀ event ∈ rest, event.touches id = false := by
  intro event member
  rcases continuation event member with ⟨flags, payload, rfl⟩
  simp [Event.touches, Frame.Carries]

section

variable (isBlock : HeaderFrames id endStream frames)

include isBlock

theorem HeaderFrames.sentOn_eq : sentOn id frames = [] := by
  rcases isBlock with ⟨flags, payload, rest, rfl, -, continuation⟩
  rw [← List.singleton_append, sentOn_append, sentOn_singleton,
    sentOn_of_untouched (continuation_untouched continuation)]
  rfl

theorem HeaderFrames.queuedOn_eq : queuedOn id frames = [] := by
  rcases isBlock with ⟨flags, payload, rest, rfl, -, continuation⟩
  rw [← List.singleton_append, queuedOn_append, queuedOn_singleton,
    queuedOn_of_untouched (continuation_untouched continuation)]
  rfl

theorem HeaderFrames.endStream_of_ended (ended : Ended id frames) :
    endStream = true := by
  rcases isBlock with ⟨flags, payload, rest, rfl, flagged, continuation⟩
  rcases ended with ⟨frame, member, ends⟩
  rcases List.mem_cons.mp member with first | later
  · cases first
    rw [← flagged]
    exact ends.2
  · exact absurd ⟨frame, later, ends⟩
      (not_ended_of_untouched (continuation_untouched continuation))

end

theorem History.append_block (history : History id log)
    (isBlock : HeaderFrames id endStream frames) (unended : ¬Ended id log)
    (balance : sentOn id log = queuedOn id log) :
    History id (log ++ frames) := by
  rcases isBlock with ⟨flags, payload, rest, rfl, flagged, continuation⟩
  rw [List.append_cons]
  refine History.append ?_ (continuation_untouched continuation)
  apply @History.snoc_frame _ _ _ history unended []
  · simp [sentOctets, balance]
  · exact fun _ => rfl

end Frames

/-! ## What is done to a body -/

/-- The log and the record of an open stream are in order. -/
structure InOrder (id : Int) (log : List Event) (stream : Stream) :
    Prop where
  history : History id log
  here : BodyAt id log stream

section Actions

variable {id : Int} {log : List Event} {stream stream' : Stream}

theorem BodyAt.sent_of_none (here : BodyAt id log stream)
    (none : stream.body = none) : sentOn id log = queuedOn id log := by
  have balance := here.balance
  rw [none] at balance
  simpa using balance

/-- The header block of a submission, and what is submitted with it. -/
theorem InOrder.block (inOrder : InOrder id log stream)
    (opening : Opening id log)
    (isBlock : frames = [] ∨ HeaderFrames id endStream frames)
    (noFrame : ∀ frame, event ≠ .frame frame)
    (nothing : endStream = true → queuedOctets id event = [])
    (balance : (stream'.body.getD []).drop stream'.bodyOff =
      queuedOctets id event)
    (ended : endStream = true → stream'.body = none ∧ stream'.source = false ∧
        Final id (log ++ frames ++ [event]))
    (unchunked : endStream = true → ¬Chunked id (log ++ frames ++ [event]))
    (opens : Opening id (log ++ frames ++ [event]) →
      stream'.body = none ∧ stream'.source = false ∧ endStream = false)
    (untrailed : stream'.trailersPending = false)
    (final : stream'.body ≠ none → stream'.bodyEof = true →
      Final id (log ++ frames ++ [event]))
    (alone : stream'.source = true → stream'.body = none) :
    InOrder id (log ++ frames ++ [event]) stream' := by
  have empty := inOrder.here.opening opening
  have sent := inOrder.here.sent_of_none empty.1
  have framed : History id (log ++ frames) ∧ sentOn id frames = [] ∧
    queuedOn id frames = [] ∧
      (Ended id frames → endStream = true) := by
    rcases isBlock with rfl | isBlock
    · rw [List.append_nil]
      refine ⟨inOrder.history, rfl, rfl, ?_⟩
      rintro ⟨frame, member, -⟩
      cases member
    · exact ⟨inOrder.history.append_block isBlock empty.2.2 sent,
        isBlock.sentOn_eq, isBlock.queuedOn_eq, isBlock.endStream_of_ended⟩
  have flagged : Ended id (log ++ frames ++ [event]) → endStream = true := by
    rw [ended_concat_iff noFrame, ended_append_iff]
    rintro (early | block)
    · exact absurd early empty.2.2
    · exact framed.2.2.2 block
  constructor
  · apply framed.1.snoc_other noFrame
    exact fun isEnded => nothing
      (flagged ((ended_concat_iff noFrame).mpr isEnded))
  constructor
  · simp only [sentOn_append, queuedOn_append, sentOn_singleton,
      queuedOn_singleton, framed.2.1, framed.2.2.1,
      sentOctets_of_ne_frame noFrame, balance, sent,
      List.append_nil]
  · exact fun isEnded => ended (flagged isEnded)
  · exact fun isEnded _ chunked =>
      absurd chunked (unchunked (flagged isEnded))
  · intro stillOpening
    have free := opens stillOpening
    refine ⟨free.1, free.2.1, ?_⟩
    intro isEnded
    rw [flagged isEnded] at free
    cases free.2.2
  · exact untrailed
  · exact final
  · exact alone

theorem attempt_mem (isAttempt : attempt id event = some made) :
    made ∈ attempts id (log ++ [event]) := by
  rw [attempts_append, List.mem_append]
  right
  simp [attempts, isAttempt]

section

variable (inOrder : InOrder id log stream) (opening : Opening id log)

include inOrder opening

/-- A message with its body. -/
theorem InOrder.message {body : Body}
    (isBlock : HeaderFrames id body.isEmpty frames) :
    InOrder id (log ++ frames ++ [.submitted id (.message body)])
      (attachBody body { stream with endStreamSent := body.isEmpty }) := by
  have empty := inOrder.here.opening opening
  have made : some (.message body) ∈
      attempts id (log ++ frames ++ [.submitted id (.message body)]) :=
    attempt_mem (if_pos rfl)
  have last : Event.submitted id (.message body) ∈
      log ++ frames ++ [.submitted id (.message body)] :=
    List.mem_concat_self
  have unchunked : ¬Chunked id
      (log ++ frames ++ [.submitted id (.message body)]) := by
    intro chunked
    rcases chunked _ made with kind | ⟨_, _, kind⟩ <;> cases kind
  have unopening : ¬Opening id
      (log ++ frames ++ [.submitted id (.message body)]) := by
    intro stillOpening
    cases stillOpening _ made
  cases body with
  | source =>
    apply inOrder.block opening (.inr isBlock)
    · rintro _ ⟨⟩
    · rintro ⟨⟩
    · simp [attachBody, empty.1, queuedOctets]
    · rintro ⟨⟩
    · rintro ⟨⟩
    · exact fun stillOpening => absurd stillOpening unopening
    · exact inOrder.here.untrailed
    · intro nonempty
      exact absurd empty.1 nonempty
    · exact fun _ => empty.1
  | flat octets =>
    apply inOrder.block opening (.inr isBlock)
    · rintro _ ⟨⟩
    · intro isEmpty
      simpa [queuedOctets, Body.isEmpty] using isEmpty
    · cases octets with
      | nil => simp [attachBody, empty.1, queuedOctets]
      | cons octet octets => simp [attachBody, queuedOctets]
    · intro isEmpty
      cases octets with
      | nil => exact ⟨empty.1, empty.2.1, .inl ⟨[], last⟩⟩
      | cons octet octets => cases isEmpty
    · exact fun _ => unchunked
    · exact fun stillOpening => absurd stillOpening unopening
    · rw [attachBody_eq]
      exact inOrder.here.untrailed
    · exact fun _ _ => .inl ⟨octets, last⟩
    intro isSource
    cases octets with
    | nil => exact empty.1
    | cons octet octets =>
      simp [attachBody, empty.2.1] at isSource

/-- A header block which does not end the stream is in order. -/
theorem InOrder.headers {ended : Bool}
    (isBlock : HeaderFrames id false frames) :
    InOrder id (log ++ frames ++ [.submitted id (.headers false)])
      { stream with endStreamSent := ended } := by
  have empty := inOrder.here.opening opening
  apply inOrder.block opening (.inr isBlock)
  · rintro _ ⟨⟩
  · rintro ⟨⟩
  · simp [empty.1, queuedOctets]
  · rintro ⟨⟩
  · rintro ⟨⟩
  · exact fun _ => ⟨empty.1, empty.2.1, rfl⟩
  · exact inOrder.here.untrailed
  · exact fun nonempty => absurd empty.1 nonempty
  · exact fun _ => empty.1

/-- A header block which is broken off is in order. -/
theorem InOrder.broken {ended eof : Bool}
    (isBlock : frames = [] ∨ HeaderFrames id endStream frames) :
    InOrder id (log ++ frames ++ [.blockBroken id])
      { stream with
        endStreamSent := ended
        bodyEof := eof } := by
  have empty := inOrder.here.opening opening
  have made : none ∈ attempts id (log ++ frames ++ [.blockBroken id]) :=
    attempt_mem (if_pos rfl)
  have isFinal : Final id (log ++ frames ++ [.blockBroken id]) :=
    .inr (.inr (.inr List.mem_concat_self))
  apply inOrder.block opening isBlock
  · rintro _ ⟨⟩
  · exact fun _ => rfl
  · simp [empty.1, queuedOctets]
  · exact fun _ => ⟨empty.1, empty.2.1, isFinal⟩
  · intro _ chunked
    rcases chunked _ made with kind | ⟨_, _, kind⟩ <;> cases kind
  · intro stillOpening
    cases stillOpening _ made
  · exact inOrder.here.untrailed
  · exact fun _ _ => isFinal
  · exact fun _ => empty.1

end

/-- Data given while no body is held is in order. -/
theorem InOrder.data {octets : Bytes} {last : Bool}
    (inOrder : InOrder id log stream)
    (unanswered : Unanswered id log) (chunked : Chunked id log)
    (noBody : stream.body = none)
    (noSource : stream.source = false) (unsent : stream.endStreamSent = false) :
    InOrder id (log ++ [.submitted id (.data octets last)])
      { stream with
        body := some octets
        bodyOff := 0
        bodyEof := last } := by
  have unended : ¬Ended id log := by
    intro ended
    rw [inOrder.here.refuses ended unanswered chunked] at unsent
    cases unsent
  have stillUnended : ¬Ended id
      (log ++ [.submitted id (.data octets last)]) := by
    rwa [ended_concat_iff (by simp)]
  constructor
  · apply inOrder.history.snoc_other
    · rintro _ ⟨⟩
    · exact fun ended => absurd ended unended
  constructor
  · simp [sentOctets, queuedOctets, inOrder.here.sent_of_none noBody]
  · exact fun ended => absurd ended stillUnended
  · exact fun ended => absurd ended stillUnended
  · intro opening
    have made : some (.data octets last) ∈
        attempts id (log ++ [.submitted id (.data octets last)]) :=
      attempt_mem (if_pos rfl)
    cases opening _ made
  · exact inOrder.here.untrailed
  · intro _ eof
    refine .inr (.inl ⟨octets, ?_⟩)
    rw [show true = last from eof.symm]
    exact List.mem_concat_self
  · intro isSource
    rw [show stream.source = true from isSource] at noSource
    cases noSource

/-- Sending a part of the body keeps the history. -/
theorem History.emit {flags : UInt8} {payload : Bytes}
    (history : History id log)
    (unended : ¬Ended id log) (busy : ¬Opening id log)
    (balance : sentOn id log ++ payload ++
      (stream'.body.getD []).drop stream'.bodyOff =
      queuedOn id log)
    (marked : hasFlag flags flagEndStream = true → stream'.body = none ∧
      stream'.source = false ∧
        stream'.endStreamSent = true ∧ Final id log) (untrailed :
        stream'.trailersPending = false)
    (final : stream'.body ≠ none → stream'.bodyEof = true → Final id log)
    (alone : stream'.source = true → stream'.body = none) :
    InOrder id (log ++ [.frame (dataFrame flags id payload)]) stream' := by
  have payloadSent : sentOctets id (.frame (dataFrame flags id payload)) =
      payload :=
    if_pos ⟨rfl, rfl⟩
  have flagged : Ended id (log ++ [.frame (dataFrame flags id payload)]) →
      hasFlag flags flagEndStream = true := by
    rw [ended_append_iff]
    rintro (ended | ⟨frame, member, ends⟩)
    · exact absurd ended unended
    · cases List.mem_singleton.mp member
      exact ends.2
  constructor
  · apply history.snoc_frame unended
    · rw [payloadSent]
      exact balance
    · intro ends
      rw [(marked ends.2).1]
      exact List.drop_nil
  constructor
  · rw [sentOn_append, sentOn_singleton, payloadSent, balance, queuedOn_append,
      queuedOn_singleton]
    exact (List.append_nil _).symm
  · intro ended
    have gone := marked (flagged ended)
    exact ⟨gone.1, gone.2.1, gone.2.2.2.append _⟩
  · exact fun ended _ _ => (marked (flagged ended)).2.2.1
  · exact fun opening => absurd opening.of_append busy
  · exact untrailed
  · exact fun nonempty eof => (final nonempty eof).append _
  · exact alone

theorem BodyAt.busy (here : BodyAt id log stream)
    (holds : stream.body ≠ none ∨ stream.source = true) :
    ¬Ended id log ∧ ¬Opening id log := by
  constructor
  · intro ended
    simp [here.ended ended] at holds
  · intro opening
    simp [here.opening opening] at holds

/-- Sending a piece of the body is in order. -/
theorem InOrder.piece {flags : UInt8} {body : Bytes} {size : Nat}
    (inOrder : InOrder id log stream) (holds : stream.body = some body)
    (noSource : stream.source = false) (source : stream'.source = stream.source)
    (rest : (stream'.body.getD []).drop stream'.bodyOff =
      body.drop (stream.bodyOff + size))
    (marked : hasFlag flags flagEndStream = true →
      stream'.body = none ∧ stream'.endStreamSent = true ∧
        stream.bodyEof = true)
    (untrailed : stream'.trailersPending = stream.trailersPending)
    (eof : stream'.body ≠ none → stream'.bodyEof = true →
      stream.bodyEof = true) :
    InOrder id
      (log ++
        [.frame (dataFrame flags id ((body.drop stream.bodyOff).take size))])
      stream' := by
  have busy := inOrder.here.busy (.inl (by simp [holds]))
  have isFinal (eof : stream.bodyEof = true) : Final id log :=
    inOrder.here.final (by simp [holds]) eof
  apply inOrder.history.emit busy.1 busy.2
  · have balance := inOrder.here.balance
    rw [holds] at balance
    rw [rest, ← balance, ← List.drop_drop, List.append_assoc,
      List.take_append_drop]
    rfl
  · intro flagged
    have done := marked flagged
    exact ⟨done.1, source.trans noSource, done.2.1, isFinal done.2.2⟩
  · rw [untrailed]
    exact inOrder.here.untrailed
  · exact fun nonempty still => isFinal (eof nonempty still)
  · intro isSource
    rw [source, noSource] at isSource
    cases isSource

/-- What a source hands over goes out in one frame. -/
theorem InOrder.emitPulled {flags : UInt8} (inOrder : InOrder id log stream)
    (isSource : stream.source = true) (noBody : stream'.body = none)
    (untrailed : stream'.trailersPending = stream.trailersPending)
    (marked : hasFlag flags flagEndStream = true → stream'.source = false ∧
      stream'.endStreamSent = true ∧ pull.status = .eof) :
    InOrder id (log ++ [.pulled id pull limit room] ++
      [.frame (dataFrame flags id
        (queuedOctets id (.pulled id pull limit room)))]) stream' := by
  have busy := inOrder.here.busy (.inr isSource)
  apply History.emit
  · apply inOrder.history.snoc_other
    · rintro _ ⟨⟩
    · exact fun ended => absurd ended busy.1
  · rw [ended_concat_iff (by simp)]
    exact busy.1
  · exact fun opening => busy.2 opening.of_append
  · simp [noBody, sentOctets,
      inOrder.here.sent_of_none (inOrder.here.alone isSource)]
  · intro flagged
    obtain ⟨sourceGone, sent, isEnd⟩ := marked flagged
    refine ⟨noBody, sourceGone, sent, .inr (.inr (.inl ?_))⟩
    exact ⟨pull, limit, room, List.mem_concat_self, isEnd⟩
  · exact untrailed.trans inOrder.here.untrailed
  · exact fun nonempty => absurd noBody nonempty
  · exact fun _ => noBody

theorem InOrder.pullData {window : Int} (inOrder : InOrder id log stream)
    (isSource : stream.source = true) (isData : pull.status = .data)
    (fits : pull.octets.length ≤ limit) :
    InOrder id (log ++ [.pulled id pull limit room] ++
      [.frame (dataFrame 0 id pull.octets)])
      { stream with sendWindow := window } := by
  have pulled : queuedOctets id (.pulled id pull limit room) = pull.octets :=
    if_pos ⟨rfl, isData, fits⟩
  rw [← pulled]
  exact inOrder.emitPulled isSource (inOrder.here.alone isSource) rfl
    fun flagged => absurd flagged (by decide)

theorem InOrder.pullEnd (inOrder : InOrder id log stream)
    (isSource : stream.source = true)
    (isEnd : pull.status = .eof) :
    InOrder id (log ++ [.pulled id pull limit room] ++
      [.frame (dataFrame flagEndStream id [])])
      { stream with
        source := false
        sourceDone := true
        endStreamSent := true } := by
  have pulled : queuedOctets id (.pulled id pull limit room) = [] := by
    simp [queuedOctets, isEnd]
  rw [← pulled]
  exact inOrder.emitPulled isSource
    (inOrder.here.alone isSource) rfl fun _ => ⟨rfl, rfl, isEnd⟩

/-- An event which neither hands over nor sends anything. -/
theorem InOrder.idle (inOrder : InOrder id log stream)
    (noFrame : ∀ frame, event ≠ .frame frame)
    (nothing : queuedOctets id event = [])
    (unattempted : attempt id event = none)
    (body : stream'.body = stream.body)
    (bodyOff : stream'.bodyOff = stream.bodyOff)
    (bodyEof : stream'.bodyEof = true → stream.bodyEof = true)
    (source : stream'.source = true → stream.source = true)
    (untrailed : stream'.trailersPending = stream.trailersPending)
    (endStreamSent : Unanswered id (log ++ [event]) →
      stream.endStreamSent = true →
      stream'.endStreamSent = true) : InOrder id (log ++ [event]) stream' := by
  refine ⟨inOrder.history.snoc_other noFrame fun _ => nothing,
    inOrder.here.extend ?_ ?_ ?_
    (not_ended_of_ne_frame noFrame) body bodyOff bodyEof source untrailed
      endStreamSent⟩
  · rw [sentOn_singleton, sentOctets_of_ne_frame noFrame]
  · rw [queuedOn_singleton, nothing]
  · simp [attempts, unattempted]

end Actions

/-! ## Every step keeps bodies in order -/

/-- The bodies of a stream are in order, whether it is open or not. -/
structure BodyValid (id : Int) (conn : Conn) : Prop where
  history : History id conn.log
  final : Ended id conn.log → Final id conn.log
  streams : ∀ stream ∈ conn.streams, stream.closed = false → stream.id = id →
    BodyAt id conn.log stream
  unopened : .opened id ∉ conn.log → ∀ event ∈ conn.log,
    event.touches id = false

section Steps

variable {id : Int} {conn conn' : Conn} {events : List Event}

/-- A step which does not touch the stream keeps its body. -/
theorem BodyValid.idle (valid : BodyValid id conn)
    (log : conn'.log = conn.log ++ events)
    (untouched : ∀ event ∈ events, event.touches id = false)
    (kept : ∀ stream' ∈ conn'.streams, stream'.closed = false →
      stream'.id = id →
      ∃ stream ∈ conn.streams, stream.closed = false ∧
        stream.id = stream'.id ∧
          stream.bodyFields = stream'.bodyFields) : BodyValid id conn' := by
  constructor
  · rw [log]
    exact valid.history.append untouched
  · rw [log, ended_append_iff]
    rintro (ended | ended)
    · exact (valid.final ended).append events
    · exact absurd ended (not_ended_of_untouched untouched)
  · intro stream' member isOpen isId
    rcases kept stream' member isOpen isId with
      ⟨stream, old, wasOpen, sameId, same⟩
    have here := valid.streams stream old wasOpen (sameId.trans isId)
    rw [log]
    exact here.append untouched same
  rw [log]
  intro unopened
  rw [List.mem_append, not_or] at unopened
  exact List.forall_mem_append.mpr ⟨valid.unopened unopened.1, untouched⟩

/-- A change of one open stream keeps every body in order. -/
theorem BodyValid.touch (table : TableValid conn) (valid : BodyValid id conn)
    {slot : Nat}
    {change : Stream → Stream} (isOpen : conn.OpenAt slot stream)
    (log : conn'.log = conn.log ++ events)
    (streams : conn'.streams = conn.streams.modify slot change)
    (here : stream.id = id → InOrder id conn.log stream →
      InOrder id (conn.log ++ events) (change stream))
    (sameId : (change stream).id = stream.id := by simp)
    (elsewhere : ∀ other, stream.id ≠ other → ∀ event ∈ events,
      event.touches other = false := by
      simp +contextual [Event.touches, Frame.Carries, dataFrame]) :
    BodyValid id conn' := by
  have old : stream ∈ conn.streams := List.mem_of_getElem? isOpen.1
  by_cases isId : stream.id = id
  · have inOrder :=
      here isId ⟨valid.history, valid.streams stream old isOpen.2 isId⟩
    rw [← log] at inOrder
    constructor
    · exact inOrder.history
    · exact fun ended => (inOrder.here.ended ended).2.2
    · intro other member _ otherId
      rw [streams] at member
      rcases mem_modify_of_present table.nodup isOpen.1 member with
        ⟨-, distinct⟩ | rfl
      · exact absurd (otherId.trans isId.symm) distinct
      · exact inOrder.here
    · intro unopened
      rw [log, List.mem_append, not_or, ← isId] at unopened
      exact absurd (table.opened _ (List.mem_map_of_mem old)) unopened.1
  apply valid.idle log (elsewhere id isId)
  intro other member stillOpen otherId
  rw [streams] at member
  rcases mem_modify_of_present table.nodup isOpen.1 member with
    ⟨same, -⟩ | rfl
  · exact ⟨other, same, stillOpen, rfl, rfl⟩
  · exact absurd (sameId.symm.trans otherId) isId

/-- A step which carries the streams over keeps every body. -/
theorem BodyValid.carried (valid : BodyValid id conn)
    (log : conn'.log = conn.log ++ events)
    (untouched : ∀ event ∈ events, event.touches id = false)
    (carried : CarriedOpen Stream.bodyFields conn.streams conn'.streams) :
    BodyValid id conn' :=
  valid.idle log untouched fun stream' member isOpen _ =>
    carried stream' member isOpen

/-- A new stream has no body. -/
theorem BodyValid.opened (table : TableValid conn) (valid : BodyValid id conn)
    {newId : Int}
    (admits : Admits conn conn' newId)
    (log : conn'.log = conn.log ++ [.opened newId])
    (isId : stream.id = newId)
    (empty : stream.bodyFields = (none, 0, false, false, false, false))
    (members : ∀ stream' ∈ conn'.streams, stream' ∈ conn.streams ∨
      stream' = stream) :
    BodyValid id conn' := by
  have untouched : ∀ event ∈ [Event.opened newId], event.touches id = false :=
    List.forall_mem_singleton.mpr rfl
  by_cases isNew : newId = id
  · have unopened := admits.unopened table
    rw [isNew] at unopened
    have silent : ∀ event ∈ conn'.log, event.touches id = false := by
      rw [log]
      exact List.forall_mem_append.mpr ⟨valid.unopened unopened, untouched⟩
    have unended := not_ended_of_untouched silent
    constructor
    · rw [log]
      exact valid.history.append untouched
    · exact fun ended => absurd ended unended
    · intro stream' member _ otherId
      rcases members stream' member with old | rfl
      · have opened := table.opened _ (List.mem_map_of_mem old)
        rw [otherId] at opened
        exact absurd opened unopened
      simp only [Stream.bodyFields, Prod.mk.injEq] at empty
      constructor
      · rw [sentOn_of_untouched silent, queuedOn_of_untouched silent, empty.1]
        exact List.drop_nil
      · exact fun ended => absurd ended unended
      · exact fun ended => absurd ended unended
      · exact fun _ => ⟨empty.1, empty.2.2.2.1, unended⟩
      · exact empty.2.2.2.2.1
      · exact fun nonempty => absurd empty.1 nonempty
      · exact fun _ => empty.1
    · exact fun _ => silent
  apply valid.idle log untouched
  intro other member isOpen otherId
  rcases members other member with old | rfl
  · exact ⟨other, old, isOpen, rfl, rfl⟩
  · exact absurd (isId.symm.trans otherId) isNew

end Steps

theorem Event.untouched_of_neutral (id : Int) (neutral : event.neutral = true) :
    event.touches id = false := by
  cases event with
  | frame queued =>
    simp only [Event.neutral, Bool.and_eq_true, bne_iff_ne] at neutral
    simp [Event.touches, Frame.Carries, neutral.1, neutral.2]
  | submitted | blockBroken | pulled => cases neutral
  | _ => rfl

theorem HeaderFrames.untouched {other : Int}
    (isBlock : HeaderFrames id endStream frames)
    (distinct : id ≠ other) :
    ∀ event ∈ frames, event.touches other = false := by
  rcases isBlock with ⟨flags, payload, rest, rfl, -, continuation⟩
  intro event member
  rcases List.mem_cons.mp member with rfl | later
  · simp [Event.touches, Frame.Carries, distinct]
  · rcases continuation event later with ⟨flags, payload, rfl⟩
    simp [Event.touches, Frame.Carries]

/-- An attempt which is not data opens the body. -/
theorem OneBody.opening (one : OneBody id (log ++ [event]))
    (isAttempt : attempt id event = some made)
    (noData : ∀ octets last, made ≠ some (.data octets last)) :
    Opening id log ∧
      (made = some (.headers false) ∨ made = none ∨
        ∃ body, made = some (.message body)) := by
  have single : attempts id [event] = [made] := by
    simp [attempts, isAttempt]
  rcases one.last single with ⟨kind, opening⟩ | ⟨⟨octets, last, equal⟩, -⟩
  · exact ⟨opening, kind⟩
  · exact absurd equal (noData octets last)

theorem OneBody.no_trailers
    (one : OneBody id (log ++ [.submitted id .trailers])) : False := by
  rcases (one.opening (if_pos rfl) (by simp)).2 with kind | kind | ⟨body,
    kind⟩ <;> cases kind

theorem HeaderFrames.untouched_concat
    (isBlock : frames = [] ∨ HeaderFrames id endStream frames)
    (untouched : ∀ other, id ≠ other → event.touches other = false)
    (other : Int)
    (distinct : id ≠ other) :
    ∀ each ∈ frames ++ [event], each.touches other = false := by
  rw [List.forall_mem_append, List.forall_mem_singleton]
  refine ⟨?_, untouched other distinct⟩
  rcases isBlock with rfl | isBlock
  · exact List.forall_mem_nil _
  · exact isBlock.untouched distinct

/-- Every step keeps the body of a stream in order. -/
theorem Step.body {conn conn' : Conn} (step : Step conn conn')
    (table : TableValid conn)
    (valid : BodyValid id conn) (one : OneBody id conn'.log) :
    BodyValid id conn' := by
  have log := step.log_news
  cases step with
  | message isOpen frames =>
    refine valid.touch table isOpen (List.append_assoc ..) rfl ?_ (by simp)
      (HeaderFrames.untouched_concat (.inr frames) (by simp [Event.touches]))
    rintro rfl inOrder
    rw [← List.append_assoc]
    exact inOrder.message (one.opening (if_pos rfl) (by simp)).1.of_append
      frames
  | @headersOnly _ _ endStream _ isOpen frames =>
    refine valid.touch table isOpen (List.append_assoc ..) rfl ?_ rfl
      (HeaderFrames.untouched_concat (.inr frames) (by simp [Event.touches]))
    rintro rfl inOrder
    rw [← List.append_assoc]
    have opening := one.opening (if_pos rfl) (by simp)
    cases endStream with
    | false => exact inOrder.headers opening.1.of_append frames
    | true =>
      rcases opening.2 with kind | kind | ⟨body, kind⟩ <;> cases kind
  | blockBroken isOpen frames =>
    refine valid.touch table isOpen (List.append_assoc ..) rfl ?_ rfl
      (HeaderFrames.untouched_concat frames (by simp [Event.touches]))
    rintro rfl inOrder
    rw [← List.append_assoc]
    exact inOrder.broken (one.opening (if_pos rfl) (by simp)).1.of_append frames
  | @bodyData _ stream data endStream isOpen noBody noSource unsent =>
    refine valid.touch table isOpen rfl rfl ?_
    rintro rfl inOrder
    have single : attempts stream.id
      [.submitted stream.id (.data data endStream)] =
        [some (.data data endStream)] := by
      simp [attempts, attempt]
    rcases one.last single with ⟨kind, -⟩ | ⟨-, unanswered, chunked⟩
    · rcases kind with kind | kind | ⟨body, kind⟩ <;> cases kind
    · exact inOrder.data unanswered.of_append chunked noBody noSource unsent
  | trailersQueued isOpen =>
    refine valid.touch table isOpen rfl rfl ?_
    rintro rfl _
    exact one.no_trailers.elim
  | trailersSent isOpen frames =>
    refine valid.touch table isOpen (List.append_assoc ..) rfl ?_ rfl
      (HeaderFrames.untouched_concat (.inr frames) (by simp [Event.touches]))
    rintro rfl _
    exact one.no_trailers.elim
  | messageRefused isOpen =>
    refine valid.touch table isOpen rfl rfl ?_
    rintro rfl inOrder
    refine inOrder.idle (fun _ => by simp) rfl rfl rfl rfl
      (fun eof => eof) (fun isSource => isSource) rfl ?_
    exact fun unanswered =>
      absurd List.mem_concat_self (unanswered _ _ _)
  | trailersRefused isOpen =>
    refine valid.touch table isOpen rfl rfl ?_
    rintro rfl inOrder
    exact inOrder.idle (fun _ => by simp) rfl rfl rfl rfl (by simp)
      (fun isSource => isSource) rfl fun _ _ => rfl
  | emitEmpty isOpen holds start eof noSource =>
    refine valid.touch table isOpen rfl rfl ?_
    rintro rfl inOrder
    have piece := @InOrder.piece _ _ _
      (Stream.endBody _) flagEndStream [] 0 inOrder
        holds noSource rfl
    simp only [List.drop_nil, List.take_nil] at piece
    apply piece
    · rfl
    · exact fun _ => ⟨rfl, rfl, eof⟩
    · rfl
    · exact fun nonempty => absurd rfl nonempty
  | @emitChunk _ stream body size isOpen holds noSource =>
    refine valid.touch table isOpen rfl (List.modify_modify_eq ..) ?_
    rintro rfl inOrder
    apply inOrder.piece holds noSource
    · rfl
    · simp [holds]
    · exact fun flagged => absurd flagged (by decide)
    · rfl
    · exact fun _ eof => eof
  | @emitLast _ stream body size isOpen holds noSource _ all =>
    refine valid.touch table isOpen rfl (List.modify_modify_eq ..) ?_
    rintro rfl inOrder
    apply inOrder.piece holds noSource
    · rfl
    · rw [all, List.drop_length]
      rfl
    · exact fun flagged => absurd flagged (by decide)
    · rfl
    · exact fun nonempty => absurd rfl nonempty
  | @emitFinal _ stream body size isOpen holds noSource _ all eof =>
    refine valid.touch table isOpen rfl (List.modify_modify_eq ..) ?_
    rintro rfl inOrder
    apply inOrder.piece holds noSource
    · rfl
    · rw [all, List.drop_length]
      rfl
    · exact fun _ => ⟨rfl, rfl, eof⟩
    · rfl
    · exact fun nonempty => absurd rfl nonempty
  | emitTrailers isOpen pending isHeaders isId =>
    refine valid.touch table isOpen rfl rfl ?_ rfl
      (by simp +contextual [Event.touches, Frame.Carries, isId])
    rintro rfl inOrder
    rw [inOrder.here.untrailed] at pending
    cases pending
  | trailersBroken isOpen pending =>
    refine valid.touch table isOpen (List.append_nil _).symm rfl ?_
    rintro rfl inOrder
    rw [inOrder.here.untrailed] at pending
    cases pending
  | pullData isOpen isSource isData _ fits =>
    refine valid.touch table isOpen (List.append_assoc ..) rfl ?_
    rintro rfl inOrder
    rw [← List.append_assoc]
    exact inOrder.pullData isSource isData fits
  | pullEnd isOpen isSource isEnd =>
    refine valid.touch table isOpen (List.append_assoc ..) rfl ?_
    rintro rfl inOrder
    rw [← List.append_assoc]
    exact inOrder.pullEnd isSource isEnd
  | @pullBroken _ _ _ stream pull isOpen _ empty =>
    refine valid.touch table isOpen rfl rfl ?_
    rintro rfl inOrder
    refine inOrder.idle (fun _ => by simp) ?_ rfl rfl rfl
      (fun eof => eof) (by simp) rfl fun _ ended => ended
    rw [queuedOctets, ite_eq_right_iff]
    rintro ⟨-, isData, fits⟩
    rcases empty isData with nothing | exceeds
    · exact nothing
    · omega
  | close _ closing
  | closeReset _ closing
  | drop _ closing =>
    refine valid.carried log ?_ ?_
    · simp +contextual [Conn.news, or_imp, Event.touches]
    · simpa using closing.carriedOpen conn.streams _
  | pullError _ isError closing =>
    refine valid.carried log ?_ ?_
    · simp +contextual [Conn.news, or_imp, Event.touches, Frame.Carries,
        isError]
    · simpa using closing.carriedOpen conn.streams _
  | openLocal client announced below placed =>
    exact valid.opened table (admits_local client announced below placed)
      rfl rfl rfl fun _ => placed.mem
  | openRemote server announced _ below small placed =>
    exact valid.opened table
      (admits_remote server announced below small placed) rfl rfl rfl
      fun _ => placed.mem
  | note neutral =>
    refine valid.carried log ?_ (Carried.refl _).carriedOpen
    simp [Conn.news, Event.untouched_of_neutral id neutral]
  | tune quiet =>
    refine valid.carried log ?_
      (Carried.modify _ _ fun stream => ?_).carriedOpen
    · simp [Conn.news]
    · rw [quiet stream]
      exact ⟨rfl, rfl, fun closed => closed⟩
  | consumeStreamFailed recv
  | spoiled _ _ recv =>
    refine valid.carried log ?_
      (Carried.modify _ _ fun stream => ?_).carriedOpen
    · simp [Conn.news, Event.touches]
    · rw [(recv stream).1]
      exact ⟨rfl, rfl, fun closed => closed⟩
  | shift =>
    refine valid.carried log ?_ (Carried.map _ fun stream => ?_).carriedOpen
    · simp [Conn.news, Event.touches]
    · rw [shiftWindow_eq]
      exact ⟨rfl, rfl, fun closed => closed⟩
  | pullWait _ waits =>
    refine valid.carried log ?_ (Carried.refl _).carriedOpen
    simp [Conn.news, Event.touches, waits]
  | _ =>
    refine valid.carried log ?_ (Carried.carriedOpen ?_)
    · simp +contextual [Conn.news, Event.touches]
    · simp [Stream.bodyFields]

/-- Along a run with one body a stream, the body is in order. -/
theorem Live.body {conn : Conn} (live : Live conn) (one : OneBody id conn.log) :
    BodyValid id conn := by
  revert one
  refine @Live.induction (fun conn => OneBody id conn.log → BodyValid id conn)
    ?_ ?_ conn live
  · intro conn initial _
    have silent : ∀ event ∈ conn.log, event.touches id = false := by
      simp [initial.log]
    constructor
    · rw [initial.log]
      constructor <;> simp [sentOn, queuedOn]
    · exact fun ended => absurd ended (not_ended_of_untouched silent)
    · simp [initial.streams]
    · exact fun _ => silent
  intro conn conn' live valid step one
  have earlier : OneBody id conn.log := by
    rw [step.log_news] at one
    exact one.of_append
  exact step.body live.table (valid earlier) one

/-! ## Runs of an engine -/

/--
Bodies are transmitted faithfully.  At every moment the DATA payloads of a
stream begin what was queued for it.  A frame ends the stream only when all of
it was sent and the body was marked final, and no HEADERS or DATA frame of the
stream comes behind it, so that it is ended once.
-/
theorem body_transmitted {mode : Mode} {config : Config} {cbs : Callbacks}
    {engine : Engine}
    (reachable : Reachable mode config cbs engine) {id : Int}
    (one : OneBody id engine.world.log) :
    (∀ before, before <+: engine.world.log →
      sentOn id before <+: queuedOn id before) ∧
    (∀ before frame, before ++ [.frame frame] <+: engine.world.log →
      frame.Ends id →
        sentOn id (before ++ [.frame frame]) = queuedOn id engine.world.log ∧
          Final id engine.world.log) ∧
    ∀ before frame, before ++ [.frame frame] <+: engine.world.log →
      frame.Carries id → ¬Ended id before := by
  have valid := reachable.live.body one
  refine ⟨valid.history.sound, ?_, valid.history.last⟩
  intro before frame begins ends
  refine ⟨valid.history.complete before frame begins ends, valid.final ?_⟩
  exact ⟨frame, begins.subset List.mem_concat_self, ends⟩

/-- A client which sends a body of three octets in chunks of two. -/
def chunkedRun : Engine := smallRun .client [] []
    [.call (.setSendChunk 2),
      .call (.submitRequestEx [] (.flat [7, 8, 9]) 0 0 false), .call .send]

/-- Two DATA frames carry the body, and the stream is ended. -/
theorem body_transmitted_chunks : sentOn 1 chunkedRun.world.log = [7, 8, 9] ∧
    Ended 1 chunkedRun.world.log ∧
    ∀ before, before <+: chunkedRun.world.log →
      sentOn 1 before <+: queuedOn 1 before := by
  have one : OneBody 1 chunkedRun.world.log :=
    ⟨0, [some (.message (.flat [7, 8, 9]))], by decide,
      .inr (.inr (.inl ⟨_, rfl⟩))⟩
  refine ⟨by decide, ?_, (body_transmitted (smallRun_reachable _ _ _ _) one).1⟩
  exact ⟨dataFrame flagEndStream 1 [9], by decide, by decide⟩

/--
A response with a source is submitted, and its trailers before the engine is
asked to send.
-/
def trailersRun : Engine :=
  smallRun .server [] [⟨.data, [7]⟩, ⟨.eof, []⟩]
    [.recv (clientPreface ++ [0, 0, 0, 4, 0, 0, 0, 0, 0] ++
        [0, 0, 0, 1, 4, 0, 0, 0, 1]),
      .call (.submitResponseEx 1 [] .source), .call (.submitTrailers 1 []),
      .call .send]

/--
`chttp_h2_proto_submit_trailers` looks at a flat body only: the trailers end the
stream ahead of the octets of the source, which are sent behind them.
-/
theorem body_behind_trailers :
    Reachable .server Config.small Callbacks.all trailersRun ∧
      attempts 1 trailersRun.world.log =
        [some (.message .source), some .trailers] ∧
      ∃ before frame after,
        trailersRun.world.log = before ++ .frame frame :: after ∧
          frame.Ends 1 ∧ sentOn 1 before = [] ∧ sentOn 1 after = [7] ∧
          queuedOn 1 trailersRun.world.log = [7] := by
  refine ⟨smallRun_reachable _ _ _ _, by decide,
    trailersRun.world.log.take 16, ⟨.headers, 5, 1, []⟩,
    trailersRun.world.log.drop 17, ?_, by decide, by decide, by decide,
    by decide⟩
  decide

end Chttp.H2
