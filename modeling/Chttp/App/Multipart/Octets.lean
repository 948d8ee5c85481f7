import Chttp.App.Multipart.Parser
import Chttp.Lib.Delimiter

/-!
# Reading form data octet by octet

`chttp_web_multipart_feed` takes a body in pieces, and gives the application
runs of octets whose ends depend on the pieces.  `Octet` says what one octet
does to the parser, and which items it completes; it knows no pieces and no
runs.  A call of `feed` without an error is a sequence of such steps, and such a
sequence is a call without an error as long as the application agrees.
-/

namespace Chttp.App

open Lib Server

/-- A call of the application. -/
inductive PartEvent where
  | begins (part : MultipartPart)
  | chunk (data : Bytes)
  | ends
  deriving DecidableEq, Repr

/-- What the calls say, however the octets were cut into runs. -/
inductive FormItem where
  | begins (part : MultipartPart)
  | octet (value : UInt8)
  | ends
  deriving DecidableEq, Repr

/-- The items which a call delivers. -/
def PartEvent.items : PartEvent → List FormItem
  | .begins part => [.begins part]
  | .chunk data => data.map .octet
  | .ends => [.ends]

namespace PartCallbacks

variable {User : Type*} (callbacks : PartCallbacks User)

/-- The callback for an event. -/
def deliver (user : User) : PartEvent → Status × User
  | .begins part => callbacks.partBegin part user
  | .chunk data => callbacks.partData data user
  | .ends => callbacks.partEnd user

/-- The events are delivered one after another, and each returns
`SALTS_OK`. -/
inductive Delivers (callbacks : PartCallbacks User) :
    User → List PartEvent → User → Prop where
  | nil (user : User) : Delivers callbacks user [] user
  | cons {user middle final : User} {event : PartEvent}
      {events : List PartEvent}
      (agreed : callbacks.deliver user event = (.ok, middle))
      (delivers : Delivers callbacks middle events final) :
      Delivers callbacks user (event :: events) final

/-- Events delivered one after another. -/
theorem Delivers.append {callbacks : PartCallbacks User}
    {user middle final : User}
    {events events' : List PartEvent}
    (before : callbacks.Delivers user events middle)
    (behind : callbacks.Delivers middle events' final) :
    callbacks.Delivers user (events ++ events') final := by
  induction before with
  | nil => exact behind
  | cons agreed _ ih => exact .cons agreed (ih behind)

/-- The application returns `SALTS_OK` whatever it is given. -/
def Agrees : Prop :=
  ∀ user event, (callbacks.deliver user event).1 = .ok

end PartCallbacks

/-! ## Delimiters -/

variable (boundary : Bytes)

/-- The octets in front of the first part. -/
def opening : Bytes := dash :: dash :: boundary ++ crlf

/-- The octets behind the body of a part. -/
def marker : Bytes := cr :: lf :: dash :: dash :: boundary

/-- The marker as a delimiter: a boundary has no carriage return. -/
def markerOf (clean : cr ∉ boundary) : Delimiter UInt8 where
  first := cr
  rest := lf :: dash :: dash :: boundary
  once := by
    simp only [List.mem_cons, not_or]
    exact ⟨by decide, by decide, by decide, clean⟩

theorem symbols_markerOf {boundary : Bytes} (clean : cr ∉ boundary) :
    (markerOf boundary clean).symbols = marker boundary :=
  rfl

namespace MultipartParser

theorem markerChar_eq (parser : MultipartParser) (index : Nat) :
    parser.markerChar index = (marker parser.boundary)[index]? := by
  match index with
  | 0 => rfl
  | 1 => rfl
  | 2 => rfl
  | 3 => rfl
  | _ + 4 => rfl

theorem initialChar_eq (parser : MultipartParser) {index : Nat}
    (inside : index < parser.boundary.length + 4) :
    (opening parser.boundary)[index]? = some (parser.initialChar index) := by
  rcases index with _ | _ | index
  · rfl
  · rfl
  change (parser.boundary ++ crlf)[index]? = _
  unfold MultipartParser.initialChar
  grind [crlf]

/-! ## One octet -/

variable (parser : MultipartParser)

/-- The limit for the octets of a field leaves room for some more. -/
def Room (octets : Nat) : Prop := parser.currentFile = false →
    octets ≤ parser.limits.maxFieldBytes - parser.fieldBytes

theorem room_zero (parser : MultipartParser) : parser.Room 0 :=
  fun _ => Nat.zero_le _

theorem room_add (parser : MultipartParser) (first second : Nat) :
    parser.Room (first + second) ↔
    parser.Room first ∧ (parser.took first).Room second := by
  by_cases file : parser.currentFile = true
  · simp [Room, took, file]
  · simp only [Room, took, file, Bool.false_eq_true, if_false, forall_const]
    omega

theorem took_zero (parser : MultipartParser) : parser.took 0 = parser := by
  unfold took
  split_ifs <;> rfl

theorem took_took (parser : MultipartParser) (first second : Nat) :
    (parser.took first).took second = parser.took (first + second) := by
  unfold took
  split_ifs with file
  · rfl
  · simp only [Nat.add_assoc]

/-- The headers may go on with an octet. -/
def Framed (value : UInt8) : Prop := value ≠ 0 ∧
    parser.headerBytes.length < parser.limits.maxHeaderBytes ∧
    (parser.headerBytes.getLast? = some cr ↔ value = lf)

/-- Hold back the begin of the delimiter, or go on behind it. -/
def hold (held : Nat) : MultipartParser :=
  if held = (marker parser.boundary).length then
    { parser with pending := [], suffixState := 0, state := .suffix }
  else { parser with pending := (marker parser.boundary).take held }

/-- The octets behind a delimiter which neither end a part nor the form. -/
@[mk_iff]
inductive SuffixMove : Nat → UInt8 → Nat → Prop where
  | next : SuffixMove 0 cr 1
  | close : SuffixMove 0 dash 2
  | closing : SuffixMove 2 dash 3
  | closed : SuffixMove 3 cr 4

/-- What an octet does, and the items it completes. -/
@[mk_iff]
inductive Octet (delimiter : Delimiter UInt8) :
    MultipartParser → UInt8 → List FormItem → MultipartParser → Prop where
  | opening {parser : MultipartParser} {value : UInt8}
      (state : parser.state = .initial)
      (expected : value = parser.initialChar parser.initialIndex) :
      Octet delimiter parser value [] (parser.opened.count 1)
  | header {parser : MultipartParser} {value : UInt8}
      (state : parser.state = .headers) (framed : parser.Framed value)
      (more : ¬ crlf ++ crlf <:+ (parser.store value).headerBytes) :
      Octet delimiter parser value [] ((parser.store value).count 1)
  | begins {parser : MultipartParser} {value : UInt8} {part : MultipartPart}
      (state : parser.state = .headers) (framed : parser.Framed value)
      (complete : crlf ++ crlf <:+ (parser.store value).headerBytes)
      (read : readHeaders parser.limits 0 none none
        (parser.store value).headerBytes = .ok part)
      (room : parser.partCount < parser.limits.maxParts) :
      Octet delimiter parser value [.begins part]
      (((parser.store value).begun part).count 1)
  | text {parser : MultipartParser} {value : UInt8}
      (state : parser.state = .body)
      (room : parser.Room
        (delimiter.step parser.pending.length value).1.length) :
      Octet delimiter parser value
        ((delimiter.step parser.pending.length value).1.map .octet)
        (((parser.took
          (delimiter.step parser.pending.length value).1.length).hold
          (delimiter.step parser.pending.length value).2).count 1)
  | suffix {parser : MultipartParser} {value : UInt8} {next : Nat}
      (state : parser.state = .suffix)
      (moves : SuffixMove parser.suffixState value next) :
      Octet delimiter parser value []
      ({ parser with suffixState := next }.count 1)
  | ends {parser : MultipartParser}
      (state : parser.state = .suffix) (ended : parser.suffixState = 1) :
      Octet delimiter parser lf [.ends]
        ({ { parser with suffixState := 0 }.clearPart with state :=
          .headers }.count 1)
  | done {parser : MultipartParser}
      (state : parser.state = .suffix) (ended : parser.suffixState = 4) :
      Octet delimiter parser lf [.ends]
        ({ parser with suffixState := 0, state := .done }.count 1)

/-- What some octets do. -/
inductive Octets (delimiter : Delimiter UInt8) :
    MultipartParser → Bytes → List FormItem → MultipartParser → Prop where
  | nil (parser : MultipartParser) : Octets delimiter parser [] [] parser
  | cons {parser middle final : MultipartParser} {value : UInt8}
      {values : Bytes} {items items' : List FormItem}
      (octet : Octet delimiter parser value items middle)
      (octets : Octets delimiter middle values items' final) :
      Octets delimiter parser (value :: values) (items ++ items') final

variable {delimiter : Delimiter UInt8}

variable {parser final parser' : MultipartParser} {values : Bytes}
  {items : List FormItem}
  {value : UInt8}

/-- Readings of octets compose, and so do their items. -/
theorem Octets.append {middle : MultipartParser} {values' : Bytes}
    {items' : List FormItem}
    (before : Octets delimiter parser values items middle)
    (behind : Octets delimiter middle values' items' final) :
    Octets delimiter parser (values ++ values') (items ++ items') final := by
  induction before with
  | nil => exact behind
  | cons octet _ ih =>
    rw [List.append_assoc]
    exact .cons octet (ih behind)

/-- A reading can be cut between any two octets. -/
theorem Octets.split {values' : Bytes}
    (octets : Octets delimiter parser (values ++ values') items final) :
    ∃ middle before behind, items = before ++ behind ∧
      Octets delimiter parser values before middle ∧
      Octets delimiter middle values' behind final := by
  induction values generalizing parser items with
  | nil => exact ⟨parser, [], items, rfl, .nil parser, octets⟩
  | cons value values ih =>
    cases octets with
    | cons octet octets =>
      obtain ⟨middle, before, behind, rfl, first, second⟩ := ih octets
      exact ⟨middle, _, behind, (List.append_assoc _ _ _).symm,
        .cons octet first, second⟩

theorem Octets.singleton (octet : Octet delimiter parser value items final) :
    Octets delimiter parser [value] items final := by
  have octets := Octets.cons octet (.nil final)
  rwa [List.append_nil] at octets

/-! ## What stays -/

/-- What is held back is the begin of the delimiter. -/
structure Synced (delimiter : Delimiter UInt8) (parser : MultipartParser) :
    Prop where
  marks : delimiter.symbols = marker parser.boundary
  held : parser.pending <+: marker parser.boundary
  short : parser.pending.length < (marker parser.boundary).length

theorem Synced.of_same (synced : Synced delimiter parser)
    (boundary : parser'.boundary = parser.boundary)
    (pending : parser'.pending = parser.pending) :
    Synced delimiter parser' := by
  obtain ⟨marks, held, short⟩ := synced
  rw [← boundary] at marks held short
  rw [← pending] at held short
  exact ⟨marks, held, short⟩

theorem Synced.of_empty (synced : Synced delimiter parser)
    (boundary : parser'.boundary = parser.boundary)
    (pending : parser'.pending = []) :
    Synced delimiter parser' := by
  refine ⟨by rw [boundary, synced.marks], ?_, ?_⟩
  · rw [pending]
    exact List.nil_prefix
  · rw [pending]
    exact Nat.succ_pos _

/-- One octet is counted and changes no setting of the parser. -/
theorem Octet.fixed (octet : Octet delimiter parser value items parser') :
    parser'.boundary = parser.boundary ∧ parser'.limits = parser.limits ∧
      parser'.active = parser.active ∧ parser'.failed = parser.failed ∧
      parser'.totalBytes = parser.totalBytes + 1 := by
  cases octet with
  | opening =>
    unfold opened
    split_ifs <;> exact ⟨rfl, rfl, rfl, rfl, rfl⟩
  | text =>
    unfold hold took
    split_ifs
    all_goals exact ⟨rfl, rfl, rfl, rfl, rfl⟩
  | _ => exact ⟨rfl, rfl, rfl, rfl, rfl⟩

/-- Octets are counted and change no setting of the parser. -/
theorem Octets.fixed (octets : Octets delimiter parser values items parser') :
    parser'.boundary = parser.boundary ∧ parser'.limits = parser.limits ∧
      parser'.active = parser.active ∧ parser'.failed = parser.failed ∧
      parser'.totalBytes = parser.totalBytes + values.length := by
  induction octets with
  | nil => exact ⟨rfl, rfl, rfl, rfl, rfl⟩
  | cons octet _ ih =>
    obtain ⟨boundary, limits, active, failed, total⟩ := octet.fixed
    obtain ⟨boundary', limits', active', failed', total'⟩ := ih
    refine ⟨boundary'.trans boundary, limits'.trans limits,
      active'.trans active, failed'.trans failed, ?_⟩
    rw [total', total, List.length_cons]
    omega

theorem took_boundary (parser : MultipartParser) (octets : Nat) :
    (parser.took octets).boundary = parser.boundary := by
  unfold took
  split_ifs <;> rfl

theorem took_pending (parser : MultipartParser) (octets : Nat) :
    (parser.took octets).pending = parser.pending := by
  unfold took
  split_ifs <;> rfl

theorem took_state (parser : MultipartParser) (octets : Nat) :
    (parser.took octets).state = parser.state := by
  unfold took
  split_ifs <;> rfl

/-- One octet keeps the parser in step with the delimiter. -/
theorem Octet.synced (octet : Octet delimiter parser value items parser')
    (synced : Synced delimiter parser) : Synced delimiter parser' := by
  have boundary := octet.fixed.1
  cases octet with
  | opening =>
    refine synced.of_same boundary ?_
    unfold opened
    split_ifs <;> rfl
  | begins | ends => exact synced.of_empty rfl rfl
  | text =>
    have below := delimiter.step_held_le (synced.marks ▸ synced.short) value
    generalize delimiter.step parser.pending.length value = step
      at below boundary ⊢
    rw [synced.marks] at below
    refine ⟨synced.marks.trans (by rw [boundary]), ?_, ?_⟩
    · rw [boundary]
      change (hold _ step.2).pending <+: _
      unfold hold
      rw [took_boundary]
      split_ifs
      · exact List.nil_prefix
      · exact List.take_prefix _ _
    rw [boundary]
    change (hold _ step.2).pending.length < _
    unfold hold
    rw [took_boundary]
    split_ifs with complete
    · exact Nat.succ_pos _
    · exact lt_of_le_of_lt (List.length_take_le _ _)
        (lt_of_le_of_ne below complete)
  | _ => exact synced.of_same rfl rfl

theorem Octets.synced (octets : Octets delimiter parser values items parser')
    (synced : Synced delimiter parser) : Synced delimiter parser' := by
  induction octets with
  | nil => exact synced
  | cons octet _ ih => exact ih (octet.synced synced)

/-! ## Octets of a body -/

/-- A delimiter begins with a carriage return. -/
theorem Synced.first (synced : Synced delimiter parser) :
    delimiter.first = cr :=
  (List.cons.inj synced.marks).1

theorem octet_text_iff (state : parser.state = .body) :
    Octet delimiter parser value items final ↔
      parser.Room (delimiter.step parser.pending.length value).1.length ∧
        items = (delimiter.step parser.pending.length value).1.map .octet ∧
        final = ((parser.took
            (delimiter.step parser.pending.length value).1.length).hold
          (delimiter.step parser.pending.length value).2).count 1 := by
  simp [octet_iff, state]

theorem octet_opening_iff (state : parser.state = .initial) :
    Octet delimiter parser value items final ↔
      value = parser.initialChar parser.initialIndex ∧ items = [] ∧
        final = parser.opened.count 1 := by
  simp [octet_iff, state]

theorem Octet.state_ne (octet : Octet delimiter parser value items final) :
    parser.state ≠ .done ∧ parser.state ≠ .failed := by
  cases octet with
  | opening state | header state | begins state | text state | suffix state
  | ends state | done state => rw [state]; decide

/-- While nothing is held back, an octet which is no carriage return goes
out. -/
theorem octet_plain_iff (state : parser.state = .body)
    (synced : Synced delimiter parser)
    (empty : parser.pending = []) (plain : value ≠ cr) :
    Octet delimiter parser value items final ↔
      parser.Room 1 ∧ items = [.octet value] ∧
        final = (parser.took 1).count 1 := by
  have stepped : delimiter.step parser.pending.length value = ([value], 0) := by
    rw [empty, Delimiter.step, if_pos List.length_nil, Delimiter.restart,
      synced.first, if_neg plain]
  have kept : (parser.took 1).hold 0 = parser.took 1 := by
    have pending := (took_pending parser 1).trans empty
    have incomplete : 0 ≠ (marker (parser.took 1).boundary).length :=
      (Nat.succ_ne_zero _).symm
    rw [hold, if_neg incomplete, List.take_zero, ← pending]
  rw [octet_text_iff state, stepped]
  simp only [List.length_singleton, kept]
  rfl

theorem took_count (parser : MultipartParser) (octets total : Nat) :
    (parser.count total).took octets = (parser.took octets).count total := by
  cases file : parser.currentFile <;> simp [took, count, file]

theorem count_count (parser : MultipartParser) (first second : Nat) :
    (parser.count first).count second = parser.count (first + second) := by
  simp only [count, Nat.add_assoc]

section

variable (state : parser.state = .body)

include state

theorem octet_held_iff {held : Nat}
    (stepped : delimiter.step parser.pending.length value = ([], held)) :
    Octet delimiter parser value items final ↔
      items = [] ∧ final = (parser.hold held).count 1 := by
  rw [octet_text_iff state, stepped]
  simp only [List.length_nil, took_zero, List.map_nil]
  exact and_iff_right parser.room_zero

variable (synced : Synced delimiter parser)

include synced

/-- A run without carriage returns goes out. -/
theorem octets_run_iff {run rest : Bytes} (empty : parser.pending = [])
    (plain : cr ∉ run) :
    Octets delimiter parser (run ++ rest) items final ↔
      parser.Room run.length ∧ ∃ items', items = run.map .octet ++ items' ∧
        Octets delimiter ((parser.took run.length).count run.length) rest items'
          final := by
  induction run generalizing parser items with
  | nil =>
    have unchanged : (parser.took 0).count 0 = parser := by
      rw [took_zero]
      rfl
    simp only [List.nil_append, List.length_nil, List.map_nil, unchanged]
    constructor
    · intro octets
      exact ⟨parser.room_zero, items, rfl, octets⟩
    · rintro ⟨-, items', rfl, octets⟩
      exact octets
  | cons value run ih =>
    have other : value ≠ cr := fun same => plain (same ▸ List.mem_cons_self)
    have plain' : cr ∉ run := fun member =>
      plain (List.mem_cons_of_mem _ member)
    have state' : ((parser.took 1).count 1).state = .body :=
      (took_state parser 1).trans state
    have empty' : ((parser.took 1).count 1).pending = [] :=
      (took_pending parser 1).trans empty
    have synced' : Synced delimiter ((parser.took 1).count 1) :=
      synced.of_empty (took_boundary parser 1) empty'
    have reached : (((parser.took 1).count 1).took run.length).count
      run.length =
        (parser.took (value :: run).length).count (value :: run).length := by
      rw [took_count, took_took, count_count, List.length_cons, Nat.add_comm 1]
    have spec := @ih ((parser.took 1).count 1)
    rw [List.length_cons, Nat.add_comm run.length 1, room_add]
    rw [List.length_cons, Nat.add_comm run.length 1] at reached
    constructor
    · intro octets
      cases octets with
      | cons octet octets =>
        obtain ⟨room, rfl, rfl⟩ :=
          (octet_plain_iff state synced empty other).mp octet
        obtain ⟨room', items', rfl, octets'⟩ :=
          (spec state' synced' empty' plain').mp octets
        rw [reached] at octets'
        exact ⟨⟨room, room'⟩, items', rfl, octets'⟩
    rintro ⟨⟨room, room'⟩, items', rfl, octets'⟩
    rw [← reached] at octets'
    have behind := (@spec (run.map .octet ++ items') state' synced' empty'
      plain').mpr ⟨room', items', rfl, octets'⟩
    have joined :=
      Octets.cons
        ((octet_plain_iff state synced empty other).mpr ⟨room, rfl, rfl⟩)
      behind
    exact joined

theorem octet_cr_iff (empty : parser.pending = []) :
    Octet delimiter parser cr items final ↔
      items = [] ∧ final = { parser.count 1 with pending := [cr] } := by
  have stepped : delimiter.step parser.pending.length cr = ([], 1) := by
    rw [empty, Delimiter.step, if_pos List.length_nil, Delimiter.restart,
      synced.first, if_pos rfl]
  have incomplete : 1 ≠ (marker parser.boundary).length := by
    simp [marker]
  rw [octet_held_iff state stepped, hold, if_neg incomplete]
  rfl

theorem octet_match_iff (held : parser.pending ≠ [])
    (expected : parser.markerChar parser.pending.length = some value) :
    Octet delimiter parser value items final ↔
      items = [] ∧ final = (parser.matched value).count 1 := by
  rw [markerChar_eq] at expected
  have stepped : delimiter.step parser.pending.length value =
      ([], parser.pending.length + 1) := by
    rw [Delimiter.step, if_neg (by simpa using held), synced.marks,
      if_pos expected]
  have length : (marker parser.boundary).length =
      parser.boundary.length + 4 := by
    simp [marker]
  have pending : (marker parser.boundary).take (parser.pending.length + 1) =
      parser.pending ++ [value] := by
    rw [List.take_add_one, expected, ← List.prefix_iff_eq_take.mp synced.held]
    rfl
  rw [octet_held_iff state stepped, hold, matched, length, pending]

end

theorem hold_took_release (parser : MultipartParser) (octets held : Nat) :
    ({ parser with pending := [] }.took octets).hold held =
      (parser.took octets).hold held := by
  unfold took
  split_ifs <;> rfl

/-- An octet which does not continue the delimiter frees what was held back, and
is read as if nothing had been. -/
theorem octets_flush_iff {rest : Bytes} (state : parser.state = .body)
    (synced : Synced delimiter parser) (held : parser.pending ≠ [])
    (unexpected : parser.markerChar parser.pending.length ≠ some value) :
    Octets delimiter parser (value :: rest) items final ↔
      parser.Room parser.pending.length ∧
        ∃ items', items = parser.pending.map .octet ++ items' ∧ Octets delimiter
            { parser.took parser.pending.length with pending := [] }
            (value :: rest) items' final := by
  rw [markerChar_eq] at unexpected
  let flushed : MultipartParser :=
    { parser.took parser.pending.length with pending := [] }
  have state' : flushed.state = .body := (took_state parser _).trans state
  have fresh : delimiter.step flushed.pending.length value =
      delimiter.restart value := by
    rw [Delimiter.step, if_pos List.length_nil]
  have stepped : delimiter.step parser.pending.length value =
      (parser.pending ++ (delimiter.restart value).1,
        (delimiter.restart value).2) := by
    rw [Delimiter.step, if_neg (by simpa using held), synced.marks,
      if_neg unexpected, ← List.prefix_iff_eq_take.mp synced.held]
  have reached : ∀ octets held, (flushed.took octets).hold held =
        (parser.took (parser.pending.length + octets)).hold held := by
    intro octets held
    rw [← took_took]
    exact hold_took_release _ _ _
  constructor
  · intro octets
    cases octets with
    | cons octet octets =>
      obtain ⟨room, rfl, rfl⟩ := (octet_text_iff state).mp octet
      rw [stepped] at room octets ⊢
      dsimp only at room octets ⊢
      rw [List.length_append] at room octets
      obtain ⟨room, room'⟩ := (room_add _ _ _).mp room
      rw [List.map_append, List.append_assoc]
      rw [← reached] at octets
      refine ⟨room, _, rfl, .cons ?_ octets⟩
      rw [octet_text_iff state', fresh]
      exact ⟨room', rfl, rfl⟩
  rintro ⟨room, items', rfl, octets⟩
  cases octets with
  | cons octet octets =>
    obtain ⟨room', rfl, rfl⟩ := (octet_text_iff state').mp octet
    rw [fresh] at room' octets ⊢
    rw [reached] at octets
    rw [← List.append_assoc, ← List.map_append]
    refine .cons ?_ octets
    rw [octet_text_iff state, stepped]
    dsimp only
    rw [List.length_append]
    exact ⟨(room_add _ _ _).mpr ⟨room, room'⟩, rfl, rfl⟩

end MultipartParser

end Chttp.App
