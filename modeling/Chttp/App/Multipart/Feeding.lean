import Chttp.App.Multipart.Octets

/-!
# Feeding the parser

A call of `chttp_web_multipart_feed` which returns `CHTTP_WEB_OK` has read its
octets one by one, and such octets are read by any calls they are cut into.
What the parser accepts to the end begins with the opening delimiter and ends
with the closing one.
-/

namespace Chttp.App

open Lib Server

namespace MultipartParser

variable {User : Type*} {delimiter : Delimiter UInt8}

/-! ## One call -/

variable {user user' : User} {parser parser' final : MultipartParser}
  {data read : Bytes}
  {value : UInt8} {items : List FormItem}

theorem readHeaders_refusal {limits : MultipartLimits} {headerCount : Nat}
    {disposition : Option (Bytes × Option Bytes)} {contentType : Option Bytes}
    {refusal : Refusal}
    (refused : readHeaders limits headerCount disposition contentType data =
      .error refusal) :
    refusal.1 ≠ .ok := by
  have missing : ∀ {disposition contentType},
      partOf disposition contentType = .error refusal → refusal.1 ≠ .ok := by
    intro disposition contentType refused
    unfold partOf at refused
    split at refused
    · cases refused
      decide
    · cases refused
  fun_induction readHeaders limits headerCount disposition contentType data with
  | case1 | case3 => exact missing refused
  | case11 | case14 | case15 =>
    rename_i ih
    exact ih refused
  | _ =>
    cases refused
    decide

section Calls

variable {callbacks : PartCallbacks User}

/-- The application has been called, some number of times. -/
def Calls (callbacks : PartCallbacks User) : User → User → Prop :=
  Relation.ReflTransGen fun user user' => ∃ event,
  (callbacks.deliver user event).2 = user'

/-- How a step ends: the application has been called, and a step which does not
return `CHTTP_WEB_OK` leaves a failed parser. -/
structure Ends (callbacks : PartCallbacks User) (user : User)
    (progress : Progress User) :
    Prop where
  calls : Calls callbacks user progress.2.2
  refused : ∀ error, progress.1 = some error → error.status ≠ .ok ∧
    progress.2.1.failed = true

theorem ends_fail {refusal : Refusal} {nativeStatus : Status}
    (proper : refusal.1 ≠ .ok)
    (calls : Calls callbacks user user') :
    Ends callbacks user (parser.fail user' refusal nativeStatus) := by
  refine ⟨calls, fun error same => ?_⟩
  cases same
  exact ⟨proper, rfl⟩

theorem delivers_calls {events : List PartEvent}
    (delivers : callbacks.Delivers user events user') :
    Calls callbacks user user' := by
  induction delivers with
  | nil => exact .refl
  | cons agreed _ further => exact .head ⟨_, congrArg Prod.snd agreed⟩ further

/-- A step against what is allowed, the items it completes and the parser behind
it: it does what is allowed and nothing else is, or it fails and nothing is
allowed, as long as the application agrees. -/
inductive Outcome (callbacks : PartCallbacks User) (user : User) (octets : Nat)
    (Allowed : List FormItem → MultipartParser → Prop) :
    Progress User → Prop where
  | goes {events : List PartEvent} {parser : MultipartParser} {user' : User}
      (delivers : callbacks.Delivers user events user')
      (allowed : ∀ items final, Allowed items final ↔
        items = events.flatMap PartEvent.items ∧ final = parser.count octets) :
      Outcome callbacks user octets Allowed (none, parser, user')
  | stops {error : WebError} {parser : MultipartParser} {user' : User}
      (ends : Ends callbacks user (some error, parser, user'))
      (refused : callbacks.Agrees → ∀ items final, ¬ Allowed items final) :
      Outcome callbacks user octets Allowed (some error, parser, user')

section

variable {octets : Nat} {Allowed : List FormItem → MultipartParser → Prop}

/-- A refusal which no reading allows is an outcome. -/
theorem Outcome.fail {refusal : Refusal} (proper : refusal.1 ≠ .ok)
    (refused : ∀ items final, ¬ Allowed items final) :
    Outcome callbacks user octets Allowed (parser.fail user refusal .ok) :=
  .stops (ends_fail proper .refl) fun _ => refused

theorem Outcome.silent
    (allowed : ∀ items final, Allowed items final ↔
      items = [] ∧ final = parser.count octets) :
    Outcome callbacks user octets Allowed (none, parser, user) :=
  .goes (.nil user) allowed

/-- A step which calls the application. -/
theorem Outcome.deliver (event : PartEvent) (message : String)
    (allowed : ∀ items final, Allowed items final ↔
      items = event.items ∧ final = parser'.count octets) :
    Outcome callbacks user octets Allowed
      (match callbacks.deliver user event with
      | (.ok, user) => (none, parser', user)
      | (nativeStatus, user) =>
        parser.fail user (.multipart, message) nativeStatus) := by
  split
  · rename_i agreed
    refine .goes (.cons agreed (.nil _)) fun items final => ?_
    rw [allowed, List.flatMap_singleton]
  · rename_i other refused
    have calls : Calls callbacks user _ :=
      .single ⟨event, congrArg Prod.snd refused⟩
    refine .stops (ends_fail WebStatus.noConfusion calls) fun agrees => ?_
    have agreed := agrees user event
    rw [refused] at agreed
    exact absurd agreed other

variable (parser : MultipartParser) (user : User)

theorem emit_outcome (data : Bytes) :
    Outcome callbacks user 0 (fun items final => parser.Room data.length ∧
      items = data.map .octet ∧ final = parser.took data.length)
      (parser.emit callbacks user data) := by
  unfold emit
  split_ifs with empty limited
  · cases List.isEmpty_iff.mp empty
    refine .silent fun items final => ?_
    rw [List.length_nil, took_zero]
    exact and_iff_right parser.room_zero
  · refine .fail (by decide) ?_
    rintro items final ⟨room, -⟩
    exact absurd (room (by simpa using limited.1)) (Nat.not_le_of_lt limited.2)
  have room : parser.Room data.length := by
    intro field
    refine Nat.le_of_not_lt fun long => limited ⟨?_, long⟩
    rw [field]
    rfl
  exact .deliver (.chunk data) _ fun items final => and_iff_right room

theorem beginPart_outcome
    (allowed : ∀ items final, Allowed items final ↔ ∃ part,
      readHeaders parser.limits 0 none none parser.headerBytes = .ok part ∧
        parser.partCount < parser.limits.maxParts ∧
        items = [.begins part] ∧ final = (parser.begun part).count octets) :
    Outcome callbacks user octets Allowed
      (parser.beginPart callbacks user) := by
  unfold beginPart
  split
  · rename_i refusal refused
    refine .fail (readHeaders_refusal refused) fun items final => ?_
    simp [allowed, refused]
  rename_i part read
  split_ifs with many
  · refine .fail (by decide) fun items final => ?_
    simp [allowed, Nat.not_lt.mpr many]
  refine .deliver (.begins part) _ fun items final => ?_
  simp [allowed, read, Nat.lt_of_not_le many, PartEvent.items]

theorem endPart_outcome (final : Bool)
    (allowed : ∀ items final', Allowed items final' ↔ items = [.ends] ∧
      final' = (if final then { parser with state := .done }
        else { parser.clearPart with state := .headers }).count octets) :
    Outcome callbacks user octets Allowed
      (parser.endPart callbacks user final) :=
  .deliver .ends _ allowed

variable {parser}

theorem feedHeaderByte_outcome (state : parser.state = .headers)
    (value : UInt8) :
    Outcome callbacks user 1 (Octet delimiter parser value)
      (parser.feedHeaderByte callbacks user value) := by
  unfold feedHeaderByte
  split_ifs with zero long bare unpaired complete
  · exact .fail (by decide) fun items final => by simp [octet_iff, state,
      Framed, zero]
  · exact .fail (by decide) fun items final => by simp [octet_iff, state,
      Framed, long]
  · exact .fail (by decide) fun items final => by simp [octet_iff, state,
      Framed, bare]
  · exact .fail (by decide) fun items final => by simp [octet_iff, state,
      Framed, unpaired]
  all_goals
    have framed : parser.Framed value := by
      refine ⟨zero, Nat.lt_of_not_le long, ?_, ?_⟩
      · intro last
        exact of_not_not fun other => bare ⟨last, other⟩
      · intro feed
        exact of_not_not fun other => unpaired ⟨feed, other⟩
  · refine beginPart_outcome _ user fun items final => ?_
    simp only [octet_iff, state, framed, complete]
    simp
    rfl
  · exact .silent fun items final => by simp [octet_iff, state, framed,
      complete]

/-- Behind a delimiter, one octet has the outcome it is described by. -/
theorem feedSuffixByte_outcome (state : parser.state = .suffix)
    (value : UInt8) :
    Outcome callbacks user 1 (Octet delimiter parser value)
      (parser.feedSuffixByte callbacks user value) := by
  unfold feedSuffixByte
  dsimp only
  split
  · rename_i zero
    split_ifs with next close
    · exact .silent fun items final => by simp [octet_iff, suffixMove_iff,
        state, zero, next, cr, dash]
    · exact .silent fun items final => by simp [octet_iff, suffixMove_iff,
        state, zero, close, cr, dash]
    · exact .fail (by decide) fun items final => by
        simp [octet_iff, suffixMove_iff, state, zero, next, close]
  · rename_i one
    split_ifs with feed
    · exact endPart_outcome _ user false fun items final => by
        simp [octet_iff, suffixMove_iff, state, one, feed]
    · exact .fail (by decide) fun items
        final => by simp [octet_iff, suffixMove_iff, state, one, feed]
  · rename_i two
    split_ifs with closing
    · exact .silent fun items final => by simp [octet_iff, suffixMove_iff,
        state, two, closing]
    · exact .fail (by decide) fun items final => by
        simp [octet_iff, suffixMove_iff, state, two, closing]
  · rename_i three
    split_ifs with closed
    · exact .silent fun items final => by simp [octet_iff, suffixMove_iff,
        state, three, closed]
    · exact .fail (by decide) fun items final => by
        simp [octet_iff, suffixMove_iff, state, three, closed]
  · rename_i four
    split_ifs with feed
    · exact endPart_outcome _ user true fun items final => by
        simp [octet_iff, suffixMove_iff, state, four, feed]
    · exact .fail (by decide) fun items
        final => by simp [octet_iff, suffixMove_iff, state, four, feed]
  · exact .fail (by decide) fun items final => by grind
      [octet_iff, suffixMove_iff]

end

theorem cr_not_mem_run (data : Bytes) : cr ∉ data.takeWhile (· != cr) := by
  intro member
  have plain := List.mem_takeWhile_imp member
  simp at plain

theorem cr_behind_run {others : Bytes}
    (behind : data.dropWhile (· != cr) = value :: others) :
    value = cr := by
  have stop := List.head_dropWhile_not (· != cr) (l := data) (by simp [behind])
  simpa [behind] using stop

/-- The octets of a body up to the next carriage return go out. -/
theorem octets_front_iff (state : parser.state = .body)
    (synced : Synced delimiter parser)
    (empty : parser.pending = []) :
    Octets delimiter parser data items final ↔
      parser.Room (data.takeWhile (· != cr)).length ∧
        ∃ items', items = (data.takeWhile (· != cr)).map .octet ++ items' ∧
          Octets delimiter
            ((parser.took (data.takeWhile (· != cr)).length).count
              (data.takeWhile (· != cr)).length)
            (data.dropWhile (· != cr)) items' final := by
  rw [← octets_run_iff state synced empty (cr_not_mem_run data),
    List.takeWhile_append_dropWhile]

theorem octets_cons_iff {rest : Bytes} {first : List FormItem}
    (same : ∀ items final, Octet delimiter parser value items final ↔
      items = first ∧ final = parser') :
    Octets delimiter parser (value :: rest) items final ↔
      ∃ items', items = first ++ items' ∧
        Octets delimiter parser' rest items' final := by
  constructor
  · intro octets
    cases octets with
    | cons octet octets =>
      obtain ⟨rfl, rfl⟩ := (same _ _).mp octet
      exact ⟨_, rfl, octets⟩
  · rintro ⟨items', rfl, octets⟩
    exact .cons ((same _ _).mpr ⟨rfl, rfl⟩) octets

theorem emit_goes {octets : Bytes}
    (emitted : parser.emit callbacks user octets = (none, parser', user')) :
    parser.Room octets.length ∧ parser' = parser.took octets.length ∧ ∃ events,
      callbacks.Delivers user events user' ∧
        events.flatMap PartEvent.items = octets.map .octet := by
  have outcome := @emit_outcome _ callbacks parser user octets
  rw [emitted] at outcome
  cases outcome with
  | goes delivers allowed =>
    obtain ⟨room, same, took⟩ := (allowed _ _).mpr ⟨rfl, rfl⟩
    exact ⟨room, took, _, delivers, same⟩

/-- How the loop reads its octets, turn by turn. -/
inductive Reads (callbacks : PartCallbacks User) (delimiter : Delimiter UInt8) :
    MultipartParser → User → Bytes → Progress User → Prop where
  | done (parser : MultipartParser) (user : User) :
      Reads callbacks delimiter parser user [] (none, parser, user)
  | turn {parser parser' : MultipartParser} {user user' : User}
      {data rest : Bytes}
      {events : List PartEvent} {progress : Progress User}
      (delivers : callbacks.Delivers user events user')
      (turns : Synced delimiter parser → Synced delimiter parser' ∧
        ∀ items final,
        Octets delimiter parser data items final ↔
          ∃ items', items = events.flatMap PartEvent.items ++ items' ∧
            Octets delimiter parser' rest items' final)
      (reads : Reads callbacks delimiter parser' user' rest progress) :
      Reads callbacks delimiter parser user data progress
  | stops {parser : MultipartParser} {user : User} {data : Bytes}
      {error : WebError}
      {stopped : MultipartParser × User}
      (ends : Ends callbacks user (some error, stopped))
      (refused : callbacks.Agrees → Synced delimiter parser →
        ∀ items final, ¬ Octets delimiter parser data items final) :
      Reads callbacks delimiter parser user data (some error, stopped)

section

variable {rest : Bytes} {progress : Progress User}

/-- A reading which begins with one more octet. -/
theorem Reads.octet {events : List PartEvent}
    (delivers : callbacks.Delivers user events user')
    (same : Synced delimiter parser → ∀ items final,
      Octet delimiter parser value items final ↔
      items = events.flatMap PartEvent.items ∧ final = parser')
    (reads : Reads callbacks delimiter parser' user' rest progress) :
    Reads callbacks delimiter parser user (value :: rest) progress := by
  refine .turn delivers (fun synced => ⟨?_, fun items final => ?_⟩) reads
  · exact ((same synced _ _).mpr ⟨rfl, rfl⟩).synced synced
  · exact octets_cons_iff (same synced)

theorem Reads.go
    (outcome : Outcome callbacks user 1 (Octet delimiter parser value)
      (none, parser', user'))
    (reads : Reads callbacks delimiter (parser'.count 1) user' rest progress) :
    Reads callbacks delimiter parser user (value :: rest) progress := by
  cases outcome with
  | goes delivers allowed => exact .octet delivers (fun _ => allowed) reads

/-- A reading which ends with an error at its first octet. -/
theorem Reads.stop {error : WebError} (outcome : Outcome callbacks user 1
      (Octet delimiter parser value) (some error, parser', user')) :
    Reads callbacks delimiter parser user (value :: rest)
    (some error, parser'.count 1, user') := by
  cases outcome with
  | stops ends refused =>
    refine .stops ⟨ends.calls, ends.refused⟩ fun agrees _ items final octets =>
      ?_
    cases octets with
    | cons octet => exact refused agrees _ _ octet

/-- A reading which refuses its first octet. -/
theorem Reads.fail {refusal : Refusal} (proper : refusal.1 ≠ .ok)
    (refused : ∀ items final, ¬ Octet delimiter parser value items final) :
    Reads callbacks delimiter parser user (value :: rest)
    (parser.fail user refusal .ok) := by
  refine .stops (ends_fail proper .refl) fun _ _ items final octets => ?_
  cases octets with
  | cons octet => exact refused _ _ octet

theorem Reads.refuse {octets : Bytes} {error : WebError}
    {stopped : MultipartParser × User}
    (emitted : parser.emit callbacks user octets = (some error, stopped))
    (room : Synced delimiter parser → ∀ {items final},
      Octets delimiter parser data items final → parser.Room octets.length) :
    Reads callbacks delimiter parser user data (some error, stopped) := by
  have outcome := @emit_outcome _ callbacks parser user octets
  rw [emitted] at outcome
  cases outcome with
  | stops ends refused =>
    exact .stops ends fun agrees synced items final octets =>
      refused agrees _ _ ⟨room synced octets, rfl, rfl⟩

end

/-- The loop over the octets of a call is a reading. -/
theorem feedLoop_reads (parser : MultipartParser) (user : User) (data : Bytes) :
    Reads callbacks delimiter parser user data
      (parser.feedLoop callbacks user data) := by
  fun_induction feedLoop callbacks parser user data with
  | case1 parser user => exact .done parser user
  | case2 parser user value rest state =>
    exact .fail (by decide) fun items final octet => octet.state_ne.1 state
  | case3 parser user value rest state unexpected =>
    exact .fail (by decide) fun items final octet =>
      unexpected ((octet_opening_iff state).mp octet).1
  | case4 parser user value rest state expected ih =>
    refine .octet (.nil user) (fun _ items final => ?_) ih
    rw [octet_opening_iff state, and_iff_right (of_not_not expected)]
    rfl
  | case5 parser user value rest state error parser₁ user₁ step =>
    exact .stop (step ▸ feedHeaderByte_outcome user state value)
  | case6 parser user value rest state parser₁ user₁ step ih =>
    exact .go (step ▸ feedHeaderByte_outcome user state value) ih
  | case7 parser user value rest state error parser₁ user₁ step =>
    exact .stop (step ▸ feedSuffixByte_outcome user state value)
  | case8 parser user value rest state parser₁ user₁ step ih =>
    exact .go (step ▸ feedSuffixByte_outcome user state value) ih
  | case9 parser user value rest state =>
    exact .fail (by decide) fun items final octet => octet.state_ne.2 state
  | case10 parser user value rest state empty run error parser₁ user₁ emitted =>
    exact .refuse emitted fun synced _ _ octets =>
      ((octets_front_iff state synced empty).mp octets).1
  | case11 parser user value rest state empty run parser₁ user₁ emitted
      behind =>
    obtain ⟨room, rfl, events, delivers, same⟩ := emit_goes emitted
    refine .turn delivers (fun synced => ?_) (.done _ _)
    refine ⟨synced.of_same (took_boundary _ _) (took_pending _ _),
      fun items final => ?_⟩
    rw [octets_front_iff state synced empty, and_iff_right room, same, behind]
  | case12 parser user value rest state empty run parser₁ user₁ emitted first
      others behind ih =>
    obtain ⟨room, rfl, events, delivers, same⟩ := emit_goes emitted
    have held : Reads callbacks delimiter
      ((parser.took run.length).count run.length) user₁
        (cr :: others) _ := .octet (.nil user₁) (fun synced items final =>
      octet_cr_iff ((took_state _ _).trans state) synced
        ((took_pending _ _).trans empty)) ih
    refine .turn delivers (fun synced => ?_) held
    refine ⟨synced.of_same (took_boundary _ _) (took_pending _ _),
      fun items final => ?_⟩
    rw [octets_front_iff state synced empty, and_iff_right room, same, behind,
      cr_behind_run behind]
  | case13 parser user value rest state held expected ih =>
    exact .octet (.nil user)
      (fun synced items final => octet_match_iff state synced held expected) ih
  | case14 parser user value rest state held unexpected error parser₁ user₁
      emitted =>
    exact .refuse emitted fun synced _ _ octets =>
      ((octets_flush_iff state synced held unexpected).mp octets).1
  | case15 parser user value rest state held unexpected parser₁ user₁ emitted
      ih =>
    obtain ⟨room, rfl, events, delivers, same⟩ := emit_goes emitted
    refine .turn delivers (fun synced => ?_) ih
    refine ⟨synced.of_empty (took_boundary _ _) rfl, fun items final => ?_⟩
    rw [octets_flush_iff state synced held unexpected, and_iff_right room, same]

section

variable {progress : Progress User}
  (reads : Reads callbacks delimiter parser user data progress)

include reads

/-- A reading ends as a step does. -/
theorem Reads.ends : Ends callbacks user progress := by
  induction reads with
  | done => exact ⟨.refl, nofun⟩
  | turn delivers _ _ ih =>
    exact ⟨(delivers_calls delivers).trans ih.calls, ih.refused⟩
  | stops ends => exact ends

/-- A call which returns `CHTTP_WEB_OK` reads its octets. -/
theorem Reads.sound (synced : Synced delimiter parser)
    (fed : progress = (none, parser', user')) :
    ∃ events, callbacks.Delivers user events user' ∧
      Octets delimiter parser data (events.flatMap PartEvent.items)
        parser' := by
  induction reads with
  | done =>
    cases fed
    exact ⟨[], .nil _, .nil _⟩
  | turn delivers turns _ ih =>
    obtain ⟨synced', same⟩ := turns synced
    obtain ⟨events, delivers', octets⟩ := ih synced' fed
    refine ⟨_, delivers.append delivers', ?_⟩
    rw [List.flatMap_append, same]
    exact ⟨_, rfl, octets⟩
  | stops => cases fed

/-- A call reads all octets as long as the application agrees. -/
theorem Reads.complete (agrees : callbacks.Agrees)
    (synced : Synced delimiter parser)
    (octets : Octets delimiter parser data items parser') :
    ∃ events user', progress = (none, parser', user') ∧
      callbacks.Delivers user events user' ∧
        events.flatMap PartEvent.items = items := by
  induction reads generalizing items with
  | done parser user =>
    cases octets
    exact ⟨[], user, rfl, .nil user, rfl⟩
  | turn delivers turns _ ih =>
    obtain ⟨synced', same⟩ := turns synced
    obtain ⟨items', rfl, octets'⟩ := (same _ _).mp octets
    obtain ⟨events, user', fed, delivers', rfl⟩ := ih synced' octets'
    exact ⟨_, user', fed, delivers.append delivers', List.flatMap_append⟩
  | stops _ refused => exact absurd octets (refused agrees synced _ _)

end

/-! ## Calls one after another -/

/-- A call on a parser which is in use reads its octets, or leaves a failed
parser. -/
theorem feed_cases {error : WebError} (synced : Synced delimiter parser)
    (active : parser.active = true) (sound : parser.failed = false)
    (fed : parser.feed callbacks user data = (error, parser', user')) :
    (error.status = .ok ∧
        ∃ items, Octets delimiter parser data items parser') ∨
      error.status ≠ .ok ∧ parser'.failed = true := by
  rw [feed, if_neg (by simp [active, sound])] at fed
  dsimp only at fed
  split_ifs at fed
  · cases fed
    exact .inr ⟨WebStatus.noConfusion, rfl⟩
  have refused :=
    (@feedLoop_reads _ delimiter callbacks parser user data).ends.refused
  cases loop : parser.feedLoop callbacks user data with
  | mk outcome progress =>
    obtain ⟨parser₁, user₁⟩ := progress
    rw [loop] at fed refused
    cases outcome with
    | none =>
      cases fed
      obtain ⟨events, -, octets⟩ :=
        (feedLoop_reads parser user data).sound synced loop
      exact .inl ⟨rfl, _, octets⟩
    | some error =>
      cases fed
      exact .inr (refused error rfl)

theorem feed_complete (agrees : callbacks.Agrees)
    (synced : Synced delimiter parser)
    (active : parser.active = true) (sound : parser.failed = false)
    (room : parser.totalBytes + data.length ≤ parser.limits.maxTotalBytes)
    (octets : Octets delimiter parser data items parser') (user : User) :
    ∃ events user', parser.feed callbacks user data =
        (accepted parser'.totalBytes, parser', user') ∧
      callbacks.Delivers user events user' ∧
      events.flatMap PartEvent.items = items := by
  obtain ⟨events, user', fed, delivers, same⟩ :=
    (feedLoop_reads parser user data).complete agrees synced octets
  refine ⟨events, user', ?_, delivers, same⟩
  have fits : ¬ parser.limits.maxTotalBytes - parser.totalBytes <
      data.length := by
    omega
  rw [feed, if_neg (by simp [active, sound])]
  dsimp only
  rw [if_neg fits, fed]
  rfl

/-- Several calls of `chttp_web_multipart_feed`: what they return, and what they
leave behind. -/
def feedAll (callbacks : PartCallbacks User) (parser : MultipartParser)
    (user : User) : List Bytes → List WebError × MultipartParser × User
  | [] => ([], parser, user)
  | piece :: pieces =>
    let first := parser.feed callbacks user piece
    let rest := feedAll callbacks first.2.1 first.2.2 pieces
    (first.1 :: rest.1, rest.2)

theorem feedAll_complete (agrees : callbacks.Agrees) {pieces : List Bytes}
    (synced : Synced delimiter parser) (active : parser.active = true)
    (sound : parser.failed = false)
    (room : parser.totalBytes + pieces.flatten.length ≤
      parser.limits.maxTotalBytes)
    (octets : Octets delimiter parser pieces.flatten items parser')
    (user : User) :
    ∃ events user', (parser.feedAll callbacks user pieces).2 =
      (parser', user') ∧
      (∀ error ∈ (parser.feedAll callbacks user pieces).1, error.status = .ok) ∧
      callbacks.Delivers user events user' ∧
      events.flatMap PartEvent.items = items := by
  induction pieces generalizing parser user items with
  | nil =>
    cases octets
    exact ⟨[], user, rfl, List.forall_mem_nil _, .nil user, rfl⟩
  | cons piece pieces ih =>
    rw [List.flatten_cons] at octets room
    rw [List.length_append] at room
    obtain ⟨middle, before, behind, rfl, first, second⟩ := octets.split
    obtain ⟨-, limits, active', sound', total⟩ := first.fixed
    obtain ⟨events, user₁, fed, delivers, rfl⟩ :=
      feed_complete agrees synced active sound (by omega) first user
    obtain ⟨events', user', rest, accepts, delivers', rfl⟩ :=
      ih (first.synced synced) (active'.trans active) (sound'.trans sound)
        (by rw [limits, total]; omega) second user₁
    refine ⟨events ++ events', user', ?_, ?_, delivers.append delivers',
      List.flatMap_append⟩
    · rw [feedAll, fed]
      exact rest
    rw [feedAll, fed]
    intro error member
    rcases List.mem_cons.mp member with rfl | member
    · rfl
    · exact accepts error member

end Calls

/-! ## What the application sees -/

/-- A relation which every callback respects. -/
structure Respects (callbacks : PartCallbacks User)
    (Related : User → User → Prop) : Prop where
  refl : ∀ user, Related user user
  trans : ∀ {first second third}, Related first second → Related second third →
    Related first third
  deliver : ∀ user event, Related user (callbacks.deliver user event).2

section Respect

variable {callbacks : PartCallbacks User} {Related : User → User → Prop}
  (respects : Respects callbacks Related)
include respects

/-- A relation the callbacks respect holds after all their calls. -/
theorem Respects.calls (calls : Calls callbacks user user') :
    Related user user' := by
  induction calls with
  | refl => exact respects.refl user
  | tail _ call further =>
    obtain ⟨event, rfl⟩ := call
    exact respects.trans further (respects.deliver _ event)

theorem feed_respects (parser : MultipartParser) (user : User)
    (data : Bytes) : Related user (parser.feed callbacks user data).2.2 := by
  unfold feed
  dsimp only
  split_ifs
  · exact respects.refl user
  · exact respects.refl user
  · exact respects.calls
      (@feedLoop_reads _ (markerOf [] List.not_mem_nil) _ _ _ _).ends.calls

end Respect

/-! ## What is accepted -/

/-- The octets behind a delimiter which have been read. -/
def suffixText : Nat → Bytes
  | 1 => [cr]
  | 2 => [dash]
  | 3 => [dash, dash]
  | 4 => [dash, dash, cr]
  | _ => []

/-- The octets which have been read, state by state. -/
def Shape (read : Bytes) (parser : MultipartParser) : Prop :=
  match parser.state with
  | .initial => read = (opening parser.boundary).take parser.initialIndex ∧
      parser.initialIndex < (opening parser.boundary).length
  | .headers => opening parser.boundary <+: read
  | .body => ∃ text, opening parser.boundary <+: text ∧
      read = text ++ parser.pending
  | .suffix => ∃ text, opening parser.boundary <+: text ∧
      read = text ++ marker parser.boundary ++ suffixText parser.suffixState
  | .done => ∃ text, opening parser.boundary <+: text ∧
      read = text ++ marker parser.boundary ++ [dash, dash, cr, lf]
  | .failed => False

/-- What has been read, when the state is known. -/
theorem shape_iff (state : MultipartState) (known : parser.state = state) :
    Shape read parser ↔ Shape read { parser with state := state } := by
  rw [← known]

theorem shape_opening (state : parser.state = .initial)
    (shape : Shape read parser) :
    Shape (read ++ [parser.initialChar parser.initialIndex])
    (parser.opened.count 1) := by
  obtain ⟨rfl, inside⟩ := (shape_iff _ state).mp shape
  dsimp only at inside ⊢
  have length : (opening parser.boundary).length =
      parser.boundary.length + 4 := by
    simp [opening, crlf]
  have next : (opening parser.boundary).take parser.initialIndex ++
      [parser.initialChar parser.initialIndex] =
        (opening parser.boundary).take (parser.initialIndex + 1) := by
    rw [List.take_add_one, parser.initialChar_eq (length ▸ inside)]
    rfl
  rw [next]
  unfold opened
  split_ifs with last
  · change opening parser.boundary <+: _
    rw [last, ← length, List.take_length]
  · refine Iff.mpr (shape_iff .initial state) (And.intro rfl ?_)
    change parser.initialIndex + 1 < (opening parser.boundary).length
    omega

theorem shape_text (state : parser.state = .body)
    (synced : Synced delimiter parser)
    (shape : Shape read parser) :
    Shape (read ++ [value])
      (((parser.took (delimiter.step parser.pending.length value).1.length).hold
        (delimiter.step parser.pending.length value).2).count 1) := by
  obtain ⟨text, opened, rfl⟩ := (shape_iff _ state).mp shape
  have restores := delimiter.step_restores parser.pending.length value
  rw [synced.marks, ← List.prefix_iff_eq_take.mp synced.held] at restores
  generalize delimiter.step parser.pending.length value = step at restores ⊢
  have longer : opening parser.boundary <+: text ++ step.1 :=
    opened.trans (List.prefix_append _ _)
  rw [List.append_assoc, ← restores, ← List.append_assoc]
  unfold hold
  rw [took_boundary]
  split_ifs with complete
  · refine Exists.intro (text ++ step.1) ⟨longer, ?_⟩
    rw [complete, List.take_length]
    exact (List.append_nil _).symm
  · refine Iff.mpr (shape_iff .body ((took_state _ _).trans state)) ?_
    exact Exists.intro _ ⟨longer, rfl⟩

/-- One octet keeps the shape of what was read. -/
theorem Octet.shape (octet : Octet delimiter parser value items parser')
    (synced : Synced delimiter parser) (shape : Shape read parser) :
    Shape (read ++ [value]) parser' := by
  cases octet with
  | opening state expected =>
    rw [expected]
    exact shape_opening state shape
  | header state =>
    have opened : _ <+: read := (shape_iff _ state).mp shape
    exact Iff.mpr (shape_iff .headers state)
      (opened.trans (List.prefix_append _ _))
  | begins state =>
    have opened : _ <+: read := (shape_iff _ state).mp shape
    exact Exists.intro _ ⟨opened.trans (List.prefix_append _ _),
      (List.append_nil _).symm⟩
  | text state => exact shape_text state synced shape
  | @suffix _ next state moves =>
    obtain ⟨text, opened, rfl⟩ := (shape_iff _ state).mp shape
    refine Iff.mpr (shape_iff .suffix state) (Exists.intro text ⟨opened, ?_⟩)
    rw [List.append_assoc]
    congr 1
    change _ = suffixText next
    generalize parser.suffixState = before at moves
    cases moves with
    | _ => rfl
  | ends state =>
    obtain ⟨text, opened, rfl⟩ := (shape_iff _ state).mp shape
    refine (opened.trans ?_ : _ <+: _)
    rw [List.append_assoc, List.append_assoc]
    exact List.prefix_append _ _
  | done state ended =>
    obtain ⟨text, opened, rfl⟩ := (shape_iff _ state).mp shape
    refine Exists.intro text ⟨opened, ?_⟩
    rw [ended, List.append_assoc]
    rfl

theorem Octets.shape {values : Bytes}
    (octets : Octets delimiter parser values items parser')
    (synced : Synced delimiter parser) (shape : Shape read parser) :
    Shape (read ++ values) parser' := by
  induction octets generalizing read with
  | nil =>
    rw [List.append_nil]
    exact shape
  | @cons parser middle final value values _ _ octet _ ih =>
    rw [← List.singleton_append, ← List.append_assoc]
    exact ih (octet.synced synced) (octet.shape synced shape)

/-- A body with its opening and its closing delimiter. -/
def Complete (boundary body : Bytes) : Prop :=
  ∃ text, opening boundary <+: text ∧
    body = text ++ marker boundary ++ [dash, dash] ++ crlf

/-- Octets which lead to the end are a complete body. -/
theorem Octets.complete {limits : MultipartLimits} {boundary body : Bytes}
    (marks : delimiter.symbols = marker boundary)
    (octets : Octets delimiter (fresh limits boundary) body items final)
    (done : final.state = .done) : Complete boundary body := by
  have synced : Synced delimiter (fresh limits boundary) :=
    ⟨marks, List.nil_prefix, Nat.succ_pos _⟩
  have begun : Shape [] (fresh limits boundary) := ⟨rfl, Nat.succ_pos _⟩
  obtain ⟨text, opened, whole⟩ :=
    (shape_iff _ done).mp (octets.shape synced begun)
  rw [octets.fixed.1] at opened whole
  refine ⟨text, opened, ?_⟩
  rw [List.nil_append] at whole
  rw [whole, List.append_assoc (text ++ marker boundary)]
  rfl

end MultipartParser

end Chttp.App
