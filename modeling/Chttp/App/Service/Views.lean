import Chttp.App.Service.Bound

/-!
# Texts which are bound

The text of a value in the target lies in the scratch buffer of the invocation,
and so does the copy of every number.  A text is what it was when the plan is
through, if no later entry has written something else over it.
-/

namespace Chttp.App

open Lib Server

theorem overlay_front (scratch data : Bytes) :
    overlay scratch 0 data = data ++ scratch.drop data.length := by
  rw [overlay, List.take_zero, List.nil_append, Nat.zero_add]

/-- Octets at the front hide those of the buffer below them. -/
theorem getElem?_overlay (scratch data : Bytes) (index : Nat) :
    (overlay scratch 0 data)[index]? = data[index]?.or scratch[index]? := by
  rw [overlay_front, List.getElem?_append]
  split_ifs with short
  · rw [List.getElem?_eq_getElem short]
    rfl
  · have long := Nat.le_of_not_lt short
    rw [List.getElem?_eq_none long, List.getElem?_drop,
      Nat.add_sub_cancel' long]
    rfl

theorem overlay_again (scratch data : Bytes) :
    overlay (overlay scratch 0 data) 0 data = overlay scratch 0 data := by
  rw [overlay_front, overlay_front, List.drop_left]

/-- The value is part of the target. -/
def PlanEntry.inTarget (entry : PlanEntry) : Prop :=
  entry.space = .path ∨ entry.space = .query

instance (entry : PlanEntry) : Decidable entry.inTarget :=
  inferInstanceAs (Decidable (_ ∨ _))

/-- The token is a view. -/
def DataKind.textual (kind : DataKind) : Prop :=
  kind = .string ∨ kind = .enum ∨ kind = .bytes

/-- The token is a number, which is read from a copy of this text. -/
def DataKind.copies (kind : DataKind) (text : Bytes) : Prop :=
  kind = .sint ∨ kind = .float ∨ kind = .uint ∧ text ≠ [] ∧ text.head? ≠ some 45

instance (kind : DataKind) (text : Bytes) : Decidable (kind.copies text) :=
  inferInstanceAs (Decidable (_ ∨ _ ∨ _ ∧ _ ∧ _))

namespace BindingService

variable {Real : Type} (service : BindingService Real)
  (request : BindingRequest)

/-- The octets which an entry puts in front of the scratch buffer: the text of a
value in the target and a terminator, the text in front of a percent sign which
begins no escape, or the copy of a number. -/
inductive Puts (entry : PlanEntry) : Bytes → Prop where
  | decoded {raw text : Bytes} (target : entry.inTarget)
      (value : request.value entry = some raw)
      (fits : raw.length ≤ service.scalarCapacity)
      (percent : PercentDecoded (entry.space == .query) raw text) :
      Puts entry (text ++ [0])
  | broken {raw text : Bytes} (target : entry.inTarget)
      (value : request.value entry = some raw)
      (fits : raw.length ≤ service.scalarCapacity)
      (percent : PercentBroken (entry.space == .query) raw text) :
      Puts entry text
  | copied {raw : Bytes} (field : ¬entry.inTarget)
      (tells : request.FirstTells entry)
      (value : request.value entry = some raw)
      (fits : raw.length ≤ service.scalarCapacity)
      (copies : entry.kind.copies raw) :
      Puts entry (raw ++ [0])

/-- No entry puts an octet at an index. -/
def Spares (entries : List PlanEntry) (index : Nat) : Prop :=
  ∀ entry ∈ entries, ∀ octets, service.Puts request entry octets →
    octets.length ≤ index

/-- The last entry which puts an octet at an index puts this one there. -/
def LastPuts (entries : List PlanEntry) (index : Nat) (octet : UInt8) : Prop :=
  ∃ before entry after octets, entries = before ++ entry :: after ∧
    service.Puts request entry octets ∧ octets[index]? = some octet ∧
    service.Spares request after index

variable (entries : List PlanEntry)

variable {service} {request : BindingRequest} {entry : PlanEntry}
  {scratch scratch' : Bytes} {view : TextView}

theorem scalarReaderInit_scratch (kind : DataKind) (view : TextView)
    (scratch : Bytes) :
    (service.scalarReaderInit kind view scratch).2 =
      if kind.copies (view.read scratch) ∧
        (view.read scratch).length ≤ service.scalarCapacity then
        overlay scratch 0 (view.read scratch ++ [0])
      else scratch := by
  unfold scalarReaderInit
  dsimp only
  generalize view.read scratch = text
  cases kind with
  | sint | float | uint =>
    rw [apply_ite Prod.snd, ← ite_not]
    simp [DataKind.copies, and_assoc]
  | bool =>
    refine Eq.trans ?_ (if_neg ?_).symm
    · dsimp only
      split_ifs <;> rfl
    · rintro ⟨numeric | numeric | ⟨numeric, -⟩, -⟩ <;> cases numeric
  | _ =>
    refine (if_neg ?_).symm
    rintro ⟨numeric | numeric | ⟨numeric, -⟩, -⟩ <;> cases numeric

/-- A text which was found is read as the entry's kind says. -/
theorem openInput_located
    (located : service.locate request entry scratch =
      (.ok (some view), scratch')) :
    service.openInput request entry scratch =
      ((service.scalarReaderInit entry.kind view scratch').1.map some,
        (service.scalarReaderInit entry.kind view scratch').2) := by
  rw [openInput, located]
  dsimp only
  rcases service.scalarReaderInit entry.kind view scratch' with
    ⟨outcome, behind⟩
  cases outcome <;> rfl

theorem rawValue_of_inTarget {raw : Bytes} (target : entry.inTarget)
    (value : request.value entry = some raw) :
    request.rawValue entry = some raw := by
  rw [BindingRequest.rawValue_eq, if_pos, value]
  intro cookie
  rcases target with path | query
  · rw [path] at cookie
    cases cookie
  · rw [query] at cookie
    cases cookie

theorem locate_text {raw text : Bytes} (scratch : Bytes)
    (target : entry.inTarget) (value : request.value entry = some raw)
    (fits : raw.length ≤ service.scalarCapacity)
    (percent : PercentDecoded (entry.space == .query) raw text) :
    service.locate request entry scratch =
      (.ok (some (.scratch text.length)), overlay scratch 0 (text ++ [0])) := by
  rw [service.locate_target scratch target (rawValue_of_inTarget target value),
    decodeComponent, if_neg (Nat.not_lt_of_le fits),
    decodeLoop_of_percentDecoded percent fits]

theorem locate_broken {raw text : Bytes} (target : entry.inTarget)
    (value : request.value entry = some raw)
    (fits : raw.length ≤ service.scalarCapacity)
    (percent : PercentBroken (entry.space == .query) raw text) :
    ∃ fault, ∀ scratch, service.locate request entry scratch =
      (.error fault, overlay scratch 0 text) := by
  obtain ⟨fault, loop⟩ := decodeLoop_of_percentBroken percent fits
  refine ⟨fault, fun scratch => ?_⟩
  rw [service.locate_target scratch target (rawValue_of_inTarget target value),
    decodeComponent, if_neg (Nat.not_lt_of_le fits), loop]

theorem locate_copied {raw : Bytes} (scratch : Bytes)
    (field : ¬entry.inTarget) (tells : request.FirstTells entry)
    (value : request.value entry = some raw) :
    service.locate request entry scratch =
      (.ok (some (.request raw)), scratch) := by
  have found : request.rawValue entry = some raw := by
    rw [BindingRequest.rawValue_eq, if_pos tells, value]
  rw [service.locate_field scratch (field_of_rawValue found field), found]
  rfl

/-- How the search for the text of an entry ends, whatever the buffer holds. -/
inductive Located (service : BindingService Real) (request : BindingRequest)
    (entry : PlanEntry) : Prop where
  | still (outcome : Except BindFault (Option TextView))
      (textless : ∀ view, outcome ≠ .ok (some view))
      (located : ∀ scratch,
        service.locate request entry scratch = (outcome, scratch))
  | decoded {raw text : Bytes} (target : entry.inTarget)
      (value : request.value entry = some raw)
      (fits : raw.length ≤ service.scalarCapacity)
      (percent : PercentDecoded (entry.space == .query) raw text)
  | broken {raw text : Bytes} (target : entry.inTarget)
      (value : request.value entry = some raw)
      (fits : raw.length ≤ service.scalarCapacity)
      (percent : PercentBroken (entry.space == .query) raw text)
  | copied {raw : Bytes} (field : ¬entry.inTarget)
      (tells : request.FirstTells entry)
      (value : request.value entry = some raw)

theorem located (service : BindingService Real) (request : BindingRequest)
    (entry : PlanEntry) : Located service request entry := by
  cases found : request.rawValue entry with
  | none =>
    by_cases addressed : entry.space ≠ .body ∧ entry.space ≠ .other
    · exact .still (.ok none) nofun fun scratch =>
        service.locate_absent scratch addressed found
    cases space : entry.space with
    | body => exact .still (.error _) nofun fun _ => by rw [locate, space]
    | other => exact .still (.error _) nofun fun _ => by rw [locate, space]
    | _ =>
      exact absurd ⟨by rw [space]; decide, by rw [space]; decide⟩ addressed
  | some raw =>
    have value := BindingRequest.value_of_rawValue found
    by_cases target : entry.inTarget
    · by_cases long : service.scalarCapacity < raw.length
      · exact .still (.error _) nofun fun scratch => by
          rw [service.locate_target scratch target found, decodeComponent,
            if_pos long]
      have fits := Nat.le_of_not_lt long
      rcases percentDecoded_or_percentBroken (entry.space == .query) raw with
        ⟨text, percent⟩ | ⟨text, percent⟩
      · exact .decoded target value fits percent
      · exact .broken target value fits percent
    · refine .copied target (by_contra fun hidden => ?_) value
      rw [BindingRequest.rawValue_eq, if_neg hidden] at found
      cases found

theorem openInput_still {outcome : Except BindFault (Option TextView)}
    (textless : ∀ view, outcome ≠ .ok (some view))
    (located : ∀ scratch,
      service.locate request entry scratch = (outcome, scratch)) :
    service.openInput request entry scratch =
      (outcome.map fun _ => none, scratch) := by
  rw [openInput, located]
  rcases outcome with fault | _ | view
  · rfl
  · rfl
  · exact absurd rfl (textless view)

/-- Opening an entry puts its octets in front of the buffer. -/
theorem openInput_puts {octets : Bytes}
    (puts : service.Puts request entry octets) (scratch : Bytes) :
    (service.openInput request entry scratch).2 = overlay scratch 0 octets := by
  cases puts with
  | decoded target value fits percent =>
    rw [openInput_located (locate_text scratch target value fits percent),
      scalarReaderInit_scratch, read_overlay, overlay_again, ite_self]
  | broken target value fits percent =>
    obtain ⟨fault, located⟩ := locate_broken target value fits percent
    rw [openInput, located]
  | copied field tells value fits copies =>
    rw [openInput_located (locate_copied scratch field tells value),
      scalarReaderInit_scratch]
    exact if_pos ⟨copies, fits⟩

/-- An entry which puts no octets leaves the buffer alone. -/
theorem openInput_spares (none_ : ∀ octets, ¬service.Puts request entry octets)
    (scratch : Bytes) :
    (service.openInput request entry scratch).2 = scratch := by
  cases service.located request entry with
  | still outcome textless located => rw [openInput_still textless located]
  | decoded target value fits percent =>
    exact absurd (.decoded target value fits percent) (none_ _)
  | broken target value fits percent =>
    exact absurd (.broken target value fits percent) (none_ _)
  | copied field tells value =>
    rw [openInput_located (locate_copied scratch field tells value),
      scalarReaderInit_scratch]
    apply if_neg
    rintro ⟨copies, fits⟩
    exact none_ _ (.copied field tells value fits copies)

theorem getElem?_openInput {index : Nat}
    (spares : ∀ octets, service.Puts request entry octets →
      octets.length ≤ index) (scratch : Bytes) :
    (service.openInput request entry scratch).2[index]? = scratch[index]? := by
  by_cases some_ : ∃ octets, service.Puts request entry octets
  · obtain ⟨octets, puts⟩ := some_
    rw [openInput_puts puts, getElem?_overlay,
      List.getElem?_eq_none (spares octets puts), Option.none_or]
  · rw [openInput_spares (not_exists.mp some_)]

/-! ## Whole plans -/

theorem openAll_cons (entry : PlanEntry) (entries : List PlanEntry)
    (scratch : Bytes) :
    service.openAll request (entry :: entries) scratch =
      ((service.openInput request entry scratch).1 ::
        (service.openAll request entries
          (service.openInput request entry scratch).2).1,
      (service.openAll request entries
        (service.openInput request entry scratch).2).2) := rfl

theorem openAll_append (before after : List PlanEntry) (scratch : Bytes) :
    (service.openAll request (before ++ after) scratch).2 =
      (service.openAll request after
        (service.openAll request before scratch).2).2 := by
  induction before generalizing scratch with
  | nil => rfl
  | cons entry before further => exact further _

/-- A run which puts nothing at an index keeps the octet there. -/
theorem getElem?_openAll_of_spares {index : Nat}
    (spares : service.Spares request entries index) (scratch : Bytes) :
    (service.openAll request entries scratch).2[index]? = scratch[index]? := by
  induction entries generalizing scratch with
  | nil => rfl
  | cons entry entries further =>
    obtain ⟨here, behind⟩ := List.forall_mem_cons.mp spares
    rw [openAll_cons, further behind, getElem?_openInput here]

/-- A run leaves at an index what was last put there. -/
theorem getElem?_openAll_of_lastPuts {index : Nat} {octet : UInt8}
    (last : service.LastPuts request entries index octet) (scratch : Bytes) :
    (service.openAll request entries scratch).2[index]? = some octet := by
  obtain ⟨before, entry, after, octets, rfl, puts, reaches, spares⟩ := last
  rw [openAll_append, openAll_cons, getElem?_openAll_of_spares after spares,
    openInput_puts puts, getElem?_overlay, reaches]
  rfl

theorem not_lastPuts_nil {index : Nat} {octet : UInt8} :
    ¬service.LastPuts request [] index octet := by
  rintro ⟨before, _, _, _, nothing, -⟩
  exact List.append_ne_nil_of_right_ne_nil before (List.cons_ne_nil _ _)
    nothing.symm

theorem lastPuts_or_spares (service : BindingService Real)
    (request : BindingRequest) (entries : List PlanEntry) (index : Nat) :
    (∃ octet, service.LastPuts request entries index octet) ∨
      service.Spares request entries index := by
  induction entries with
  | nil => exact .inr nofun
  | cons entry entries further =>
    rcases further with
      ⟨octet, before, other, after, octets, rfl, behind⟩ | spares
    · exact .inl ⟨octet, entry :: before, other, after, octets, rfl, behind⟩
    by_cases reaches : ∃ octets, service.Puts request entry octets ∧
        index < octets.length
    · obtain ⟨octets, puts, reaches⟩ := reaches
      exact .inl ⟨octets[index], [], entry, entries, octets, rfl, puts,
        List.getElem?_eq_getElem reaches, spares⟩
    · refine .inr (List.forall_mem_cons.mpr ⟨fun octets puts => ?_, spares⟩)
      exact Nat.le_of_not_lt fun reaches' => reaches ⟨octets, puts, reaches'⟩

/-- A text in front of the buffer is there behind a run exactly if the octets
which were last put over it are its own. -/
theorem take_openAll_iff {text : Bytes}
    (front : scratch.take text.length = text) :
    (service.openAll request entries scratch).2.take text.length = text ↔
      ∀ index octet other, text[index]? = some octet →
        service.LastPuts request entries index other → other = octet := by
  constructor
  · intro kept index octet other inside last
    obtain ⟨short, -⟩ := List.getElem?_eq_some_iff.mp inside
    rw [← kept, List.getElem?_take_of_lt short,
      getElem?_openAll_of_lastPuts entries last] at inside
    exact Option.some.inj inside
  intro same
  refine List.ext_getElem? fun index => ?_
  by_cases short : index < text.length
  · rw [List.getElem?_take_of_lt short]
    rcases lastPuts_or_spares service request entries index with
      ⟨other, last⟩ | spares
    · rw [getElem?_openAll_of_lastPuts entries last,
        same index _ other (List.getElem?_eq_getElem short) last,
        List.getElem?_eq_getElem short]
    · rw [getElem?_openAll_of_spares entries spares]
      have inside := List.getElem?_take_of_lt (l := scratch) short
      rw [front] at inside
      exact inside.symm
  · have long := Nat.le_of_not_lt short
    rw [List.getElem?_take, if_neg short, List.getElem?_eq_none long]

/-! ## Views -/

/-- The outcome is a view. -/
inductive Shows : Except BindFault (Option (BindToken Real)) → TextView →
    Prop where
  | string (view : TextView) : Shows (.ok (some (.string view))) view
  | bytes (view : TextView) : Shows (.ok (some (.bytes view))) view

theorem not_shows_converted {Number : Type} {fault : BindFault}
    {make : Number → BindToken Real}
    (number : ∀ value, ¬Shows (.ok (some (make value))) view)
    (conversion : Option (Number × Bytes)) :
    ¬Shows ((converted fault make conversion).map some) view := by
  cases outcome : converted fault make conversion with
  | error fault => nofun
  | ok token =>
    obtain ⟨value, -, rfl⟩ := converted_eq_ok.mp outcome
    exact number value

theorem scalarReaderInit_shows (kind : DataKind) (found : TextView)
    (scratch : Bytes) :
    Shows ((service.scalarReaderInit kind found scratch).1.map some) view ↔
      kind.textual ∧ found = view := by
  have numeric {outcome : Except BindFault (Option (BindToken Real))}
    {kind : DataKind}
      (untextual : ¬kind.textual) (other : ¬Shows outcome view) :
      Shows outcome view ↔ kind.textual ∧ found = view :=
    ⟨fun shows => absurd shows other, fun textual => absurd textual.1 untextual⟩
  unfold scalarReaderInit
  dsimp only
  cases kind with
  | bool =>
    refine numeric (by rintro (kind | kind | kind) <;> cases kind) ?_
    dsimp only
    split_ifs <;> nofun
  | string => exact ⟨fun | .string _ => ⟨.inl rfl, rfl⟩,
      fun ⟨_, same⟩ => same ▸ .string found⟩
  | enum => exact ⟨fun | .string _ => ⟨.inr (.inl rfl), rfl⟩,
      fun ⟨_, same⟩ => same ▸ .string found⟩
  | bytes => exact ⟨fun | .bytes _ => ⟨.inr (.inr rfl), rfl⟩,
      fun ⟨_, same⟩ => same ▸ .bytes found⟩
  | other => exact numeric (by rintro (kind | kind | kind) <;> cases kind) nofun
  | _ =>
    refine numeric (by rintro (kind | kind | kind) <;> cases kind) ?_
    dsimp only
    split_ifs
    · nofun
    · exact not_shows_converted nofun _

theorem shows_iff (request : BindingRequest) (entry : PlanEntry)
    (scratch : Bytes)
    (view : TextView) :
    Shows (service.openInput request entry scratch).1 view ↔
      entry.kind.textual ∧ ∃ scratch',
        service.locate request entry scratch = (.ok (some view), scratch') := by
  rcases located : service.locate request entry scratch with
    ⟨fault | _ | found, behind⟩
  · rw [openInput, located]
    refine ⟨fun shows => (by cases shows), ?_⟩
    rintro ⟨_, _, impossible⟩
    cases impossible
  · rw [openInput, located]
    refine ⟨fun shows => (by cases shows), ?_⟩
    rintro ⟨_, _, impossible⟩
    cases impossible
  rw [openInput_located located]
  refine (scalarReaderInit_shows entry.kind found behind).trans
    (and_congr_right fun _ => ⟨?_, ?_⟩)
  · rintro rfl
    exact ⟨behind, rfl⟩
  · rintro ⟨scratch', same⟩
    cases same
    rfl

/-- Every text which was bound is that of its own field when all entries have
been opened. -/
def Keeps (service : BindingService Real) (request : BindingRequest)
    (entries : List PlanEntry) (scratch : Bytes) : Prop :=
  List.Forall₂
    (fun entry outcome => ∀ view, Shows outcome view →
      request.Reads entry
        (view.read (service.openAll request entries scratch).2))
    entries (service.openAll request entries scratch).1

/-- For every text of the target and every octet of it, the last entry behind it
which puts an octet at the same place puts the same one there. -/
def Undisturbed (service : BindingService Real) (request : BindingRequest) :
    List PlanEntry → Prop
  | [] => True
  | entry :: entries =>
    (entry.inTarget → entry.kind.textual →
      ∀ raw text, request.value entry = some raw →
        raw.length ≤ service.scalarCapacity →
        PercentDecoded (entry.space == .query) raw text →
        ∀ index octet other, text[index]? = some octet →
          service.LastPuts request entries index other → other = octet) ∧
    service.Undisturbed request entries

theorem undisturbed_singleton : service.Undisturbed request [entry] :=
  ⟨fun _ _ _ _ _ _ _ _ _ _ _ last => absurd last not_lastPuts_nil, trivial⟩

/-- The text of an entry of the target is in front of the buffer. -/
theorem take_openInput {raw text : Bytes} (scratch : Bytes)
    (target : entry.inTarget) (value : request.value entry = some raw)
    (fits : raw.length ≤ service.scalarCapacity)
    (percent : PercentDecoded (entry.space == .query) raw text) :
    (service.openInput request entry scratch).2.take text.length = text := by
  rw [openInput_puts (.decoded target value fits percent)]
  exact read_overlay scratch text

theorem reads_of_decoded {raw text : Bytes} (target : entry.inTarget)
    (value : request.value entry = some raw)
    (percent : PercentDecoded (entry.space == .query) raw text) :
    request.Reads entry text := by
  refine ⟨raw, value, ?_⟩
  exact (if_pos (c := entry.space = .path ∨ entry.space = .query)
    target).mpr percent

/-- Views keep their texts exactly if no later entry disturbs them. -/
theorem keeps_iff_undisturbed (service : BindingService Real)
    (request : BindingRequest) (entries : List PlanEntry) (scratch : Bytes) :
    service.Keeps request entries scratch ↔
      service.Undisturbed request entries := by
  induction entries generalizing scratch with
  | nil => exact ⟨fun _ => trivial, fun _ => .nil⟩
  | cons entry entries further =>
    rw [Keeps, openAll_cons, List.forall₂_cons, Undisturbed,
      ← further (service.openInput request entry scratch).2]
    refine and_congr ?_ Iff.rfl
    constructor
    · intro keeps target textual raw text value fits percent
      have reads := keeps _ ((shows_iff ..).mpr
        ⟨textual, _, locate_text scratch target value fits percent⟩)
      rw [← take_openAll_iff entries
        (take_openInput scratch target value fits percent)]
      exact reads.unique (reads_of_decoded target value percent)
    intro undisturbed view shows
    obtain ⟨textual, scratch', located⟩ := (shows_iff ..).mp shows
    cases service.located request entry with
    | still outcome textless still =>
      rw [still] at located
      exact absurd (congrArg Prod.fst located) (textless view)
    | @decoded raw text target value fits percent =>
      rw [locate_text scratch target value fits percent] at located
      cases located
      have kept := (take_openAll_iff entries
        (take_openInput scratch target value fits percent)).mpr
          (undisturbed target textual raw text value fits percent)
      show request.Reads entry (List.take text.length _)
      rw [kept]
      exact reads_of_decoded target value percent
    | broken target value fits percent =>
      obtain ⟨fault, failed⟩ := locate_broken target value fits percent
      rw [failed] at located
      cases located
    | @copied raw field tells value =>
      rw [locate_copied scratch field tells value] at located
      cases located
      refine ⟨raw, value, ?_⟩
      exact (if_neg (c := entry.space = .path ∨ entry.space = .query)
        field).mpr rfl

/-! ## The order of entries -/

/-- What a token is while the buffer has these contents. -/
inductive BoundValue (Real : Type) where
  | boolean (value : Bool)
  | sint (value : Int)
  | uint (value : Nat)
  | floating (value : Real)
  | string (text : Bytes)
  | bytes (text : Bytes)
  deriving DecidableEq, Repr

/-- What a token shows. -/
def content (scratch : Bytes) : BindToken Real → BoundValue Real
  | .boolean value => .boolean value
  | .sint value => .sint value
  | .uint value => .uint value
  | .floating value => .floating value
  | .string view => .string (view.read scratch)
  | .bytes view => .bytes (view.read scratch)

/-- The values of entries when all have been opened. -/
def values (service : BindingService Real) (request : BindingRequest)
    (entries : List PlanEntry) (scratch : Bytes) :
    List (PlanEntry × Except BindFault (Option (BoundValue Real))) :=
  let (outcomes, behind) := service.openAll request entries scratch
  entries.zip (outcomes.map fun outcome =>
    outcome.map fun token => token.map (content behind))

theorem content_congr {outcome : Except BindFault (Option (BindToken Real))}
    (same : ∀ view, Shows outcome view →
      view.read scratch = view.read scratch') :
    (outcome.map fun token => token.map (content scratch)) =
      outcome.map fun token => token.map (content scratch') := by
  match outcome with
  | .error _ => rfl
  | .ok none => rfl
  | .ok (some (.string view)) =>
    exact congrArg (fun text => Except.ok (some (BoundValue.string text)))
      (same view (.string view))
  | .ok (some (.bytes view)) =>
    exact congrArg (fun text => Except.ok (some (BoundValue.bytes text)))
      (same view (.bytes view))
  | .ok (some (.boolean _)) => rfl
  | .ok (some (.sint _)) => rfl
  | .ok (some (.uint _)) => rfl
  | .ok (some (.floating _)) => rfl

theorem scalarReaderInit_fst_congr {kind : DataKind}
    (same : view.read scratch = view.read scratch') :
    (service.scalarReaderInit kind view scratch).1 =
      (service.scalarReaderInit kind view scratch').1 := by
  unfold scalarReaderInit
  dsimp only
  rw [same]
  cases kind with
  | bool | sint | uint | float =>
    dsimp only
    split_ifs <;> rfl
  | _ => rfl

theorem openInput_fst_located {other behind behind' : Bytes}
    (located : service.locate request entry scratch = (.ok (some view), behind))
    (located' : service.locate request entry other = (.ok (some view), behind'))
    (same : view.read behind = view.read behind') :
    (service.openInput request entry scratch).1 =
      (service.openInput request entry other).1 := by
  rw [openInput_located located, openInput_located located',
    scalarReaderInit_fst_congr same]

/-- The outcome of an entry does not depend on the buffer. -/
theorem openInput_fst (request : BindingRequest) (entry : PlanEntry)
    (scratch other : Bytes) :
    (service.openInput request entry scratch).1 =
      (service.openInput request entry other).1 := by
  cases service.located request entry with
  | still outcome textless located =>
    rw [openInput_still textless located, openInput_still textless located]
  | decoded target value fits percent =>
    refine openInput_fst_located
      (locate_text scratch target value fits percent)
      (locate_text other target value fits percent) ?_
    rw [read_overlay, read_overlay]
  | broken target value fits percent =>
    obtain ⟨fault, located⟩ := locate_broken target value fits percent
    rw [openInput, openInput, located, located]
  | copied field tells value =>
    exact openInput_fst_located (locate_copied scratch field tells value)
      (locate_copied other field tells value) rfl

theorem values_cons (entry : PlanEntry) (entries : List PlanEntry)
    (scratch : Bytes) :
    service.values request (entry :: entries) scratch =
      (entry, (service.openInput request entry scratch).1.map fun token =>
        token.map (content (service.openAll request entries
          (service.openInput request entry scratch).2).2)) ::
      service.values request entries
        (service.openInput request entry scratch).2 := rfl

/-- Where every text is kept, each value is that of its entry alone. -/
theorem values_eq_of_keeps {entries : List PlanEntry} {scratch : Bytes}
    (keeps : service.Keeps request entries scratch) :
    service.values request entries scratch = entries.map fun entry =>
      (entry, (service.openInput request entry []).1.map fun token =>
        token.map (content (service.openInput request entry []).2)) := by
  induction entries generalizing scratch with
  | nil => rfl
  | cons entry entries further =>
    rw [Keeps, openAll_cons, List.forall₂_cons] at keeps
    have alone := (keeps_iff_undisturbed service request [entry] []).mpr
      undisturbed_singleton
    rw [Keeps, openAll_cons, List.forall₂_cons] at alone
    rw [values_cons, List.map_cons, ← further keeps.2,
      openInput_fst request entry scratch []]
    refine congrArg (fun value => (entry, value) :: _) ?_
    refine content_congr fun view shows => ?_
    refine (keeps.1 view ?_).unique (alone.1 view shows)
    rwa [openInput_fst request entry scratch []]

/-- Texts keep their octets exactly if no later entry puts others over them, and
where this holds for two orders of the entries, they give the same values. -/
theorem texts_keep_iff (service : BindingService Real)
    (request : BindingRequest) (entries : List PlanEntry) (scratch : Bytes) :
    (service.Keeps request entries scratch ↔
      service.Undisturbed request entries) ∧
    ∀ others scratch', entries.Perm others →
      service.Undisturbed request entries →
      service.Undisturbed request others →
      (service.values request entries scratch).Perm
        (service.values request others scratch') := by
  refine ⟨keeps_iff_undisturbed service request entries scratch, ?_⟩
  intro others scratch' perm here there
  rw [values_eq_of_keeps ((keeps_iff_undisturbed ..).mpr here),
    values_eq_of_keeps ((keeps_iff_undisturbed ..).mpr there)]
  exact perm.map _

/-- A text in the query. -/
def textEntry (name : CString) : PlanEntry := ⟨.query, name, .string⟩

/-- A text in the header. -/
def fieldEntry (name : CString) : PlanEntry := ⟨.header, name, .string⟩

/-- A request with a text in the query and one in the header. -/
def mixedRequest : BindingRequest where
  target := ⟨ascii "/x?a=1", by decide⟩
  params := []
  headers := [(⟨ascii "B", by decide⟩, ⟨ascii "2", by decide⟩)]

/-- The text of a field puts no octets into the buffer. -/
theorem not_puts_fieldEntry {name : CString} {octets : Bytes} :
    ¬service.Puts request (fieldEntry name) octets := by
  rintro (⟨target, -⟩ | ⟨target, -⟩ | ⟨-, -, -, -, copies⟩)
  · rcases target with path | query
    · cases path
    · cases query
  · rcases target with path | query
    · cases path
    · cases query
  · rcases copies with kind | kind | ⟨kind, -⟩ <;> cases kind

/-- A text in the query and one in the header do not depend on their order. -/
theorem texts_keep_either_order :
    (smallService.values mixedRequest
      [textEntry ⟨ascii "a", by decide⟩, fieldEntry ⟨ascii "b", by decide⟩]
      []).Perm
    (smallService.values mixedRequest
      [fieldEntry ⟨ascii "b", by decide⟩, textEntry ⟨ascii "a", by decide⟩]
      [255]) := by
  refine (smallService.texts_keep_iff _ _ _).2 _ _ (.swap _ _ _) ?_ ?_
  · refine ⟨fun _ _ _ _ _ _ _ _ _ _ _ last => ?_, undisturbed_singleton⟩
    obtain ⟨before, entry, after, octets, split, puts, -⟩ := last
    have member : entry ∈ [fieldEntry ⟨ascii "b", by decide⟩] := by
      rw [split]
      exact List.mem_append_right _ List.mem_cons_self
    rw [List.mem_singleton.mp member] at puts
    exact absurd puts not_puts_fieldEntry
  · exact ⟨fun target => absurd target (by decide), undisturbed_singleton⟩

/-- The second text of a query takes the place of the first one. -/
theorem second_text_overwrites :
    smallService.openAll (requestFor ⟨ascii "/x?a=1&b=2", by decide⟩)
      [textEntry ⟨ascii "a", by decide⟩, textEntry ⟨ascii "b", by decide⟩] [] =
    ([.ok (some (.string (.scratch 1))), .ok (some (.string (.scratch 1)))],
      [50, 0]) ∧
    ¬smallService.Keeps (requestFor ⟨ascii "/x?a=1&b=2", by decide⟩)
        [textEntry ⟨ascii "a", by decide⟩, textEntry ⟨ascii "b", by decide⟩]
        [] := by
  have bound : smallService.openAll
      (requestFor ⟨ascii "/x?a=1&b=2", by decide⟩)
      [textEntry ⟨ascii "a", by decide⟩, textEntry ⟨ascii "b", by decide⟩] [] =
      ([.ok (some (.string (.scratch 1))), .ok (some (.string (.scratch 1)))],
        [50, 0]) := by
    decide +kernel
  refine ⟨bound, fun keeps => ?_⟩
  rw [Keeps, bound, List.forall₂_cons] at keeps
  have value : (requestFor ⟨ascii "/x?a=1&b=2", by decide⟩).value
      (textEntry ⟨ascii "a", by decide⟩) = some [49] := by decide +kernel
  have decoded : PercentDecoded true [49] [49] :=
    @percentDecoded_of_decodeLoop _ _ _ 1 (by decide +kernel)
  have shown := (keeps.1 (.scratch 1) (.string _)).unique
    ⟨_, value, decoded⟩
  exact absurd shown (by decide)

end BindingService

end Chttp.App
