import Chttp.App.Service.Binding

/-!
# Numbers which are bound

The number of a scalar entry is that of the whole text of its value, unless the
conversion of the C library takes a text which is more than a number.
-/

namespace Chttp.App

open Lib Server

/-! ## The values of a request -/

namespace BindingRequest

variable (request : BindingRequest)

/-- The names and values of a space, in the order in which they stand in the
request.  The names of header fields have no case. -/
def pairs : BindingSpace → List (Bytes × Bytes)
  | .path => request.params.map fun param => (param.1.bytes, param.2.bytes)
  | .query => queryPairs ((request.target.bytes.dropWhile (· ≠ 63)).drop 1)
  | .header => request.headers.map fun field =>
      (field.1.bytes.map asciiLower, field.2.bytes)
  | .cookie => cookieInformation request.headers
  | .body => []
  | .other => []

/-- The first value of an entry's name, as it stands in the request. -/
def value (entry : PlanEntry) : Option Bytes :=
  firstValue (request.pairs entry.space)
    (if entry.space = .header then entry.name.bytes.map asciiLower
      else entry.name.bytes)

/-- A cookie which the request has is in its first cookie field. -/
def FirstTells (entry : PlanEntry) : Prop :=
  entry.space = .cookie →
    FirstHas (fun field : CString × CString => cookiePairs field.2.bytes)
      (cookieFields request.headers) entry.name.bytes

instance (entry : PlanEntry) : Decidable (request.FirstTells entry) :=
  inferInstanceAs (Decidable (_ → _))

end BindingRequest

/-- What a value stands for: values in the target are decoded. -/
def BindingSpace.Decodes (space : BindingSpace) (raw text : Bytes) : Prop :=
  if space = .path ∨ space = .query then
    PercentDecoded (space == .query) raw text
  else text = raw

/-- The text of an entry. -/
def BindingRequest.Reads (request : BindingRequest) (entry : PlanEntry)
    (text : Bytes) : Prop :=
  ∃ raw, request.value entry = some raw ∧ entry.space.Decodes raw text

variable {plusIsSpace : Bool} {source text : Bytes} {room : Nat}

/-- An entry has one text. -/
theorem BindingRequest.Reads.unique {request : BindingRequest}
    {entry : PlanEntry} {other : Bytes} (one : request.Reads entry text)
    (two : request.Reads entry other) : text = other := by
  obtain ⟨raw, value, decoded⟩ := one
  obtain ⟨raw', value', decoded'⟩ := two
  obtain rfl := Option.some.inj (value.symm.trans value')
  rw [BindingSpace.Decodes] at decoded decoded'
  split_ifs at decoded decoded'
  · exact decoded.unique decoded'
  · rw [decoded, decoded']

/-! ## The searches find the first value -/

/-- The loop over a query finds the first value of a name. -/
theorem queryLoop_eq (name cursor : Bytes) :
    queryLoop name cursor = firstValue (queryPairs cursor) name := by
  have round {cursor : Bytes} (goes : ¬cursor.head?.all (· == 35) = true) :=
    @queryPairs_step cursor (fun empty => goes (empty ▸ rfl))
      (fun sign => goes (by rw [sign]; rfl))
  fun_induction queryLoop name cursor with
  | case1 cursor stops =>
    cases cursor with
    | nil => rfl
    | cons octet cursor =>
      obtain rfl : octet = 35 := beq_iff_eq.mp stops
      rw [queryPairs_numberSign]
      rfl
  | case2 cursor pair key goes same =>
    rw [round goes, firstValue_cons]
    refine Eq.trans ?_ (if_pos same).symm
    exact congrArg some (drop_dropWhile 61 pair).symm
  | case3 cursor pair key goes other last =>
    have nothing : cursor.drop (pair.length + 1) = [] := by
      rw [← List.tail_drop, last]
      rfl
    rw [round goes, firstValue_cons]
    refine Eq.trans ?_ (if_neg other).symm
    exact congrArg (fun rest => firstValue (queryPairs rest) name) nothing.symm
  | case4 cursor pair key goes other octet others rest further =>
    have behind : cursor.drop (pair.length + 1) = others := by
      rw [← List.tail_drop, rest]
      rfl
    rw [round goes, firstValue_cons, further]
    refine Eq.trans ?_ (if_neg other).symm
    exact congrArg (fun rest => firstValue (queryPairs rest) name) behind.symm

/-- A round of the loop over a cookie meets its first pair. -/
theorem cookiePairs_round (cursor name : Bytes) :
    let start := cursor.dropWhile cookieSkipped
    let segment := start.takeWhile (· ≠ 59)
    let key := segment.takeWhile (· ≠ equalsSign)
    firstValue (cookiePairs cursor) name =
      if key.length < segment.length ∧ key.rdropWhile blank = name then
        some (trim (segment.drop (key.length + 1)))
      else
        firstValue (cookiePairs (start.drop (segment.length + 1))) name := by
  intro start segment key
  have front : key <+: start :=
    (List.takeWhile_prefix _).trans (List.takeWhile_prefix _)
  have trimmed : key.rdropWhile blank = trim key := by
    rw [List.prefix_iff_eq_take.mp front]
    exact rdropWhile_take cursor key.length
  have long : key.length < segment.length ↔ 61 ∈ segment :=
    length_takeWhile_lt_iff 61 segment
  have behind : (segment.dropWhile (· ≠ 61)).drop 1 =
      segment.drop (key.length + 1) := drop_dropWhile 61 segment
  have name' : segment.takeWhile (· ≠ 61) = key := rfl
  rw [← cookiePairs_dropWhile, cookiePairs_step, firstValue_append,
    firstValue_toList]
  change (((cookiePair segment).filter fun pair => pair.1 = name).map
    (·.2)).or (firstValue (cookiePairs (start.drop (segment.length + 1)))
      name) = _
  rw [cookiePair, behind, name', trimmed]
  generalize firstValue (cookiePairs (start.drop (segment.length + 1))) name =
    further
  by_cases equals : 61 ∈ segment
  · by_cases same : trim key = name
    · simp [long, equals, same]
    · simp [long, equals, same, Option.filter_some]
  · simp [long, equals]

/-- The loop over a cookie finds the first value of a name. -/
theorem cookieLoop_eq (name cursor : Bytes) :
    cookieLoop name cursor = firstValue (cookiePairs cursor) name := by
  fun_induction cookieLoop name cursor with
  | case1 cursor start segment key found =>
    exact ((cookiePairs_round cursor name).trans (if_pos found)).symm
  | case2 cursor start segment key other last =>
    have nothing : start.drop (segment.length + 1) = [] := by
      rw [← List.tail_drop, last]
      rfl
    refine Eq.trans ?_
      ((cookiePairs_round cursor name).trans (if_neg other)).symm
    exact congrArg (fun rest => firstValue (cookiePairs rest) name)
      nothing.symm
  | case3 cursor start segment key other octet others rest further =>
    have behind : start.drop (segment.length + 1) = others := by
      rw [← List.tail_drop, rest]
      rfl
    rw [further]
    refine Eq.trans ?_
      ((cookiePairs_round cursor name).trans (if_neg other)).symm
    exact congrArg (fun rest => firstValue (cookiePairs rest) name) behind.symm

/-- The value which the search of an entry's space finds. -/
def BindingRequest.rawValue (request : BindingRequest) (entry : PlanEntry) :
    Option Bytes :=
  match entry.space with
  | .path => request.param entry.name
  | .query => request.queryValue entry.name.bytes
  | .header => request.header entry.name.bytes
  | .cookie => request.cookieValue entry.name.bytes
  | .body => none
  | .other => none

theorem firstValue_map {Field : Type*} (fields : List Field)
    (make : Field → Bytes × Bytes) (name : Bytes) :
    firstValue (fields.map make) name =
      (fields.find? fun field => (make field).1 = name).map
        fun field => (make field).2 := by
  rw [firstValue, List.find?_map, Option.map_map]
  rfl

/-- The searches find the first value, if a cookie is in the first cookie
field. -/
theorem BindingRequest.rawValue_eq (request : BindingRequest)
    (entry : PlanEntry) :
    request.rawValue entry =
      if request.FirstTells entry then request.value entry else none := by
  have elsewhere (other : entry.space ≠ .cookie) :
      request.FirstTells entry := fun cookie => absurd cookie other
  obtain ⟨space, name, kind⟩ := entry
  rw [rawValue, value]
  cases space with
  | path =>
    rw [if_pos (elsewhere nofun), if_neg nofun]
    show request.param name = firstValue (request.params.map _) _
    rw [firstValue_map, param]
    refine congrArg (fun test => (request.params.find? test).map _) ?_
    funext given
    rw [beq_eq_decide, decide_eq_decide]
    exact ⟨congrArg CString.bytes, CString.ext⟩
  | query =>
    rw [if_pos (elsewhere nofun), if_neg nofun]
    show request.queryValue name.bytes = firstValue (queryPairs _) _
    rw [queryValue]
    cases request.target.bytes.dropWhile (· ≠ 63) with
    | nil => rfl
    | cons mark query => exact queryLoop_eq name.bytes query
  | header =>
    rw [if_pos (elsewhere nofun), if_pos rfl]
    show request.header name.bytes = firstValue (request.headers.map _) _
    rw [firstValue_map, header, findHeader, Option.map_map]
    refine congrArg (fun test => (request.headers.find? test).map _) ?_
    funext field
    exact beq_eq_decide _ _
  | cookie =>
    rw [@if_neg (BindingSpace.cookie = .header) _ nofun]
    show request.cookieValue name.bytes = _
    rw [cookieValue, header, findHeader_cookie, Option.map_map,
      Option.bind_map]
    simp only [Function.comp_def, cookieLoop_eq, FirstTells, forall_const]
    exact firstValue_head?_eq
  | body | other => exact (ite_self none).symm

theorem BindingRequest.value_of_rawValue {request : BindingRequest}
    {entry : PlanEntry} {raw : Bytes}
    (found : request.rawValue entry = some raw) :
    request.value entry = some raw := by
  rw [rawValue_eq] at found
  split_ifs at found
  exact found

/-- A cookie in another field than the first is a value which is not found. -/
theorem BindingRequest.value_of_not_firstTells {request : BindingRequest}
    {entry : PlanEntry} (hidden : ¬request.FirstTells entry) :
    request.value entry ≠ none := by
  unfold FirstTells FirstHas at hidden
  push Not at hidden
  obtain ⟨cookie, ⟨field, among, pair, member, same⟩, -⟩ := hidden
  intro absent
  rw [value, cookie, @if_neg (BindingSpace.cookie = .header) _ nofun,
    firstValue_eq_none_iff] at absent
  exact absent pair (List.mem_flatMap.mpr ⟨field, among, member⟩) same

/-! ## Decoding -/

theorem percentDecoded_of_decodeLoop
    (decoded : decodeLoop plusIsSpace room source = (text, none)) :
    PercentDecoded plusIsSpace source text := by
  fun_induction decodeLoop plusIsSpace room source generalizing text with
  | case1 =>
    cases decoded
    exact .nil
  | case3 room first second source high low secondValue firstValue _ rest fault
      loop further =>
    cases decoded
    exact .escape firstValue secondValue (further loop)
  | case7 room value source other _ rest fault loop further =>
    cases decoded
    exact .plain other (further loop)
  | _ => cases decoded

/-- The loop writes what the octets stand for. -/
theorem decodeLoop_of_percentDecoded
    (decoded : PercentDecoded plusIsSpace source text)
    (fits : source.length ≤ room) :
    decodeLoop plusIsSpace room source = (text, none) := by
  induction decoded generalizing room with
  | nil => rw [decodeLoop]
  | plain other _ further =>
    rw [List.length_cons] at fits
    unfold decodeLoop
    rw [if_neg other, if_neg (by omega), further (by omega)]
  | escape firstValue secondValue _ further =>
    simp only [List.length_cons] at fits
    unfold decodeLoop
    rw [if_pos rfl]
    dsimp only
    rw [firstValue, secondValue]
    dsimp only
    rw [if_neg (by omega), further (by omega)]

/-- The loop stops at a percent sign which begins no escape. -/
theorem decodeLoop_of_percentBroken
    (broken : PercentBroken plusIsSpace source text)
    (fits : source.length ≤ room) :
    ∃ fault, decodeLoop plusIsSpace room source = (text, some fault) := by
  induction broken generalizing room with
  | @truncated source short =>
    match source, short with
    | [], _ => exact ⟨_, rfl⟩
    | [_], _ => exact ⟨_, rfl⟩
  | malformed noDigit =>
    unfold decodeLoop
    rw [if_pos rfl]
    dsimp only
    split
    · rename_i firstValue secondValue
      rcases noDigit with noDigit | noDigit
      · rw [firstValue] at noDigit
        cases noDigit
      · rw [secondValue] at noDigit
        cases noDigit
    · exact ⟨_, rfl⟩
  | plain other _ further =>
    rw [List.length_cons] at fits
    obtain ⟨fault, loop⟩ := @further (room - 1) (by omega)
    refine ⟨fault, ?_⟩
    unfold decodeLoop
    rw [if_neg other, if_neg (by omega), loop]
  | escape firstValue secondValue _ further =>
    simp only [List.length_cons] at fits
    obtain ⟨fault, loop⟩ := @further (room - 1) (by omega)
    refine ⟨fault, ?_⟩
    unfold decodeLoop
    rw [if_pos rfl]
    dsimp only
    rw [firstValue, secondValue]
    dsimp only
    rw [if_neg (by omega), loop]

/-! ## Finding the text -/

namespace BindingService

variable {Real : Type} (service : BindingService Real)
  {request : BindingRequest}
  {entry : PlanEntry} {scratch : Bytes}

theorem read_overlay (scratch text : Bytes) :
    (TextView.scratch text.length).read (overlay scratch 0 (text ++ [0])) =
      text := by
  rw [TextView.read, overlay, List.take_zero, List.nil_append,
    List.append_assoc, List.take_left]

/-- What `chttp_service_decode_component` does to a value within the bound. -/
theorem decodeComponent_cases {capacity : Nat} (scratch : Bytes)
    (fits : source.length ≤ capacity) :
    (∃ text, PercentDecoded plusIsSpace source text ∧
      decodeComponent capacity scratch source plusIsSpace =
        (.ok (some (.scratch text.length)),
          overlay scratch 0 (text ++ [0]))) ∨
    (∀ text, ¬PercentDecoded plusIsSpace source text) ∧
      ∃ fault text, PercentBroken plusIsSpace source text ∧
        decodeComponent capacity scratch source plusIsSpace =
          (.error fault, overlay scratch 0 text) := by
  rw [decodeComponent, if_neg (Nat.not_lt_of_le fits)]
  rcases percentDecoded_or_percentBroken plusIsSpace source with
    ⟨text, decoded⟩ | ⟨text, broken⟩
  · rw [decodeLoop_of_percentDecoded decoded fits]
    exact .inl ⟨text, decoded, rfl⟩
  obtain ⟨fault, loop⟩ := decodeLoop_of_percentBroken broken fits
  rw [loop]
  refine .inr ⟨fun other decoded => ?_, fault, text, broken, rfl⟩
  rw [decodeLoop_of_percentDecoded decoded fits] at loop
  cases loop

theorem locate_target (scratch : Bytes)
    (target : entry.space = .path ∨ entry.space = .query)
    {raw : Bytes} (value : request.rawValue entry = some raw) :
    service.locate request entry scratch =
      decodeComponent service.scalarCapacity scratch raw
        (entry.space == .query) := by
  rw [BindingRequest.rawValue] at value
  rw [locate]
  rcases target with path | query
  · rw [path] at value ⊢
    dsimp only at value ⊢
    rw [value]
    rfl
  · rw [query] at value ⊢
    dsimp only at value ⊢
    rw [value]
    rfl

theorem locate_field (scratch : Bytes)
    (field : entry.space = .header ∨ entry.space = .cookie) :
    service.locate request entry scratch =
      (.ok ((request.rawValue entry).map .request), scratch) := by
  rw [BindingRequest.rawValue, locate]
  rcases field with header | cookie
  · rw [header]
  · rw [cookie]

theorem locate_absent (scratch : Bytes)
    (addressed : entry.space ≠ .body ∧ entry.space ≠ .other)
    (absent : request.rawValue entry = none) :
    service.locate request entry scratch = (.ok none, scratch) := by
  rw [BindingRequest.rawValue] at absent
  rw [locate]
  cases space : entry.space with
  | body => exact absurd space addressed.1
  | other => exact absurd space addressed.2
  | _ =>
    rw [space] at absent
    simp only at absent
    simp only [absent, Option.map_none]

theorem field_of_rawValue {raw : Bytes}
    (value : request.rawValue entry = some raw)
    (target : ¬(entry.space = .path ∨ entry.space = .query)) :
    entry.space = .header ∨ entry.space = .cookie := by
  cases space : entry.space with
  | header => exact .inl rfl
  | cookie => exact .inr rfl
  | path => exact absurd (.inl space) target
  | query => exact absurd (.inr space) target
  | _ =>
    rw [BindingRequest.rawValue, space] at value
    cases value

theorem locate_cases (scratch : Bytes) {raw : Bytes}
    (value : request.rawValue entry = some raw)
    (fits : raw.length ≤ service.scalarCapacity) :
    (∃ text view scratch', request.Reads entry text ∧
      service.locate request entry scratch = (.ok (some view), scratch') ∧
      view.read scratch' = text ∧ text.length ≤ service.scalarCapacity) ∨
    (∀ text, ¬request.Reads entry text) ∧
      ∃ fault scratch', service.locate request entry scratch =
        (.error fault, scratch') := by
  by_cases target : entry.space = .path ∨ entry.space = .query
  · rw [service.locate_target scratch target value]
    rcases decodeComponent_cases scratch fits with
      ⟨text, percent, located⟩ | ⟨broken, fault, front, -, located⟩
    · refine .inl ⟨text, _, _,
        ⟨raw, BindingRequest.value_of_rawValue value, ?_⟩,
        located, read_overlay scratch text,
        Nat.le_trans percent.length_le fits⟩
      rw [BindingSpace.Decodes, if_pos target]
      exact percent
    refine .inr ⟨?_, fault, _, located⟩
    rintro text ⟨other, same, decoded⟩
    rw [BindingSpace.Decodes, if_pos target] at decoded
    rw [BindingRequest.value_of_rawValue value] at same
    cases same
    exact broken text decoded
  · have field := field_of_rawValue value target
    rw [service.locate_field scratch field, value]
    refine .inl ⟨raw, _, _, ⟨raw, BindingRequest.value_of_rawValue value, ?_⟩,
      rfl, rfl, fits⟩
    rw [BindingSpace.Decodes, if_neg target]

/-! ## Numbers -/

/-- The text in front of its first terminator, without white space in front. -/
def subject (text : Bytes) : Bytes :=
  (text.takeWhile (· != 0)).dropWhile isSpace

/-- What the conversions of the C library make of a text: they skip white space
and stop at a terminator, and a negative number becomes an unsigned one. -/
inductive Converts : DataKind → Bytes → BindToken Real → Prop where
  | sint {text : Bytes} {numeral : Numeral}
      (spells : Spells (subject text) numeral)
      (low : -2 ^ 63 ≤ numeral.value) (high : numeral.value < 2 ^ 63) :
      Converts .sint text (.sint numeral.value)
  | uint {text : Bytes} {numeral : Numeral} (guarded : text.head? ≠ some 45)
      (spells : Spells (subject text) numeral)
      (small : numeral.magnitude < 2 ^ 64) :
      Converts .uint text (.uint (numeral.value % 2 ^ 64).toNat)

/-- The whole text is a number of the kind. -/
inductive Denotes : DataKind → Bytes → BindToken Real → Prop where
  | sint {text : Bytes} {numeral : Numeral} (spells : Spells text numeral)
      (low : -2 ^ 63 ≤ numeral.value) (high : numeral.value < 2 ^ 63) :
      Denotes .sint text (.sint numeral.value)
  | uint {text : Bytes} {number : Nat} (spells : Spells text ⟨false, number⟩)
      (small : number < 2 ^ 64) : Denotes .uint text (.uint number)

variable {token : BindToken Real} {kind : DataKind}

theorem converts_sint_iff {Fault : Type} {fault : Fault} :
    converted fault .sint (strtoll (text.takeWhile (· != 0))) = .ok token ↔
      Converts .sint text token := by
  rw [converted_eq_ok]
  simp only [strtoll_eq_some_iff]
  constructor
  · rintro ⟨_, ⟨numeral, spells, low, high, rfl⟩, rfl⟩
    exact .sint spells low high
  · rintro ⟨spells, low, high⟩
    exact ⟨_, ⟨_, spells, low, high, rfl⟩, rfl⟩

theorem converts_uint_iff {Fault : Type} {fault : Fault}
    (guarded : text.head? ≠ some 45) :
    converted fault .uint (strtoull (text.takeWhile (· != 0))) = .ok token ↔
      Converts .uint text token := by
  rw [converted_eq_ok]
  simp only [strtoull_eq_some_iff]
  constructor
  · rintro ⟨_, ⟨numeral, spells, small, rfl⟩, rfl⟩
    exact .uint guarded spells small
  · rintro (_ | ⟨-, spells, small⟩)
    exact ⟨_, ⟨_, spells, small, rfl⟩, rfl⟩

/-- The empty text is no number. -/
theorem Converts.filled (converts : Converts kind text token) : text ≠ [] := by
  rintro rfl
  have unspelled {numeral : Numeral} : ¬Spells (subject []) numeral := by
    rintro ⟨digits, filled, -, -,
      ⟨-, impossible⟩ | ⟨-, impossible | impossible⟩⟩
    · cases impossible
    · exact filled impossible.symm
    · cases impossible
  cases converts with
  | sint spells => exact unspelled spells
  | uint _ spells => exact unspelled spells

/-- A number is read as the conversion of its text. -/
theorem scalarReaderInit_eq_ok {view : TextView}
    (numeric : kind = .sint ∨ kind = .uint)
    (shown : view.read scratch = text)
    (fits : text.length ≤ service.scalarCapacity) :
    (service.scalarReaderInit kind view scratch).1 = .ok token ↔
      Converts kind text token := by
  have short := Nat.not_lt_of_le fits
  unfold scalarReaderInit
  dsimp only
  rw [shown]
  rcases numeric with rfl | rfl
  · dsimp only
    rw [if_neg short]
    exact converts_sint_iff
  dsimp only
  by_cases refused : text = [] ∨ text.head? = some 45 ∨
      service.scalarCapacity < text.length
  · rw [if_pos refused]
    refine ⟨nofun, fun converts => ?_⟩
    rcases refused with empty | minus | long
    · exact absurd empty converts.filled
    · rcases converts with _ | ⟨guarded, -⟩
      exact absurd minus guarded
    · exact absurd long short
  rw [if_neg refused]
  exact converts_uint_iff fun minus => refused (.inr (.inl minus))

/-- A text which denotes a number has no space in front and no zero. -/
theorem Denotes.plain (denotes : Denotes kind text token) :
    text.dropWhile isSpace = text ∧ 0 ∉ text := by
  cases denotes with
  | sint spells | uint spells => exact spells.plain

theorem takeWhile_ne_zero (whole : 0 ∉ text) :
    text.takeWhile (· != 0) = text := by
  rw [List.takeWhile_eq_self_iff]
  intro octet member
  exact bne_iff_ne.mpr fun zero => whole (zero ▸ member)

/-- The conversions are exact on texts without white space in front and without
terminators. -/
theorem converts_iff_denotes (plain : text.dropWhile isSpace = text)
    (whole : 0 ∉ text) :
    Converts kind text token ↔ Denotes kind text token := by
  have same : subject text = text := by
    rw [subject, takeWhile_ne_zero whole, plain]
  constructor
  · rintro (⟨spells, low, high⟩ | ⟨guarded, spells, small⟩)
    · rw [same] at spells
      exact .sint spells low high
    rw [same] at spells
    rename_i numeral
    obtain ⟨negative, magnitude⟩ := numeral
    obtain ⟨digits, -, -, -, sign⟩ := id spells
    rcases sign with ⟨-, rfl⟩ | ⟨positive, -⟩
    · exact absurd rfl guarded
    obtain rfl : negative = false := positive
    have value : ((⟨false, magnitude⟩ : Numeral).value % 2 ^ 64).toNat =
        magnitude := by
      have bound : magnitude < 2 ^ 64 := small
      show ((magnitude : Int) % 2 ^ 64).toNat = magnitude
      omega
    rw [value]
    exact .uint spells small
  rintro (⟨spells, low, high⟩ | ⟨spells, small⟩)
  · exact .sint (same.symm ▸ spells) low high
  rename_i number
  have value : ((⟨false, number⟩ : Numeral).value % 2 ^ 64).toNat = number := by
    show ((number : Int) % 2 ^ 64).toNat = number
    omega
  rw [← congrArg BindToken.uint value]
  refine .uint ?_ (same.symm ▸ spells) small
  obtain ⟨digits, filled, decimal, -, sign⟩ := spells
  rcases sign with ⟨impossible, -⟩ | ⟨-, rfl | rfl⟩
  · cases impossible
  · intro minus
    have digit := decimal 45 (List.mem_of_head? minus)
    exact absurd digit (by decide)
  · exact fun minus => absurd (Option.some.inj minus) (by decide)

/-- A numeric entry within the bound is bound to what the conversion takes of
the value which the search finds. -/
theorem openInput_eq_ok (scratch : Bytes)
    (addressed : entry.space ≠ .body ∧ entry.space ≠ .other)
    (numeric : entry.kind = .sint ∨ entry.kind = .uint)
    (fits : ∀ raw, request.rawValue entry = some raw →
      raw.length ≤ service.scalarCapacity) :
    ((service.openInput request entry scratch).1 = .ok none ↔
      request.rawValue entry = none) ∧
    ∀ token, (service.openInput request entry scratch).1 = .ok (some token) ↔
      request.rawValue entry ≠ none ∧
        ∃ text, request.Reads entry text ∧ Converts entry.kind text token := by
  rw [openInput]
  cases value : request.rawValue entry with
  | none =>
    rw [service.locate_absent scratch addressed value]
    exact ⟨⟨fun _ => rfl, fun _ => rfl⟩, fun token => ⟨nofun, nofun⟩⟩
  | some raw =>
    simp only [ne_eq, reduceCtorEq, not_false_eq_true, true_and, iff_false]
    rcases service.locate_cases scratch value (fits raw value) with
      ⟨text, view, scratch', reads, located, shown, short⟩ |
      ⟨unread, fault, scratch', located⟩
    · rw [located]
      dsimp only
      have reader (token : BindToken Real) :=
        @scalarReaderInit_eq_ok text _ service scratch' token _ view numeric
          shown short
      rcases outcome : service.scalarReaderInit entry.kind view scratch' with
        ⟨read, behind⟩
      rw [outcome] at reader
      cases read with
      | error fault =>
        refine ⟨nofun, fun token => ⟨nofun, ?_⟩⟩
        rintro ⟨other, reads', converts⟩
        obtain rfl := reads.unique reads'
        exact nomatch (reader token).mpr converts
      | ok found =>
        refine ⟨nofun, fun token => ⟨fun same => ?_, ?_⟩⟩
        · cases same
          exact ⟨text, reads, (reader found).mp rfl⟩
        rintro ⟨other, reads', converts⟩
        obtain rfl := reads.unique reads'
        have same := (reader token).mpr converts
        cases same
        rfl
    · rw [located]
      refine ⟨nofun, fun token => ⟨nofun, ?_⟩⟩
      rintro ⟨text, reads, -⟩
      exact absurd reads (unread text)

/-- An entry is absent exactly if the request has no value of its name, and is
bound to a number exactly if that is what the whole text of the first value
spells. -/
def BindsExactly (request : BindingRequest) (entry : PlanEntry)
    (scratch : Bytes) : Prop :=
  ((service.openInput request entry scratch).1 = .ok none ↔
    request.value entry = none) ∧
  ∀ token, (service.openInput request entry scratch).1 = .ok (some token) ↔
    ∃ text, request.Reads entry text ∧ Denotes entry.kind text token

/-- Integers are bound exactly where a cookie is in the first cookie field and
no text with white space in front or with a terminator inside is converted. -/
theorem integer_binds_exactly_iff {request : BindingRequest}
    {entry : PlanEntry} (scratch : Bytes)
    (addressed : entry.space ≠ .body ∧ entry.space ≠ .other)
    (numeric : entry.kind = .sint ∨ entry.kind = .uint)
    (fits : ∀ raw, request.value entry = some raw →
      raw.length ≤ service.scalarCapacity) :
    service.BindsExactly request entry scratch ↔
      request.FirstTells entry ∧
      ∀ (text : Bytes) (token : BindToken Real), request.Reads entry text →
        Converts entry.kind text token →
          text.dropWhile isSpace = text ∧ 0 ∉ text := by
  have within (raw : Bytes) (found : request.rawValue entry = some raw) :=
    fits raw (BindingRequest.value_of_rawValue found)
  obtain ⟨absent, taken⟩ :=
    service.openInput_eq_ok scratch addressed numeric within
  by_cases tells : request.FirstTells entry
  · -- the search finds the first value
    have found : request.rawValue entry = request.value entry := by
      rw [BindingRequest.rawValue_eq, if_pos tells]
    have taken' (token : BindToken Real) :
        (service.openInput request entry scratch).1 = .ok (some token) ↔
          ∃ text, request.Reads entry text ∧
            Converts entry.kind text token := by
      rw [taken token, and_iff_right_iff_imp]
      rintro ⟨text, ⟨raw, value, -⟩, -⟩
      rw [found, value]
      nofun
    rw [found] at absent
    constructor
    · rintro ⟨-, exactly⟩
      refine ⟨tells, fun text token reads converts => ?_⟩
      obtain ⟨other, reads', denotes⟩ :=
        (exactly token).mp ((taken' token).mpr ⟨text, reads, converts⟩)
      obtain rfl := reads.unique reads'
      exact denotes.plain
    rintro ⟨-, plain⟩
    refine ⟨absent, fun token => ?_⟩
    rw [taken' token]
    constructor
    · rintro ⟨text, reads, converts⟩
      obtain ⟨unblanked, whole⟩ := plain text token reads converts
      exact ⟨text, reads, (converts_iff_denotes unblanked whole).mp converts⟩
    · rintro ⟨text, reads, denotes⟩
      obtain ⟨unblanked, whole⟩ := denotes.plain
      exact ⟨text, reads, (converts_iff_denotes unblanked whole).mpr denotes⟩
  · -- the value is there and reported as absent
    refine iff_of_false ?_ fun both => tells both.1
    rintro ⟨exactly, -⟩
    refine BindingRequest.value_of_not_firstTells tells (exactly.mp ?_)
    rw [absent, BindingRequest.rawValue_eq, if_neg tells]

/-- A request for a target. -/
def requestFor (target : CString) : BindingRequest := ⟨target, [], []⟩

/-- The number in the query. -/
def numberEntry : PlanEntry := ⟨.query, ⟨ascii "n", by decide⟩, .uint⟩

/-- A service which takes eight octets. -/
def smallService : BindingService Unit := ⟨8, fun _ => none⟩

/-- A number behind another pair of the query and with an escape. -/
theorem integer_binds_exactly_forty_two :
    smallService.BindsExactly
      (requestFor ⟨ascii "/x?m=1&n=%342&n=7", by decide⟩) numberEntry [] := by
  have value : (requestFor ⟨ascii "/x?m=1&n=%342&n=7", by decide⟩).value
      numberEntry = some (ascii "%342") := by decide +kernel
  refine (smallService.integer_binds_exactly_iff [] (by decide) (.inr rfl)
    ?_).mpr ⟨nofun, ?_⟩
  · intro raw present
    rw [value] at present
    cases present
    decide
  rintro text token ⟨raw, present, decoded⟩ -
  rw [value] at present
  cases present
  have decoding : PercentDecoded true (ascii "%342") (ascii "42") :=
    @percentDecoded_of_decodeLoop _ _ _ 4 (by decide +kernel)
  rw [BindingSpace.Decodes, if_pos (.inr rfl)] at decoded
  rw [decoded.unique decoding]
  decide

/-- A minus sign behind a blank gets past the guard. -/
theorem negative_behind_blank :
    (smallService.openInput (requestFor ⟨ascii "/x?n=+-5", by decide⟩)
        numberEntry []).1 = .ok (some (.uint 18446744073709551611)) ∧
      ¬smallService.BindsExactly (requestFor ⟨ascii "/x?n=+-5", by decide⟩)
        numberEntry [] := by
  have bound : (smallService.openInput
      (requestFor ⟨ascii "/x?n=+-5", by decide⟩) numberEntry []).1 =
      .ok (some (.uint 18446744073709551611)) := by decide +kernel
  refine ⟨bound, fun ⟨_, exactly⟩ => ?_⟩
  obtain ⟨text, ⟨raw, present, decoded⟩, denotes⟩ := (exactly _).mp bound
  have value : (requestFor ⟨ascii "/x?n=+-5", by decide⟩).value numberEntry =
      some (ascii "+-5") := by decide +kernel
  have decoding : PercentDecoded true (ascii "+-5") (ascii " -5") :=
    @percentDecoded_of_decodeLoop _ _ _ 3 (by decide +kernel)
  rw [value] at present
  cases present
  rw [BindingSpace.Decodes, if_pos (.inr rfl)] at decoded
  have plain := denotes.plain.1
  rw [decoded.unique decoding] at plain
  exact absurd plain (by decide)

end BindingService

end Chttp.App
