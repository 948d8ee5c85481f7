import Chttp.App.Multipart.Encoding
import Chttp.App.Multipart.Feeding

/-!
# Form data is read back

The encoding of a form is read back to the form, in whatever pieces it comes.
The octets of the encoding are followed one by one: the opening delimiter, the
lines of the headers, the body up to its delimiter, and what follows the
delimiter.
-/

namespace Chttp.App

open Lib Server

namespace MultipartParser

variable {delimiter : Delimiter UInt8}

/-! ## The opening delimiter -/

variable (limits : MultipartLimits) (boundary : Bytes)

/-- The parser in front of the headers of a part. -/
def ready (partCount totalBytes : Nat) : MultipartParser :=
  { fresh limits boundary with
    state := .headers, partCount := partCount, totalBytes := totalBytes }

/-- The parser within the opening delimiter. -/
def within (index : Nat) : MultipartParser :=
  { fresh limits boundary with initialIndex := index, totalBytes := index }

theorem length_opening : (opening boundary).length = boundary.length + 4 := by
  simp [opening, crlf]

theorem drop_opening {index : Nat} (inside : index < boundary.length + 4) :
    (opening boundary).drop index =
      (within limits boundary index).initialChar index ::
        (opening boundary).drop (index + 1) := by
  have present : index < (opening boundary).length := by
    rwa [length_opening]
  have expected := initialChar_eq (within limits boundary index) inside
  rw [List.drop_eq_getElem_cons present, ← Option.some.inj
    ((List.getElem?_eq_getElem present).symm.trans expected)]

theorem octets_opening {index : Nat} (inside : index < boundary.length + 4) :
    Octets delimiter (within limits boundary index)
    ((opening boundary).drop index) []
      (ready limits boundary 0 (opening boundary).length) := by
  have octet : ∀ index, Octet delimiter (within limits boundary index)
      ((within limits boundary index).initialChar index) []
      ((within limits boundary index).opened.count 1) :=
    fun _ => .opening rfl rfl
  induction missing : boundary.length + 3 - index generalizing index with
  | zero =>
    have last : (within limits boundary index).initialIndex + 1 =
        (within limits boundary index).boundary.length + 4 := by
      change index + 1 = boundary.length + 4
      omega
    have next : (within limits boundary index).opened.count 1 =
        ready limits boundary 0 (opening boundary).length := by
      rw [opened, if_pos last, length_opening,
        show boundary.length + 4 = index + 1 from last.symm]
      rfl
    rw [drop_opening limits boundary inside, ← next,
      List.drop_eq_nil_of_le (by rw [length_opening]; omega)]
    exact .singleton (octet index)
  | succ missing ih =>
    have more : ¬ (within limits boundary index).initialIndex + 1 =
        (within limits boundary index).boundary.length + 4 := by
      change ¬ index + 1 = boundary.length + 4
      omega
    have next : (within limits boundary index).opened.count 1 =
        within limits boundary (index + 1) := by
      rw [opened, if_neg more]
      rfl
    have first := octet index
    rw [next] at first
    rw [drop_opening limits boundary inside]
    exact .cons first (ih (by omega) (by omega))

/-! ## The headers -/

variable (parser : MultipartParser)

/-- Octets of the headers have been kept. -/
def stored (text : Bytes) : MultipartParser :=
  { parser.count text.length with headerBytes := parser.headerBytes ++ text }

@[simp]
theorem stored_headerBytes (text : Bytes) :
    (parser.stored text).headerBytes = parser.headerBytes ++ text := rfl

@[simp]
theorem stored_limits (text : Bytes) :
    (parser.stored text).limits = parser.limits := rfl

theorem stored_nil : parser.stored [] = parser := by
  rw [stored, List.append_nil]
  rfl

theorem stored_stored (first second : Bytes) :
    (parser.stored first).stored second = parser.stored (first ++ second) := by
  simp only [stored, count, List.append_assoc, List.length_append,
    Nat.add_assoc]

theorem lf_of_suffix {before : Bytes} {value : UInt8}
    (complete : crlf ++ crlf <:+ before ++ [value]) :
    value = lf ∧ crlf ++ [cr] <:+ before := by
  rcases List.suffix_concat_iff.mp complete with empty | ⟨front, same, behind⟩
  · cases empty
  · have split : crlf ++ [cr] ++ [lf] = front ++ [value] := same
    obtain ⟨rfl, last⟩ := List.append_inj' split rfl
    exact ⟨(List.cons.inj last).1.symm, behind⟩

theorem getLast?_of_suffix {before text : Bytes} {value : UInt8}
    (suffix : text ++ [value] <:+ before) : before.getLast? = some value := by
  obtain ⟨front, rfl⟩ := suffix
  rw [← List.append_assoc, List.getLast?_concat]

variable {parser : MultipartParser} {boundary : Bytes}

theorem octet_stored {value : UInt8} (state : parser.state = .headers)
    (nonzero : value ≠ 0)
    (noLf : value ≠ lf) (last : parser.headerBytes.getLast? ≠ some cr)
    (room : parser.headerBytes.length < parser.limits.maxHeaderBytes) :
    Octet delimiter parser value [] (parser.stored [value]) :=
  .header state ⟨nonzero, room, iff_of_false last noLf⟩ fun complete =>
    noLf (lf_of_suffix complete).1

theorem octets_headerText (state : parser.state = .headers) {text : Bytes}
    (clean : ∀ octet ∈ text, octet ≠ 0 ∧ octet ≠ cr ∧ octet ≠ lf)
    (last : parser.headerBytes.getLast? ≠ some cr)
    (room : parser.headerBytes.length + text.length ≤
      parser.limits.maxHeaderBytes) :
    Octets delimiter parser text [] (parser.stored text) := by
  induction text generalizing parser with
  | nil =>
    rw [stored_nil]
    exact .nil parser
  | cons value text ih =>
    obtain ⟨zero, noCr, noLf⟩ := clean value List.mem_cons_self
    rw [List.length_cons] at room
    have octet := @octet_stored delimiter parser value state zero noLf last
      (by omega)
    have behind := @ih (parser.stored [value]) state
      (fun octet member => clean octet (List.mem_cons_of_mem _ member))
      (by simpa using noCr) (by simp; omega)
    rw [stored_stored] at behind
    exact .cons octet behind

theorem octets_lineEnd (state : parser.state = .headers)
    (noCr : parser.headerBytes.getLast? ≠ some cr)
    (noLf : parser.headerBytes.getLast? ≠ some lf)
    (room : parser.headerBytes.length + 2 ≤ parser.limits.maxHeaderBytes) :
    Octets delimiter parser crlf [] (parser.stored crlf) := by
  have returned := @octet_stored delimiter parser cr state (by decide)
    (by decide) noCr (by omega)
  have fed : Octet delimiter (parser.stored [cr]) lf []
      (parser.stored crlf) := by
    have next : (parser.stored [cr]).stored [lf] = parser.stored crlf :=
      stored_stored _ _ _
    rw [← next]
    refine .header state ⟨by decide, ?_, ?_⟩ ?_
    · simp
      omega
    · simp
    intro complete
    have behind := (lf_of_suffix complete).2
    rcases List.suffix_concat_iff.mp behind with empty | ⟨front, same, inner⟩
    · cases empty
    · obtain ⟨rfl, -⟩ := List.append_inj' same rfl
      exact noLf (getLast?_of_suffix (show [cr] ++ [lf] <:+ _ from inner))
  exact .cons returned (.singleton fed)

theorem octets_blockEnd (state : parser.state = .headers)
    (ended : crlf <:+ parser.headerBytes)
    (room : parser.headerBytes.length + 2 ≤ parser.limits.maxHeaderBytes)
    {part : MultipartPart}
    (read : readHeaders parser.limits 0 none none (parser.headerBytes ++ crlf) =
      .ok part)
    (more : parser.partCount < parser.limits.maxParts) :
    Octets delimiter parser crlf [.begins part]
    ((parser.stored crlf).begun part) := by
  have last : parser.headerBytes.getLast? ≠ some cr := by
    rw [getLast?_of_suffix (show [cr] ++ [lf] <:+ _ from ended)]
    decide
  have returned := @octet_stored delimiter parser cr state (by decide)
    (by decide) last (by omega)
  have bytes : ((parser.stored [cr]).store lf).headerBytes =
      parser.headerBytes ++ crlf :=
    List.append_assoc _ _ _
  have fed : Octet delimiter (parser.stored [cr]) lf [.begins part]
      ((((parser.stored [cr]).store lf).begun part).count 1) := by
    refine .begins state ⟨by decide, ?_, ?_⟩ ?_ ?_ more
    · simp
      omega
    · simp
    · rw [bytes]
      obtain ⟨front, whole⟩ := ended
      exact ⟨front, by rw [← whole, List.append_assoc]⟩
    · rw [bytes]
      exact read
  have next : (((parser.stored [cr]).store lf).begun part).count 1 =
      (parser.stored crlf).begun part := by
    have joined := stored_stored parser [cr] [lf]
    rw [show [cr] ++ [lf] = crlf from rfl] at joined
    rw [← joined]
    rfl
  rw [next] at fed
  exact .cons returned (.singleton fed)

/-- A line which the parser keeps. -/
structure CleanLine (line : Bytes) : Prop where
  filled : line ≠ []
  clean : ∀ octet ∈ line, octet ≠ 0 ∧ octet ≠ cr ∧ octet ≠ lf

/-- The lines of the headers are kept. -/
theorem octets_lines (state : parser.state = .headers)
    (begun : parser.headerBytes = [] ∨ crlf <:+ parser.headerBytes)
    {lines : List Bytes}
    (clean : ∀ line ∈ lines, CleanLine line)
    (room : parser.headerBytes.length +
        (lines.flatMap (· ++ crlf)).length ≤ parser.limits.maxHeaderBytes) :
    Octets delimiter parser (lines.flatMap (· ++ crlf)) []
      (parser.stored (lines.flatMap (· ++ crlf))) := by
  induction lines generalizing parser with
  | nil =>
    rw [List.flatMap_nil, stored_nil]
    exact .nil parser
  | cons line lines ih =>
    have kept := clean line List.mem_cons_self
    rw [List.flatMap_cons, List.length_append, List.length_append] at room
    have two : crlf.length = 2 := rfl
    have last : parser.headerBytes.getLast? ≠ some cr := by
      rcases begun with empty | ended
      · rw [empty]
        decide
      · rw [getLast?_of_suffix (show [cr] ++ [lf] <:+ _ from ended)]
        decide
    have text := @octets_headerText delimiter parser state line kept.clean last
      (by omega)
    obtain ⟨before, final, rfl⟩ :=
      List.eq_nil_or_concat' line |>.resolve_left kept.filled
    obtain ⟨-, noCr, noLf⟩ := kept.clean final (by simp)
    have ended := @octets_lineEnd delimiter
      (parser.stored (before ++ [final])) state
      (by simpa using noCr) (by simpa using noLf)
      (by
        rw [stored_headerBytes, stored_limits, List.length_append]
        omega)
    rw [stored_stored] at ended
    have rest := @ih (parser.stored (before ++ [final] ++ crlf)) state
      (.inr ⟨parser.headerBytes ++ (before ++ [final]),
        List.append_assoc _ _ _⟩)
      (fun line member => clean line (List.mem_cons_of_mem _ member))
      (by
        rw [stored_headerBytes, stored_limits, List.length_append,
          List.length_append]
        omega)
    rw [stored_stored] at rest
    rw [List.flatMap_cons]
    exact (text.append ended).append rest

/-! ## The body -/

theorem hold_pending (parser : MultipartParser) (pending : Bytes) (held : Nat) :
    ({ parser with pending := pending }.count 1).hold held =
      (parser.hold held).count 1 := by
  unfold hold
  change (if held = (marker parser.boundary).length then _ else _) = _
  split_ifs <;> rfl

theorem hold_hold {held : Nat}
    (incomplete : held ≠ (marker parser.boundary).length)
    (octets held' : Nat) :
    (((parser.hold held).count 1).took octets).hold held' =
      ((parser.took octets).hold held').count 1 := by
  have next : parser.hold held = _ := if_neg incomplete
  rw [next, took_count]
  unfold took
  split_ifs
  · exact hold_pending parser _ _
  · exact hold_pending
      { parser with fieldBytes := parser.fieldBytes + octets } _ _

/-- Octets are read as the search for the delimiter says. -/
theorem octets_of_reads {held final : Nat} {symbols out : Bytes}
    (reads : delimiter.Reads held symbols out final)
    (synced : Synced delimiter parser)
    (state : parser.state = .body) (held_eq : parser.pending.length = held)
    (room : parser.Room out.length) (filled : symbols ≠ []) :
    Octets delimiter parser symbols (out.map .octet)
      (((parser.took out.length).hold final).count symbols.length) := by
  induction reads generalizing parser with
  | nil => exact absurd rfl filled
  | @cons held final symbol symbols out _ reads ih =>
    subst held_eq
    generalize stepped : delimiter.step parser.pending.length symbol = step at *
    obtain ⟨first, held'⟩ := step
    dsimp only at *
    rw [List.length_append, room_add] at room
    have octet : Octet delimiter parser symbol (first.map .octet)
        (((parser.took first.length).hold held').count 1) := by
      have octet := (@octet_text_iff delimiter parser
        (((parser.took first.length).hold held').count 1)
        (first.map .octet) symbol state).mpr
      rw [stepped] at octet
      exact octet ⟨room.1, rfl, rfl⟩
    cases reads with
    | nil =>
      rw [List.append_nil]
      exact .singleton octet
    | cons open_ behind =>
      have incomplete : held' ≠
          (marker (parser.took first.length).boundary).length := by
        rw [took_boundary, ← synced.marks]
        exact Nat.ne_of_lt open_
      have next : (parser.took first.length).hold held' = _ := if_neg incomplete
      have rest := @ih (((parser.took first.length).hold held').count 1)
        (octet.synced synced)
        (by
          rw [next]
          exact (took_state _ _).trans state)
        (by
          rw [next]
          change (List.take held' _).length = held'
          rw [took_boundary, ← synced.marks, List.length_take]
          exact Nat.min_eq_left open_.le)
        (by
          rw [next]
          exact room.2)
        (List.cons_ne_nil _ _)
      rw [hold_hold incomplete, took_took, count_count] at rest
      have joined := Octets.cons octet rest
      rw [← List.map_append] at joined
      rw [List.length_append, List.length_cons, List.length_cons,
        Nat.add_comm _ 1]
      exact joined

/-! ## One part -/

theorem octets_nextPart {parser : MultipartParser}
    (state : parser.state = .suffix) (begun : parser.suffixState = 0) :
    Octets delimiter parser crlf [.ends]
    ({ parser.clearPart with state := .headers }.count 2) := by
  have returned : Octet delimiter parser cr []
      ({ parser with suffixState := 1 }.count 1) :=
    .suffix state (by rw [begun]; exact .next)
  have fed : Octet delimiter ({ parser with suffixState := 1 }.count 1) lf
      [.ends] ({ parser.clearPart with state := .headers }.count 2) :=
    .ends state rfl
  exact .cons returned (.singleton fed)

theorem octets_lastPart (state : parser.state = .suffix)
    (begun : parser.suffixState = 0) :
    Octets delimiter parser ([dash, dash] ++ crlf) [.ends]
      ({ parser with suffixState := 0, state := .done }.count 4) := by
  have first : Octet delimiter parser dash []
      ({ parser with suffixState := 2 }.count 1) :=
    .suffix state (by rw [begun]; exact .close)
  have second : Octet delimiter ({ parser with suffixState := 2 }.count 1) dash
      [] ({ parser with suffixState := 3 }.count 2) :=
    .suffix state .closing
  have returned : Octet delimiter ({ parser with suffixState := 3 }.count 2) cr
      [] ({ parser with suffixState := 4 }.count 3) :=
    .suffix state .closed
  have fed : Octet delimiter ({ parser with suffixState := 4 }.count 3) lf
      [.ends] ({ parser with suffixState := 0, state := .done }.count 4) :=
    .done state rfl
  exact .cons first (.cons second (.cons returned (.singleton fed)))

theorem cleanLine_headerLine {name value : Bytes} (named : HeaderName name)
    (text : HeaderText value) : CleanLine (headerLine name value) := by
  refine ⟨?_, ?_⟩
  · simp [headerLine]
  intro octet member
  refine ⟨?_, ?_, ?_⟩
  all_goals
    rintro rfl
    exact not_mem_headerLine (named.not_mem (by decide))
      (text.not_mem (by decide)) (by decide) (by decide) member

theorem cleanLine_lines {part : MultipartPart}
    (expressible : part.Expressible) :
    ∀ line ∈ part.lines, CleanLine line := by
  intro line member
  rcases List.mem_cons.mp member with rfl | member
  · exact cleanLine_headerLine headerName_disposition
      (headerText_disposition expressible)
  · obtain ⟨contentType, present, rfl⟩ :=
      Option.map_eq_some_iff.mp (Option.mem_toList.mp member)
    exact cleanLine_headerLine headerName_contentType
      (expressible.contentType contentType present)

/-- A parser right behind the delimiter of a part. -/
structure Behind (limits : MultipartLimits) (boundary : Bytes)
    (partCount : Nat) (parser : MultipartParser) : Prop where
  state : parser.state = .suffix
  begun : parser.suffixState = 0
  cleared : ∃ totalBytes, ∀ octets,
    { parser.clearPart with state := .headers }.count octets =
      ready limits boundary partCount (totalBytes + octets)

theorem behind_hold {limits : MultipartLimits} {partCount totalBytes : Nat}
    (cleared : { parser.clearPart with state := .headers } =
      ready limits boundary partCount totalBytes) (octets total : Nat) :
    Behind limits boundary partCount
      (((parser.took octets).hold (marker boundary).length).count total) := by
  have boundary_eq : parser.boundary = boundary :=
    congrArg MultipartParser.boundary cleared
  have complete : (marker boundary).length =
      (marker (parser.took octets).boundary).length := by
    rw [took_boundary, boundary_eq]
  have held : (parser.took octets).hold (marker boundary).length = _ :=
    if_pos complete
  rw [held]
  refine ⟨rfl, rfl, parser.totalBytes + total, fun more => ?_⟩
  have same : { (({ parser.took octets with
        pending := [], suffixState := 0, state := .suffix }).count
          total).clearPart with state := .headers }.count more =
      { parser.clearPart with state := .headers }.count (total + more) := by
    rw [← count_count]
    unfold took
    split_ifs <;> rfl
  have total_eq : parser.totalBytes = totalBytes :=
    congrArg MultipartParser.totalBytes cleared
  rw [same, cleared, total_eq, Nat.add_assoc]
  rfl

variable {limits : MultipartLimits} {boundary : Bytes}

/-- The headers, the body and the delimiter of a part. -/
theorem octets_part (marks : delimiter.symbols = marker boundary)
    {part : FormPart} (expressible : part.part.Expressible)
    (within : part.Within limits) (clean : ¬ marker boundary <:+: part.body)
    {partCount : Nat} (more : partCount < limits.maxParts) (totalBytes : Nat) :
    ∃ final, Octets delimiter (ready limits boundary partCount totalBytes)
        (part.part.headerBlock ++ part.body ++ marker boundary)
        (.begins part.part :: part.body.map .octet) final ∧
      Behind limits boundary (partCount + 1) final := by
  let start := ready limits boundary partCount totalBytes
  let text := part.part.lines.flatMap (· ++ crlf)
  have long : text.length + 2 ≤ limits.maxHeaderBytes := by
    have := within.headers.headers
    rw [MultipartPart.headerBlock, List.length_append] at this
    exact this
  have lines := @octets_lines delimiter start rfl (.inl rfl) part.part.lines
    (cleanLine_lines expressible)
    (by
      change 0 + text.length ≤ limits.maxHeaderBytes
      omega)
  have kept : (start.stored text).headerBytes = text := List.nil_append _
  have ended : crlf <:+ text := by
    obtain ⟨front, last, whole⟩ : ∃ front last,
        part.part.lines = front ++ [last] := by
      rcases List.eq_nil_or_concat' part.part.lines with empty | found
      · cases empty
      · exact found
    refine ⟨front.flatMap (· ++ crlf) ++ last, ?_⟩
    change _ = part.part.lines.flatMap (· ++ crlf)
    rw [whole, List.flatMap_append, List.flatMap_singleton, List.append_assoc]
  have block := @octets_blockEnd delimiter (start.stored text) rfl
    (by rw [kept]; exact ended) (by rw [kept]; exact long) part.part
    (by
      rw [kept]
      exact readHeaders_headerBlock expressible within.headers) more
  let opened := ((start.stored text).stored crlf).begun part.part
  have synced : Synced delimiter opened :=
    ⟨marks, List.nil_prefix, Nat.succ_pos _⟩
  have room : opened.Room part.body.length := by
    intro field
    have unnamed : part.part.filename = none := by
      simpa [opened, begun] using field
    exact within.field unnamed
  have reads := @Delimiter.reads_text _ _ delimiter part.body
    (by rw [marks]; exact clean)
  have filled : part.body ++ delimiter.symbols ≠ [] := by
    rw [marks, marker]
    simp
  have body := octets_of_reads reads synced rfl rfl room filled
  rw [marks] at body
  have cleared : { opened.clearPart with state := .headers } =
      ready limits boundary (partCount + 1) opened.totalBytes :=
    rfl
  refine ⟨_, ?_, behind_hold cleared part.body.length
    (part.body ++ marker boundary).length⟩
  have joined := (lines.append block).append body
  rw [← List.append_assoc] at joined
  exact joined

/-- The encoding of a form behind the opening delimiter. -/
def encodeParts (boundary : Bytes) (part : FormPart) : List FormPart → Bytes
  | [] => part.part.headerBlock ++ part.body ++ marker boundary ++
      ([dash, dash] ++ crlf)
  | next :: parts => part.part.headerBlock ++ part.body ++ marker boundary ++
      crlf ++ encodeParts boundary next parts

theorem encodeForm_cons (boundary : Bytes) (part : FormPart)
    (parts : List FormPart) :
    encodeForm boundary (part :: parts) =
      opening boundary ++ encodeParts boundary part parts := by
  induction parts generalizing part with
  | nil =>
    simp only [encodeForm, encodeParts, opening, marker, crlf,
      List.flatMap_cons, List.flatMap_nil, List.append_assoc,
      List.cons_append, List.nil_append]
  | cons next parts ih =>
    have unfolded : encodeForm boundary (part :: next :: parts) =
        opening boundary ++ part.part.headerBlock ++ part.body ++ crlf ++
          encodeForm boundary (next :: parts) := by
      rw [encodeForm, List.flatMap_cons, List.append_assoc]
      rfl
    rw [unfolded, ih]
    simp only [encodeParts, opening, marker, crlf, List.append_assoc,
      List.cons_append, List.nil_append]

theorem octets_parts (marks : delimiter.symbols = marker boundary)
    {part : FormPart}
    {parts : List FormPart}
    (each : ∀ other ∈ part :: parts, other.part.Expressible ∧
      other.Within limits ∧ ¬ marker boundary <:+: other.body) {partCount : Nat}
    (more : partCount + (part :: parts).length ≤ limits.maxParts)
    (totalBytes : Nat) :
    ∃ final, Octets delimiter (ready limits boundary partCount totalBytes)
        (encodeParts boundary part parts)
        ((part :: parts).flatMap FormPart.items) final ∧
      final.state = .done := by
  induction parts generalizing part partCount totalBytes with
  | nil =>
    obtain ⟨expressible, within, clean⟩ := each part List.mem_cons_self
    obtain ⟨behind, octets, suffix⟩ :=
      octets_part marks expressible within clean more totalBytes
    rw [List.flatMap_singleton]
    exact ⟨_, octets.append (octets_lastPart suffix.state suffix.begun), rfl⟩
  | cons next parts ih =>
    obtain ⟨⟨expressible, within, clean⟩, each⟩ := List.forall_mem_cons.mp each
    rw [List.length_cons] at more
    have room : partCount < limits.maxParts := by omega
    obtain ⟨behind, octets, suffix⟩ :=
      octets_part marks expressible within clean room totalBytes
    obtain ⟨total, cleared⟩ := suffix.cleared
    have ended := @octets_nextPart delimiter behind suffix.state suffix.begun
    rw [cleared 2] at ended
    obtain ⟨final, rest, done⟩ :=
      @ih next each (partCount + 1) (by omega) (total + 2)
    have joined := (octets.append ended).append rest
    exact ⟨final, joined, done⟩

/-! ## The form -/

theorem readBoundary_accepted {found : Option Bytes} {data : Bytes}
    (read : readBoundary found data = some boundary) :
    found = some boundary ∨ acceptedBoundary boundary = true := by
  fun_induction readBoundary found data with
  | case1 => exact .inl read
  | case2 | case3 | case5 | case6 | case8 => cases read
  | case4 found data _ name rest named _ _ value behind valued accepted ih =>
    rcases ih read with same | accepted
    · cases same
      exact .inr accepted
    · exact .inr accepted
  | case7 found data _ name rest named _ value behind valued ih => exact ih read

theorem init_spec {contentType : CString}
    (opened : init contentType limits = .ok parser) :
    ∃ boundary, parser = fresh limits boundary ∧
      acceptedBoundary boundary = true := by
  unfold init at opened
  split at opened
  · cases opened
  rename_i boundary found
  cases opened
  refine ⟨boundary, rfl, ?_⟩
  split_ifs at found
  unfold parseOuterBoundary at found
  split_ifs at found
  rcases readBoundary_accepted found with impossible | accepted
  · cases impossible
  · exact accepted

theorem init_of_boundary {contentType : CString} (valid : limits.valid = true)
    (found : parseOuterBoundary contentType.bytes = some boundary) :
    init contentType limits = .ok (fresh limits boundary) := by
  unfold init
  rw [if_pos valid, found]

theorem cr_not_mem_of_accepted (accepted : acceptedBoundary boundary = true) :
    cr ∉ boundary := by
  intro member
  have all := (Bool.and_eq_true_iff.mp accepted).2
  have allowed := List.all_eq_true.mp all cr member
  revert allowed
  decide

theorem octets_encodeForm (marks : delimiter.symbols = marker boundary)
    {parts : List FormPart}
    (filled : parts ≠ []) (expressible : ∀ part ∈ parts, part.part.Expressible)
    (clean : ∀ part ∈ parts, ¬ marker boundary <:+: part.body)
    (form : FormWithin limits boundary parts) :
    ∃ final, Octets delimiter (fresh limits boundary)
        (encodeForm boundary parts) (parts.flatMap FormPart.items) final ∧
      final.state = .done := by
  obtain ⟨part, rest, rfl⟩ := List.exists_cons_of_ne_nil filled
  have begun := @octets_opening delimiter limits boundary 0 (Nat.succ_pos _)
  obtain ⟨final, octets, done⟩ := @octets_parts delimiter limits boundary marks
    part rest
      (fun other member => ⟨expressible other member, form.each other member,
      clean other member⟩) 0 (by simpa using form.count)
        (opening boundary).length
  rw [encodeForm_cons]
  exact ⟨final, begun.append octets, done⟩

end MultipartParser

open MultipartParser in
/-- Form data which can be encoded is read back, however the encoding is cut
into calls: each call returns `CHTTP_WEB_OK`, the parser ends in its last state,
and what it gives the application is the form. -/
theorem multipart_feed_inverts_encoding {User : Type*}
    {callbacks : PartCallbacks User}
    (agrees : callbacks.Agrees) {contentType : CString}
    {limits : MultipartLimits}
    {parser : MultipartParser} (opened : init contentType limits = .ok parser)
    {parts : List FormPart} (filled : parts ≠ [])
    (expressible : ∀ part ∈ parts, part.part.Expressible)
    (clean : ∀ part ∈ parts, ¬ marker parser.boundary <:+: part.body)
    (form : FormWithin limits parser.boundary parts) {pieces : List Bytes}
    (cut : pieces.flatten = encodeForm parser.boundary parts) (user : User) :
    ∃ events final user', (parser.feedAll callbacks user pieces).2 =
      (final, user') ∧
      (∀ error ∈ (parser.feedAll callbacks user pieces).1, error.status = .ok) ∧
      final.state = .done ∧ final.finish.1.status = .ok ∧
      callbacks.Delivers user events user' ∧
      events.flatMap PartEvent.items = parts.flatMap FormPart.items := by
  obtain ⟨boundary, rfl, accepted⟩ := init_spec opened
  have noCr := cr_not_mem_of_accepted accepted
  have marks := symbols_markerOf noCr
  obtain ⟨final, octets, done⟩ :=
    octets_encodeForm marks filled expressible clean form
  have synced : Synced (markerOf boundary noCr) (fresh limits boundary) :=
    ⟨marks, List.nil_prefix, Nat.succ_pos _⟩
  have room : 0 + pieces.flatten.length ≤ limits.maxTotalBytes := by
    rw [Nat.zero_add, cut]
    exact form.total
  change pieces.flatten = encodeForm boundary parts at cut
  rw [← cut] at octets
  obtain ⟨events, user', fed, accepts, delivers, same⟩ :=
    feedAll_complete agrees synced rfl rfl room octets user
  obtain ⟨-, -, active, sound, -⟩ := octets.fixed
  refine ⟨events, final, user', fed, accepts, done, ?_, delivers, same⟩
  have usable : ¬ ((!final.active) = true ∨ final.failed = true) := by
    rw [active, sound]
    change ¬ ((!true) = true ∨ false = true)
    decide
  rw [finish, if_neg usable, if_neg (not_not_intro done)]
  rfl

/-- An application which writes down what it is given. -/
def recorder : PartCallbacks (List PartEvent) where
  partBegin part log := (.ok, log ++ [.begins part])
  partData data log := (.ok, log ++ [.chunk data])
  partEnd log := (.ok, log ++ [.ends])

theorem recorder_agrees : recorder.Agrees := by
  intro log event
  cases event with
  | begins | chunk | ends => rfl

/-- A boundary of one octet. -/
def plainType : CString where
  bytes := ascii "multipart/form-data; boundary=b"
  unterminated := by decide

/-- The parser for it. -/
def plainParser : MultipartParser := .fresh .default (ascii "b")

theorem init_plainType :
    MultipartParser.init plainType .default = .ok plainParser := by
  have valid : MultipartLimits.default.valid = true := by decide
  have boundary : parseOuterBoundary plainType.bytes = some (ascii "b") := by
    decide +kernel
  exact MultipartParser.init_of_boundary valid boundary

/-- A field whose octets end with a part of the delimiter, and a file with a
name in which a quote is escaped. -/
def fieldAndFile : List FormPart :=
  [⟨⟨ascii "a", none, none⟩, ascii "x\r\r\n--"⟩,
    ⟨⟨ascii "f", some (ascii "q\"\\.txt"), some (ascii "text/plain")⟩,
      ascii "\r\n--\n"⟩]

/-- The encoding of the field and the file, octet by octet. -/
theorem multipart_feed_inverts_encoding_octets : ∃ events final log,
    (plainParser.feedAll recorder []
      ((encodeForm (ascii "b") fieldAndFile).map ([·]))).2 = (final, log) ∧
    (∀ error ∈ (plainParser.feedAll recorder []
        ((encodeForm (ascii "b") fieldAndFile).map ([·]))).1,
      error.status = .ok) ∧
    final.state = .done ∧ final.finish.1.status = .ok ∧
    recorder.Delivers [] events log ∧
    events.flatMap PartEvent.items = fieldAndFile.flatMap FormPart.items :=
  multipart_feed_inverts_encoding recorder_agrees init_plainType
    (List.cons_ne_nil _ _) (by decide +kernel) (by decide +kernel)
    (by decide +kernel) (by decide +kernel) []

/-- Forms with an encoding which is refused or read differently: no part, no
name, a control character in a name, a file name or a content type, an empty
content type, and a content type with a space in front or behind. -/
def brittleForms : List (List FormPart) :=
  [[], [⟨⟨[], none, none⟩, []⟩], [⟨⟨ascii "\t", none, none⟩, []⟩],
    [⟨⟨ascii "a", some (ascii "\t"), none⟩, []⟩],
    [⟨⟨ascii "a", none, some (ascii "\x01")⟩, []⟩],
    [⟨⟨ascii "a", none, some []⟩, []⟩],
    [⟨⟨ascii "a", none, some (ascii " a")⟩, []⟩],
    [⟨⟨ascii "a", none, some (ascii "a ")⟩, []⟩]]

/-- The limits allow these eight forms, and none of them is read back. -/
theorem multipart_feed_alters_encoding : brittleForms.length = 8 ∧
    ∀ parts ∈ brittleForms, FormWithin .default (ascii "b") parts ∧
      (∀ part ∈ parts, ¬ marker (ascii "b") <:+: part.body) ∧
      ¬ (((plainParser.feedAll recorder []
            [encodeForm (ascii "b") parts]).1.all (·.status = .ok)) = true ∧
          (plainParser.feedAll recorder []
            [encodeForm (ascii "b") parts]).2.2.flatMap PartEvent.items =
              parts.flatMap FormPart.items) := by
  decide +kernel

end Chttp.App
