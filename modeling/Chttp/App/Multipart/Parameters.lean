import Chttp.App.Multipart.Parser

/-!
# Quoted parameters

What a quoted string of a header line says, and when the reader of parameters
takes it.  The reader looks for the closing quote in the last octet it has seen,
so it also takes some strings which are not closed.
-/

namespace Chttp.App

open Lib

/-- The text behind an opening quote, up to the quote which closes it, and the
octets behind that quote; there are none if it is missing. -/
def quotedText : Bytes → Option (Bytes × Option Bytes)
  | [] => some ([], none)
  | octet :: rest =>
    if octet = quote then some ([], some rest)
    else if octet = backslash then
      match rest with
      | [] => none
      | escaped :: rest => (quotedText rest).map fun (text, rest) =>
        (escaped :: text, rest)
    else (quotedText rest).map fun (text, rest) => (octet :: text, rest)

/-- The string ends with the line, behind an octet which is a quote. -/
def RunsOut (body text : Bytes) : Prop :=
  quotedText body = some (text, none) ∧ (quote :: body).getLast? = some quote

/-- No octet of a text is a control character. -/
def Printable (text : Bytes) : Prop := ∀ octet ∈ text, controlByte octet = false

instance (text : Bytes) : Decidable (Printable text) :=
  inferInstanceAs (Decidable (∀ octet ∈ text, controlByte octet = false))

/-- The text can be stored. -/
def FitsOutput (capacity : Option Nat) (text : Bytes) : Prop :=
  Printable text ∧ ∀ limit ∈ capacity, text.length ≤ limit

/-- A parameter ends at another one or at the end. -/
def ParameterEnd (rest : Bytes) : Prop :=
  ∀ octet ∈ rest.head?, octet = semicolon

/-! ## The loop -/

variable {capacity : Option Nat} {last octet : UInt8}
  {used data value rest : Bytes}

theorem fitsOutput_nil (capacity : Option Nat) : FitsOutput capacity [] := by
  simp [FitsOutput, Printable]

theorem fitsOutput_concat : FitsOutput capacity (used ++ [octet]) ↔
    FitsOutput capacity used ∧ controlByte octet = false ∧
      full capacity used = false := by
  cases capacity with
  | none => simp [FitsOutput, Printable, full, or_imp, forall_and]
  | some limit =>
    simp only [FitsOutput, Printable, full, List.forall_mem_append,
      List.forall_mem_singleton,
      Option.mem_some, forall_eq', List.length_append, List.length_singleton,
      Option.any_some,
      decide_eq_false_iff_not, Nat.not_le]
    constructor
    · rintro ⟨⟨printable, plain⟩, fits⟩
      exact ⟨⟨printable, by omega⟩, plain, fits⟩
    · rintro ⟨⟨printable, -⟩, plain, fits⟩
      exact ⟨⟨printable, plain⟩, fits⟩

theorem quotedText_plain (unquoted : octet ≠ quote)
    (unescaped : octet ≠ backslash)
    (rest : Bytes) : quotedText (octet :: rest) =
      (quotedText rest).map fun (text, rest) => (octet :: text, rest) := by
  rw [quotedText.eq_def]
  simp only [unquoted, unescaped, if_false]

theorem quotedText_quote (rest : Bytes) :
    quotedText (quote :: rest) = some ([], some rest) := by
  rw [quotedText.eq_def]
  exact if_pos rfl

/-- What the loop takes, with some octets stored and behind the octet `last`. -/
def QuotedRead (capacity : Option Nat) (last : UInt8)
    (used data value rest : Bytes) : Prop :=
  ∃ text behind, quotedText data = some (text, behind) ∧
    value = used ++ text ∧ FitsOutput capacity (used ++ text) ∧
      (behind = some rest ∨ behind = none ∧ rest = [] ∧
        (last :: data).getLast? = some quote)

theorem QuotedRead.fitsOutput
    (read : QuotedRead capacity last used data value rest) :
    FitsOutput capacity used := by
  obtain ⟨text, behind, -, -, ⟨printable, fits⟩, -⟩ := read
  refine ⟨fun octet member => printable octet (List.mem_append_left _ member),
    ?_⟩
  intro limit isLimit
  exact (List.sublist_append_left used text).length_le.trans
    (fits limit isLimit)

theorem quotedRead_store {tail : Bytes}
    (texts : quotedText data =
      (quotedText tail).map fun (text, rest) => (octet :: text, rest))
    (ends : (last :: data).getLast? = (octet :: tail).getLast?) :
    QuotedRead capacity last used data value rest ↔
      QuotedRead capacity octet (used ++ [octet]) tail value rest := by
  unfold QuotedRead
  rw [texts, ends]
  cases quotedText tail with
  | none => simp
  | some found =>
    obtain ⟨text, behind⟩ := found
    simp

theorem quotedRead_escape {tail : Bytes} :
    QuotedRead capacity last used (backslash :: octet :: tail) value rest ↔
      QuotedRead capacity octet (used ++ [octet]) tail value rest :=
  quotedRead_store rfl (by simp)

theorem quotedRead_plain {tail : Bytes} (unquoted : octet ≠ quote)
    (unescaped : octet ≠ backslash) :
    QuotedRead capacity last used (octet :: tail) value rest ↔
      QuotedRead capacity octet (used ++ [octet]) tail value rest :=
  quotedRead_store (quotedText_plain unquoted unescaped tail) (by simp)

theorem readQuoted_iff (stored : FitsOutput capacity used) :
    readQuoted capacity last used data = .read value rest ↔
      QuotedRead capacity last used data value rest := by
  have refused {octet : UInt8} {used tail : Bytes}
    (full : ¬FitsOutput capacity (used ++ [octet])) :
      ¬QuotedRead capacity octet (used ++ [octet]) tail value rest :=
    fun read => full read.fitsOutput
  fun_induction readQuoted capacity last used data with
  | case1 used => simp [QuotedRead, quotedText, stored, eq_comm (a := used)]
  | case2 last used other => simp [QuotedRead, quotedText, other]
  | case3 last used rest' =>
    simp [QuotedRead, quotedText_quote, stored, eq_comm (a := used)]
  | case4 last used other => simp [QuotedRead, quotedText, other]
  | case5 last used escaped rest' control =>
    simp [quotedRead_escape, refused, fitsOutput_concat, control]
  | case6 last used escaped rest' _ full =>
    simp [quotedRead_escape, refused, fitsOutput_concat, full]
  | case7 last used escaped rest' plain free _ ih =>
    rw [quotedRead_escape]
    exact ih (fitsOutput_concat.mpr
      ⟨stored, by simpa using plain, by simpa using free⟩)
  | case8 last used octet rest' unquoted unescaped control =>
    simp [quotedRead_plain unquoted unescaped, refused, fitsOutput_concat,
      control]
  | case9 last used octet rest' unquoted unescaped _ full =>
    simp [quotedRead_plain unquoted unescaped, refused, fitsOutput_concat, full]
  | case10 last used octet rest' unquoted unescaped plain free ih =>
    rw [quotedRead_plain unquoted unescaped]
    exact ih (fitsOutput_concat.mpr
      ⟨stored, by simpa using plain, by simpa using free⟩)

/-! ## Values -/

theorem close_iff {result : ParameterResult} :
    result.close true = .read value rest ↔
    ∃ behind, result = .read value behind ∧ ParameterEnd (skipOws behind) ∧
      skipOws behind = rest := by
  cases result with
  | invalid | tooLong => simp [ParameterResult.close]
  | read value' rest' =>
    have ended : ((skipOws rest').head?.any (· != semicolon)) = false ↔
        ParameterEnd (skipOws rest') := by
      rw [ParameterEnd]
      cases (skipOws rest').head? <;> simp
    by_cases other : ParameterEnd (skipOws rest')
    · simp [ParameterResult.close, ended.mpr other, other]
    · simp [ParameterResult.close, mt ended.mp other, other]

variable {body text : Bytes}

theorem readParameterValue_iff (quoted : skipOws data = quote :: body) :
    readParameterValue capacity data = .read value rest ↔
      ∃ behind, QuotedRead capacity quote [] body value behind ∧
        ParameterEnd (skipOws behind) ∧ skipOws behind = rest := by
  rw [readParameterValue, quoted]
  dsimp only
  simp only [if_pos, close_iff, readQuoted_iff (fitsOutput_nil capacity)]

/-- A quoted value is taken exactly if it is closed, and as the text it says. -/
def TakesClosed (capacity : Option Nat) (data body : Bytes) : Prop :=
  ∀ text, (∃ rest, readParameterValue capacity data = .read text rest) ↔
    ∃ rest, quotedText body = some (text, some rest)

theorem takesClosed_iff (quoted : skipOws data = quote :: body) :
    TakesClosed capacity data body ↔
      (∀ text rest, quotedText body = some (text, some rest) →
        FitsOutput capacity text ∧ ParameterEnd (skipOws rest)) ∧
        ∀ text, RunsOut body text → ¬FitsOutput capacity text := by
  simp only [TakesClosed, readParameterValue_iff quoted, QuotedRead, RunsOut]
  rcases quotedText body with _ | ⟨found, _ | behind⟩
  · simp
  · simpa [ParameterEnd, skipOws] using imp_not_comm
  · simp only [↓existsAndEq, Option.some.injEq, Prod.mk.injEq, List.nil_append,
      and_true,
      reduceCtorEq, false_and, or_false, exists_eq_left', exists_and_left,
      and_imp,
      forall_apply_eq_imp_iff, forall_eq', and_false, IsEmpty.forall_iff,
      implies_true]
    constructor
    · intro taken
      simpa using (taken found).mpr rfl
    · intro fine text
      simp [fine, eq_comm]

/-! ## Lines -/

theorem readUnquoted_none (read : readUnquoted capacity used data =
    .read value rest) :
    readUnquoted none used data = .read value rest := by
  fun_induction readUnquoted capacity used data <;> simp_all
    [readUnquoted, full]

theorem QuotedRead.unbounded
    (read : QuotedRead capacity last used data value rest) :
    QuotedRead none last used data value rest := by
  obtain ⟨text, behind, found, rfl, ⟨printable, -⟩, ends⟩ := read
  exact ⟨text, behind, found, rfl, ⟨printable, nofun⟩, ends⟩

theorem readParameterValue_none
    (read : readParameterValue capacity data = .read value rest) :
    readParameterValue none data = .read value rest := by
  have closes {quoted : Bool} {result result' : ParameterResult}
      (same : ∀ value rest, result = .read value rest →
        result' = .read value rest)
      (closed : result.close quoted = .read value rest) :
      result'.close quoted = .read value rest := by
    cases result with
    | invalid | tooLong => cases closed
    | read value' rest' =>
      rw [same value' rest' rfl]
      exact closed
  unfold readParameterValue at read ⊢
  split at read
  · cases read
  · split_ifs at read ⊢
    · refine closes (fun _ _ quoted => ?_) read
      have read := (readQuoted_iff (fitsOutput_nil capacity)).mp quoted
      exact (readQuoted_iff (fitsOutput_nil none)).mpr read.unbounded
    · exact closes (fun _ _ => readUnquoted_none) read

/-- The octets behind the equals signs of the parameters. -/
def parameterValues (data : Bytes) : List Bytes :=
  match _named : readParameterName data with
  | none => []
  | some (_, rest) =>
    match _valued : readParameterValue none rest with
    | .read _ next => rest :: parameterValues next
    | .invalid | .tooLong => [rest]
termination_by data.length
decreasing_by
  have := length_readParameterName_lt _named
  have := length_readParameterValue_le _valued
  omega

/-- The parameters have values which the reader takes. -/
def Taken (data : Bytes) : Prop :=
  ∀ value ∈ parameterValues data, ∃ text rest,
  readParameterValue none value = .read text rest

theorem taken_nil : Taken [] := by
  simp [Taken, parameterValues, readParameterName]

/-- One more parameter in front of taken ones. -/
theorem Taken.cons {name next : Bytes}
    (named : readParameterName data = some (name, rest))
    (valued : readParameterValue capacity rest = .read value next)
    (taken : Taken next) :
    Taken data := by
  have read := readParameterValue_none valued
  have values : parameterValues data = rest :: parameterValues next := by
    rw [parameterValues]
    split <;> rename_i other <;> rw [named] at other <;> cases other
    split <;> rename_i other <;> rw [read] at other <;> cases other
    rfl
  rw [Taken, values, List.forall_mem_cons]
  exact ⟨⟨value, next, read⟩, taken⟩

theorem taken_of_readBoundary {found : Option Bytes} {boundary : Bytes}
    (accepted : readBoundary found data = some boundary) : Taken data := by
  fun_induction readBoundary found data with
  | case1 => exact taken_nil
  | case4 _ _ _ _ _ named _ _ _ _ valued _ ih =>
    exact (ih accepted).cons named valued
  | case7 _ _ _ _ _ named _ _ _ valued ih =>
    exact (ih accepted).cons named valued
  | _ => cases accepted

theorem taken_of_readNames {limits : MultipartLimits}
    {name filename : Option Bytes}
    {parsed : Bytes} {parsedFile : Option Bytes}
    (accepted : readNames limits name filename data =
      .names parsed parsedFile) : Taken data := by
  fun_induction readNames limits name filename data with
  | case2 => exact taken_nil
  | case8 _ _ _ _ _ _ named _ _ _ _ valued _ ih =>
    exact (ih accepted).cons named valued
  | case12 _ _ _ _ _ _ named _ _ _ _ _ valued ih =>
    exact (ih accepted).cons named valued
  | case13 _ _ _ _ _ _ named _ _ _ _ valued ih =>
    exact (ih accepted).cons named valued
  | _ => cases accepted

/-- The quoted values of a line are closed. -/
def Terminated (line : Bytes) : Prop :=
  ∀ value ∈ parameterValues (mediaParameters line), ∀ body,
  skipOws value = quote :: body →
    ∃ text rest, quotedText body = some (text, some rest)

/-- No quoted value of a line ends with it behind a quote. -/
def Lasting (line : Bytes) : Prop :=
  ∀ value ∈ parameterValues (mediaParameters line), ∀ body text,
  skipOws value = quote :: body →
    ¬RunsOut body text

theorem terminated_iff {line : Bytes} (taken : Taken (mediaParameters line)) :
    Terminated line ↔ Lasting line := by
  refine forall₂_congr fun value member => forall_congr' fun body => ?_
  obtain ⟨text, rest, read⟩ := taken value member
  constructor
  · rintro closed text quoted ⟨ends, -⟩
    obtain ⟨_, _, found⟩ := closed quoted
    rw [ends] at found
    cases found
  · intro lasting quoted
    obtain ⟨behind, ⟨text, _, found, -, -, rfl | ⟨rfl, -, last⟩⟩, -⟩ :=
      (readParameterValue_iff quoted).mp read
    · exact ⟨text, behind, found⟩
    · exact absurd ⟨found, last⟩ (lasting text quoted)

/-- A quoted value is taken as its text exactly if it is closed, as long as a
closed one can be stored and ends its parameter, and one which is not closed
does not end behind a quote; and the lines which are accepted have no open
values as long as no value ends so. -/
theorem quoted_parameters_closed (capacity : Option Nat)
    (limits : MultipartLimits)
    (data body line : Bytes) :
    (skipOws data = quote :: body →
      (TakesClosed capacity data body ↔
        (∀ text rest, quotedText body = some (text, some rest) →
          FitsOutput capacity text ∧ ParameterEnd (skipOws rest)) ∧
          ∀ text, RunsOut body text → ¬FitsOutput capacity text)) ∧
      (∀ name filename, parseDisposition limits line = .names name filename →
        (Terminated line ↔ Lasting line)) ∧
      ∀ boundary, parseOuterBoundary line = some boundary →
        (Terminated line ↔ Lasting line) := by
  refine ⟨takesClosed_iff, ?_, ?_⟩
  · intro name filename accepted
    unfold parseDisposition at accepted
    split_ifs at accepted
    exact terminated_iff (taken_of_readNames accepted)
  · intro boundary accepted
    unfold parseOuterBoundary at accepted
    split_ifs at accepted
    exact terminated_iff (taken_of_readBoundary accepted)

theorem quoted_parameters_closed_name :
    TakesClosed none (ascii "\"a\"") (ascii "a\"") ∧
      Terminated (ascii "form-data; name=\"a\"") := by
  have single : parameterValues
    (mediaParameters (ascii "form-data; name=\"a\"")) =
      [ascii "\"a\""] := by
    decide +kernel
  obtain ⟨value, disposition, -⟩ :=
    quoted_parameters_closed none .default (ascii "\"a\"")
    (ascii "a\"") (ascii "form-data; name=\"a\"")
  constructor
  · refine (value rfl).mpr ⟨?_, ?_⟩
    · rintro text rest ⟨⟩
      exact ⟨⟨by decide +kernel, nofun⟩, nofun⟩
    · rintro text ⟨⟨⟩, -⟩
  · refine (disposition (ascii "a") none (by decide +kernel)).mpr ?_
    rw [Lasting, single, List.forall_mem_singleton]
    rintro body text ⟨⟩ ⟨⟨⟩, -⟩

/-- A quote alone is an empty value, and an escaped quote closes a value. -/
theorem quoted_parameters_open :
    ¬TakesClosed none [quote] [] ∧
      (parseDisposition .default (ascii "form-data; name=\"a\\\"") =
          .names (ascii "a\"") none ∧
        ¬Terminated (ascii "form-data; name=\"a\\\"")) ∧
      parseOuterBoundary (ascii "multipart/form-data; boundary=x; a=\"") =
        some (ascii "x") ∧
        ¬Terminated (ascii "multipart/form-data; boundary=x; a=\"") := by
  have disposition : parameterValues
    (mediaParameters (ascii "form-data; name=\"a\\\"")) =
      [ascii "\"a\\\""] := by
    decide +kernel
  have boundary : parameterValues
      (mediaParameters (ascii "multipart/form-data; boundary=x; a=\"")) =
        [ascii "x; a=\"", [quote]] := by
    decide +kernel
  refine ⟨fun takes => ?_,
    ⟨by decide +kernel, fun closed => ?_⟩, by decide +kernel,
    fun closed => ?_⟩
  · obtain ⟨rest, found⟩ := (takes []).mp ⟨[], by decide⟩
    cases found
  · rw [Terminated, disposition, List.forall_mem_singleton] at closed
    obtain ⟨text, rest, found⟩ := closed _ rfl
    cases found
  · rw [Terminated, boundary] at closed
    obtain ⟨text, rest, found⟩ := closed [quote] (by simp) [] rfl
    cases found

end Chttp.App
