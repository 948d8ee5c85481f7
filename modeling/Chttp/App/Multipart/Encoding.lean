import Chttp.App.Multipart.Octets
import Chttp.App.Multipart.Parameters
import Chttp.Lib.Segments

/-!
# Encoding form data

The encoding which a browser gives a form: each part is introduced by the
delimiter and its headers, the names in the headers are quoted, and quotes and
backslashes in them are escaped.  The headers of an encoded part are read back
to the part.
-/

namespace Chttp.App

open Lib Server
open MultipartPart

/-- A part of a form with its octets. -/
structure FormPart where
  part : MultipartPart
  body : Bytes
  deriving DecidableEq, Repr

/-- The text of a quoted string. -/
def escape (text : Bytes) : Bytes := text.flatMap fun octet =>
    if octet = quote ∨ octet = backslash then [backslash, octet] else [octet]

/-- A quoted string. -/
def quoted (text : Bytes) : Bytes := quote :: escape text ++ [quote]

/-- A header line. -/
def headerLine (name value : Bytes) : Bytes := name ++ colon :: 32 :: value

namespace MultipartPart

variable (part : MultipartPart)

/-- The parameter with the file name. -/
def filenameParameter : Bytes :=
  match part.filename with
  | none => []
  | some filename => ascii "; filename=" ++ quoted filename

/-- The value of `Content-Disposition`. -/
def dispositionValue : Bytes :=
  ascii "form-data; name=" ++ quoted part.name ++ part.filenameParameter

/-- The headers of a part. -/
def lines : List Bytes :=
  headerLine (ascii "Content-Disposition") part.dispositionValue ::
    (part.contentType.map (headerLine (ascii "Content-Type"))).toList

/-- The octets in front of the body of a part. -/
def headerBlock : Bytes := part.lines.flatMap (· ++ crlf) ++ crlf

end MultipartPart

/-- The encoding of a form. -/
def encodeForm (boundary : Bytes) (parts : List FormPart) : Bytes :=
  (parts.flatMap fun part =>
    opening boundary ++ part.part.headerBlock ++ part.body ++ crlf) ++
    (dash :: dash :: boundary ++ [dash, dash] ++ crlf)

/-- What a form says. -/
def FormPart.items (part : FormPart) : List FormItem :=
  .begins part.part :: part.body.map .octet ++ [.ends]

/-- A text which stands in a header line as it is. -/
@[mk_iff]
structure HeaderText (value : Bytes) : Prop where
  valid : headerValueValid value = true
  first : ∀ octet ∈ value.head?, ows octet = false
  last : ∀ octet ∈ value.getLast?, ows octet = false

/-- A part which has an encoding. -/
@[mk_iff]
structure MultipartPart.Expressible (part : MultipartPart) : Prop where
  named : part.name ≠ []
  name : Printable part.name
  filename : ∀ filename ∈ part.filename, Printable filename
  typed : ∀ contentType ∈ part.contentType, contentType ≠ []
  contentType : ∀ contentType ∈ part.contentType, HeaderText contentType

/-- A part which the limits for its headers allow. -/
@[mk_iff]
structure MultipartPart.Within (limits : MultipartLimits)
    (part : MultipartPart) : Prop where
  name : part.name.length ≤ limits.maxNameBytes
  filename : ∀ filename ∈ part.filename,
    filename.length ≤ limits.maxFilenameBytes
  contentType : ∀ contentType ∈ part.contentType,
  contentType.length ≤ limits.maxContentTypeBytes
  count : part.lines.length ≤ limits.maxHeaderCount
  headers : part.headerBlock.length ≤ limits.maxHeaderBytes

/-- A part which the limits allow. -/
@[mk_iff]
structure FormPart.Within (limits : MultipartLimits) (part : FormPart) :
    Prop where
  headers : part.part.Within limits
  field : part.part.filename = none → part.body.length ≤ limits.maxFieldBytes

/-- A form which the limits allow. -/
@[mk_iff]
structure FormWithin (limits : MultipartLimits) (boundary : Bytes)
    (parts : List FormPart) : Prop where
  count : parts.length ≤ limits.maxParts
  each : ∀ part ∈ parts, part.Within limits
  total : (encodeForm boundary parts).length ≤ limits.maxTotalBytes

instance (value : Bytes) : Decidable (HeaderText value) :=
  -- `Option.all` looks at one octet, not at all that there are.
  decidable_of_iff
    (headerValueValid value = true ∧
      value.head?.all (fun octet => ows octet = false) = true ∧
      value.getLast?.all (fun octet => ows octet = false) = true)
    (by
      simp only [Option.all_eq_true, decide_eq_true_eq]
      exact (headerText_iff value).symm)

instance (part : MultipartPart) : Decidable part.Expressible :=
  decidable_of_iff' _ part.expressible_iff

instance (limits : MultipartLimits) (part : MultipartPart) :
    Decidable (part.Within limits) :=
  decidable_of_iff' _ (within_iff limits part)

instance (limits : MultipartLimits) (part : FormPart) :
    Decidable (part.Within limits) :=
  decidable_of_iff' _ (FormPart.within_iff limits part)

instance (limits : MultipartLimits) (boundary : Bytes) (parts : List FormPart) :
    Decidable (FormWithin limits boundary parts) :=
  decidable_of_iff' _ (formWithin_iff limits boundary parts)

/-! ## Quoted strings -/

theorem escape_cons (octet : UInt8) (text : Bytes) : escape (octet :: text) =
    (if octet = quote ∨ octet = backslash then [backslash, octet]
      else [octet]) ++ escape text :=
  rfl

variable {octet : UInt8} {data rest text name value : Bytes}

theorem quotedText_escape (text rest : Bytes) :
    quotedText (escape text ++ quote :: rest) = some (text, some rest) := by
  induction text with
  | nil => exact quotedText_quote rest
  | cons octet text ih =>
    rw [escape_cons]
    split_ifs with special
    · show (quotedText (escape text ++ quote :: rest)).map _ = _
      rw [ih]
      rfl
    · obtain ⟨unquoted, unescaped⟩ := not_or.mp special
      rw [List.append_assoc, List.singleton_append,
        quotedText_plain unquoted unescaped, ih]
      rfl

theorem skipOws_of_head (head : ∀ octet ∈ data.head?, ows octet = false) :
    skipOws data = data := by
  cases data with
  | nil => rfl
  | cons first rest =>
    have other := head first rfl
    rw [skipOws, List.dropWhile_cons_of_neg]
    rw [other]
    decide

theorem skipOws_parameterEnd (ended : ParameterEnd rest) :
    skipOws rest = rest :=
  skipOws_of_head fun octet member => by
    rw [ended octet member]
    decide

theorem readParameterValue_quoted {limit : Nat} (printable : Printable text)
    (room : text.length ≤ limit) (ended : ParameterEnd rest) :
    readParameterValue (some limit)
    (quoted text ++ rest) = .read text rest := by
  have begin : skipOws (quoted text ++ rest) =
      quote :: (escape text ++ quote :: rest) := by
    rw [skipOws_of_head]
    · simp [quoted]
    · rintro _ ⟨⟩
      decide
  have same := skipOws_parameterEnd ended
  have stored : FitsOutput (some limit) text :=
    ⟨printable, by rintro _ ⟨⟩; exact room⟩
  exact (readParameterValue_iff begin).mpr ⟨rest,
    ⟨text, some rest, quotedText_escape text rest, rfl, stored,
      .inl rfl⟩, by rwa [same], same⟩

/-! ## Header values -/

theorem readParameterName_name (rest : Bytes) :
    readParameterName (ascii "; name=" ++ rest) =
    some (ascii "name", rest) :=
  rfl

theorem readParameterName_filename (rest : Bytes) :
    readParameterName (ascii "; filename=" ++ rest) =
      some (ascii "filename", rest) :=
  rfl

theorem parameterEnd_filenameParameter (part : MultipartPart) :
    ParameterEnd part.filenameParameter := by
  unfold filenameParameter
  intro octet member
  split at member
  · cases member
  · cases member
    rfl

theorem ne_nil_of_readParameterName
    (named : readParameterName data = some (name, rest)) :
    data ≠ [] := by
  rintro rfl
  cases named

theorem readNames_name {limits : MultipartLimits} {filename : Option Bytes}
    {rest' : Bytes}
    (named : readParameterName data = some (ascii "name", rest))
    (valued : readParameterValue (some limits.maxNameBytes) rest =
      .read value rest')
    (filled : value ≠ []) :
    readNames limits none filename data =
      readNames limits (some value) filename rest' := by
  have matches_ : ieq (ascii "name") (ascii "name") = true := by
    decide
  have unfilled : ¬ value.isEmpty = true := by
    simpa [List.isEmpty_iff] using filled
  rw [readNames.eq_def, if_neg (ne_nil_of_readParameterName named)]
  split <;> rename_i other <;> rw [named] at other <;> cases other
  rw [if_pos matches_]
  simp only [Option.isSome_none, Bool.false_eq_true, if_false]
  split <;> rename_i other <;> rw [valued] at other <;> cases other
  rw [if_neg unfilled]

theorem readNames_filename {limits : MultipartLimits} {name : Option Bytes}
    {rest' : Bytes}
    (named : readParameterName data = some (ascii "filename", rest))
    (valued : readParameterValue (some limits.maxFilenameBytes) rest =
      .read value rest') :
    readNames limits name none data =
      readNames limits name (some value) rest' := by
  have differs : ¬ ieq (ascii "filename") (ascii "name") = true := by
    decide
  have matches_ : ieq (ascii "filename") (ascii "filename") = true := by
    decide
  rw [readNames.eq_def, if_neg (ne_nil_of_readParameterName named)]
  split <;> rename_i other <;> rw [named] at other <;> cases other
  rw [if_neg differs, if_pos matches_]
  simp only [Option.isSome_none, Bool.false_eq_true, if_false]
  split <;> rename_i other <;> rw [valued] at other <;> cases other
  rfl

theorem readNames_nil (limits : MultipartLimits) (name : Bytes)
    (filename : Option Bytes) :
    readNames limits (some name) filename [] = .names name filename := by
  rw [readNames.eq_def]
  exact if_pos rfl

variable {limits : MultipartLimits} {part : MultipartPart}

theorem parseDisposition_value (expressible : part.Expressible)
    (within : part.Within limits) :
    parseDisposition limits part.dispositionValue =
      .names part.name part.filename := by
  have value : part.dispositionValue = ascii "form-data" ++
      (ascii "; name=" ++ (quoted part.name ++ part.filenameParameter)) := by
    rw [dispositionValue, List.append_assoc, ← List.append_assoc]
    rfl
  have media : mediaType part.dispositionValue = ascii "form-data" := by
    rw [value]
    rfl
  have parameters : mediaParameters part.dispositionValue =
      ascii "; name=" ++ (quoted part.name ++ part.filenameParameter) := by
    rw [value]
    rfl
  have disposed : ieq (ascii "form-data") (ascii "form-data") = true := by
    decide
  rw [parseDisposition, media, parameters, if_pos disposed,
    readNames_name (readParameterName_name _)
      (readParameterValue_quoted expressible.name within.name
        (parameterEnd_filenameParameter part)) expressible.named]
  unfold filenameParameter
  split
  · rename_i none
    rw [readNames_nil, none]
  rename_i filename some
  have ended : ParameterEnd [] := by simp [ParameterEnd]
  have read := readParameterValue_quoted
    (expressible.filename filename some) (within.filename filename some) ended
  rw [List.append_nil] at read
  rw [readNames_filename (readParameterName_filename _) read, readNames_nil,
    some]

/-! ## Header lines -/

theorem splitLine_line {line : Bytes} (clean : cr ∉ line) (rest : Bytes) :
    splitLine (line ++ (crlf ++ rest)) = some (line, rest) := by
  induction line with
  | nil => exact if_pos ⟨rfl, rfl⟩
  | cons first line ih =>
    have other : first ≠ cr := fun same => clean (same ▸ List.mem_cons_self)
    have found := ih fun member => clean (List.mem_cons_of_mem _ member)
    obtain ⟨second, behind, whole⟩ : ∃ second behind,
        line ++ (crlf ++ rest) = second :: behind := by
      cases line with
      | nil => exact ⟨cr, lf :: rest, rfl⟩
      | cons second line => exact ⟨second, line ++ (crlf ++ rest), rfl⟩
    rw [List.cons_append, whole, splitLine, if_neg fun ended => other ended.1,
      ← whole, found]
    rfl

/-- A name of a header. -/
structure HeaderName (name : Bytes) : Prop where
  filled : name ≠ []
  token : ∀ octet ∈ name, tokenChar octet = true

theorem token_ne_colon (token : tokenChar octet = true) :
    (octet != colon) = true := by
  rw [bne_iff_ne]
  rintro rfl
  revert token
  decide

theorem span_headerLine (named : HeaderName name) (value : Bytes) :
    (headerLine name value).takeWhile (· != colon) = name ∧
      (headerLine name value).dropWhile (· != colon) =
        colon :: 32 :: value := by
  refine span_append
    (fun octet member => token_ne_colon (named.token octet member)) ?_
  rintro _ ⟨⟩
  rfl

theorem headerValue_headerLine (named : HeaderName name)
    (text : HeaderText value) :
    headerValue (headerLine name value) = value := by
  have skipped : skipOws (32 :: value) = value := by
    rw [skipOws, List.dropWhile_cons_of_pos (by decide)]
    exact skipOws_of_head text.first
  rw [headerValue, (span_headerLine named value).2, List.drop_one,
    List.tail_cons, skipped, List.rdropWhile_eq_self_iff]
  intro filled space
  have other := text.last _ (List.getLast?_eq_some_getLast filled)
  rw [other] at space
  cases space

theorem not_mem_headerLine (named : octet ∉ name) (valued : octet ∉ value)
    (colons : octet ≠ colon) (space : octet ≠ 32) :
    octet ∉ headerLine name value := by
  rw [headerLine, List.mem_append, List.mem_cons, List.mem_cons]
  rintro (member | same | same | member)
  · exact named member
  · exact colons same
  · exact space same
  · exact valued member

theorem HeaderName.not_mem (named : HeaderName name)
    (other : tokenChar octet = false) :
    octet ∉ name := by
  intro member
  rw [named.token octet member] at other
  cases other

theorem HeaderText.not_mem (text : HeaderText value)
    (other : (!controlByte octet || octet == 9) = false) : octet ∉ value := by
  intro member
  have valid := List.all_eq_true.mp text.valid octet member
  rw [other] at valid
  cases valid

/-- One round of the loop, for a line which is a header. -/
theorem readHeaders_line {headerCount : Nat}
    {disposition : Option (Bytes × Option Bytes)}
    {contentType : Option Bytes} (named : HeaderName name)
    (text : HeaderText value)
    (room : headerCount < limits.maxHeaderCount) (rest : Bytes) :
    readHeaders limits headerCount disposition contentType
        (headerLine name value ++ (crlf ++ rest)) =
      if ieq name (ascii "Content-Disposition") then
        if disposition.isSome then
          .error (.multipart, "multipart Content-Disposition is duplicated")
        else
          match parseDisposition limits value with
          | .tooLong => .error (.capacity,
              "multipart disposition metadata exceeds configured limit")
          | .invalid => .error (.multipart,
              "multipart Content-Disposition is invalid")
          | .names name filename =>
            readHeaders limits (headerCount + 1)
            (some (name, filename)) contentType rest
      else if ieq name (ascii "Content-Type") then
        if contentType.isSome ∨ value.isEmpty then
          .error (.multipart, "multipart Content-Type is invalid")
        else if limits.maxContentTypeBytes < value.length then
          .error (.capacity, "multipart Content-Type exceeds configured limit")
        else readHeaders limits (headerCount + 1) disposition (some value) rest
      else
        readHeaders limits (headerCount + 1) disposition contentType rest := by
  have clean : cr ∉ headerLine name value :=
    not_mem_headerLine (named.not_mem (by decide))
      (text.not_mem (by decide)) (by decide) (by decide)
  have long : ¬ (headerLine name value ++ (crlf ++ rest)).length < 2 := by
    simp only [List.length_append, crlf, List.length_cons]
    omega
  have filled : ¬ (headerLine name value).isEmpty = true := by
    simp [headerLine]
  have colons : ¬ (name.isEmpty = true ∨
    name.length = (headerLine name value).length ∨
      (!name.all tokenChar) = true) := by
    rintro (empty | same | bad)
    · exact named.filled (List.isEmpty_iff.mp empty)
    · simp [headerLine] at same
    · rw [List.all_eq_true.mpr named.token] at bad
      cases bad
  have valid : ¬ (!headerValueValid value) = true := by
    rw [text.valid]
    decide
  rw [readHeaders, if_neg long]
  split <;> rename_i other <;> rw [splitLine_line clean] at other <;>
    cases other
  dsimp only
  rw [if_neg filled, if_neg (Nat.not_le_of_lt room),
    (span_headerLine named value).1, if_neg colons,
    headerValue_headerLine named text]
  exact if_neg valid

theorem readHeaders_end (headerCount : Nat) (name : Bytes)
    (filename contentType : Option Bytes) :
    readHeaders limits headerCount (some (name, filename)) contentType crlf =
      .ok ⟨name, filename, contentType⟩ := by
  rw [readHeaders, if_neg (by decide)]
  split <;> rename_i other <;> cases other
  rfl

theorem headerName_disposition : HeaderName (ascii "Content-Disposition") where
  filled := by decide +kernel
  token := by decide +kernel

theorem headerName_contentType : HeaderName (ascii "Content-Type") where
  filled := by decide +kernel
  token := by decide +kernel

theorem escape_valid (printable : Printable text) :
    headerValueValid (escape text) = true := by
  refine List.all_eq_true.mpr fun octet member => ?_
  obtain ⟨source, inside, member⟩ := List.mem_flatMap.mp member
  have plain := printable source inside
  split_ifs at member
  · rcases List.mem_cons.mp member with rfl | member
    · decide
    · rw [List.mem_singleton.mp member, plain]
      rfl
  · rw [List.mem_singleton.mp member, plain]
    rfl

theorem headerValueValid_append (first second : Bytes) :
    headerValueValid (first ++ second) =
    (headerValueValid first && headerValueValid second) :=
  List.all_append

theorem quoted_valid (printable : Printable text) :
    headerValueValid (quoted text) = true := by
  change headerValueValid ([quote] ++ escape text ++ [quote]) = true
  rw [headerValueValid_append, headerValueValid_append, escape_valid printable]
  decide

theorem getLast?_quoted (before text : Bytes) :
    (before ++ quoted text).getLast? = some quote := by
  rw [quoted, ← List.append_assoc, List.getLast?_concat]

theorem headerText_disposition (expressible : part.Expressible) :
    HeaderText part.dispositionValue where
  valid := by
    have filename : headerValueValid part.filenameParameter = true := by
      unfold filenameParameter
      split
      · rfl
      · rename_i filename some
        rw [headerValueValid_append,
          quoted_valid (expressible.filename filename some)]
        decide
    rw [dispositionValue, headerValueValid_append,
      headerValueValid_append, quoted_valid expressible.name, filename]
    decide
  first := by
    intro octet member
    cases member
    decide
  last := by
    have last : part.dispositionValue.getLast? = some quote := by
      unfold dispositionValue filenameParameter
      split
      · rw [List.append_nil, getLast?_quoted]
      · rw [← List.append_assoc, getLast?_quoted]
    intro octet member
    rw [last] at member
    cases member
    decide

/-- The headers of a part are read back. -/
theorem readHeaders_headerBlock (expressible : part.Expressible)
    (within : part.Within limits) :
    readHeaders limits 0 none none part.headerBlock = .ok part := by
  have count := within.count
  have disposed : ieq (ascii "Content-Disposition")
      (ascii "Content-Disposition") = true := by
    decide
  have first : ∀ rest, readHeaders limits 0 none none
      (headerLine (ascii "Content-Disposition") part.dispositionValue ++
        (crlf ++ rest)) =
      readHeaders limits 1 (some (part.name, part.filename)) none rest := by
    intro rest
    have room : 0 < limits.maxHeaderCount :=
      lt_of_lt_of_le (Nat.succ_pos _) count
    rw [readHeaders_line headerName_disposition
      (headerText_disposition expressible) room, if_pos disposed,
      parseDisposition_value expressible within]
    rfl
  obtain ⟨name, filename, contentType⟩ := part
  cases contentType with
  | none =>
    have block : headerBlock ⟨name, filename, none⟩ =
        headerLine (ascii "Content-Disposition")
          (dispositionValue ⟨name, filename, none⟩) ++ (crlf ++ crlf) := by
      rw [headerBlock, lines, List.flatMap_cons]
      exact (List.append_assoc _ _ _).trans (List.append_assoc _ _ _)
    rw [block, first, readHeaders_end]
  | some contentType =>
    have block : headerBlock ⟨name, filename, some contentType⟩ =
        headerLine (ascii "Content-Disposition")
          (dispositionValue ⟨name, filename, some contentType⟩) ++
            (crlf ++
              (headerLine (ascii "Content-Type") contentType ++
                (crlf ++ crlf))) := by
      simp only [headerBlock, lines,
        Option.map_some, Option.toList_some, List.flatMap_cons,
        List.flatMap_nil, List.append_nil, List.append_assoc]
    have differs : ¬ ieq (ascii "Content-Type") (ascii "Content-Disposition") =
        true := by
      decide
    have matches_ : ieq (ascii "Content-Type") (ascii "Content-Type") =
        true := by
      decide
    have filled : ¬ ((none : Option Bytes).isSome = true ∨
        contentType.isEmpty = true) := by
      rintro (impossible | empty)
      · cases impossible
      · exact expressible.typed contentType rfl (List.isEmpty_iff.mp empty)
    have room : 1 < limits.maxHeaderCount := count
    rw [block, first, readHeaders_line headerName_contentType
        (expressible.contentType contentType rfl) room,
      if_neg differs, if_pos matches_, if_neg filled,
      if_neg (Nat.not_lt_of_le (within.contentType contentType rfl)),
      readHeaders_end]

end Chttp.App
