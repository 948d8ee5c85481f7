import Chttp.Lib.CString
import Chttp.Server.Buffer
import Mathlib.Data.List.DropRight

/-!
# The parser of multipart form data

The parser of an upload is fed with the body piece by piece and calls the
application for each part: when its headers are complete, for each run of its
octets, and when its delimiter has been read.  What the application does is a
parameter, `PartCallbacks`, which carries a state of its own from one call to
the next.

Positions in a buffer are the octets which are left from there on.  The part
which is being read lives in the parser only while its headers are taken apart,
so it is a value here and not a group of fields.
-/

namespace Chttp.App

open Lib Server

/-- `chttp_web_status`. -/
inductive WebStatus where
  | ok
  | invalidArgument
  | template
  | capacity
  | outOfMemory
  | metadata
  | render
  | notFound
  | server
  | form
  | bind
  | csrf
  | flash
  | multipart
  | validation
  | upload
  | auth
  deriving DecidableEq, Repr

/-- `chttp_web_error`. -/
structure WebError where
  status : WebStatus
  nativeStatus : Status
  offset : Nat
  message : String
  deriving DecidableEq, Repr

/-! ## Octets -/

/-- The carriage return. -/
def cr : UInt8 := 13

/-- The line feed. -/
def lf : UInt8 := 10

/-- The minus sign. -/
def dash : UInt8 := 45

/-- The quotation mark. -/
def quote : UInt8 := 34

/-- The semicolon. -/
def semicolon : UInt8 := 59

/-- The equals sign. -/
def equalsSign : UInt8 := 61

/-- The colon. -/
def colon : UInt8 := 58

/-- The end of a line. -/
def crlf : Bytes := [cr, lf]

variable (value : UInt8)

/-- `chttp_web_multipart_ieq`. -/
def ieq (data literal : Bytes) : Bool := equalFold data literal

/-- `chttp_web_multipart_ows`. -/
def ows : Bool := value == 32 || value == 9

/-- Digits and letters. -/
def alphanumeric : Bool :=
  (48 ≤ value && value ≤ 57) || (65 ≤ value && value ≤ 90) ||
    (97 ≤ value && value ≤ 122)

/-- `chttp_web_multipart_token_char`. -/
def tokenChar : Bool :=
  alphanumeric value || (ascii "!#$%&'*+-.^_`|~").contains value

/-- `chttp_web_multipart_boundary_char`. -/
def boundaryChar : Bool :=
  alphanumeric value || (ascii "'()+_,-./:=? ").contains value

/-- The octets which no parameter may hold. -/
def controlByte : Bool :=
  value == 0 || value == cr || value == lf || value == 127 || value < 32

/-! ## Parameters -/

variable (data : Bytes)

/-- `chttp_web_multipart_skip_ows`. -/
def skipOws : Bytes := data.dropWhile ows

/-- What `chttp_web_multipart_read_parameter_value` returns: 0, -1, or 1 with
the value and the octets behind it. -/
inductive ParameterResult where
  | invalid
  | tooLong
  | read (value rest : Bytes)
  deriving DecidableEq, Repr

/-- The output has no room for another octet; without one nothing is stored. -/
def full (capacity : Option Nat) (used : Bytes) : Bool :=
  capacity.any (· ≤ used.length)

/-- The loop for a quoted value, behind the octet `last`.  The octets may end
before the closing quote: then that octet is compared with a quote, whatever it
was. -/
def readQuoted (capacity : Option Nat) (last : UInt8) (used : Bytes) :
    Bytes → ParameterResult
  | [] => if last = quote then .read used [] else .invalid
  | value :: rest =>
    if value = quote then .read used rest
    else if value = backslash then
      match rest with
      | [] => .invalid
      | escaped :: rest =>
        if controlByte escaped then .invalid
        else if full capacity used then .tooLong
        else readQuoted capacity escaped (used ++ [escaped]) rest
    else if controlByte value then .invalid
    else if full capacity used then .tooLong
    else readQuoted capacity value (used ++ [value]) rest

/-- The loop for a value without quotes. -/
def readUnquoted (capacity : Option Nat) (used : Bytes) :
    Bytes → ParameterResult
  | [] => .read used []
  | value :: rest =>
    if value = semicolon ∨ ows value then .read used (value :: rest)
    else if controlByte value then .invalid
    else if full capacity used then .tooLong
    else readUnquoted capacity (used ++ [value]) rest

/-- What follows the value has to be another parameter. -/
def ParameterResult.close (quoted : Bool) : ParameterResult → ParameterResult
  | .read value rest =>
    if (skipOws rest).head?.any (· != semicolon) then .invalid
    else if !quoted && value.isEmpty then .invalid
    else .read value (skipOws rest)
  | result => result

/-- `chttp_web_multipart_read_parameter_value`. -/
def readParameterValue (capacity : Option Nat) (data : Bytes) :
    ParameterResult :=
  match skipOws data with
  | [] => .invalid
  | first :: rest =>
    if first = quote then (readQuoted capacity quote [] rest).close true
    else (readUnquoted capacity [] (first :: rest)).close false

/-- The name of the next parameter, and the octets behind the equals sign. -/
def readParameterName : Option (Bytes × Bytes) :=
  match data with
  | [] => none
  | first :: rest =>
    if first ≠ semicolon then none
    else
      let name := (skipOws rest).takeWhile tokenChar
      if name.isEmpty then none
      else
        match skipOws ((skipOws rest).dropWhile tokenChar) with
        | [] => none
        | next :: rest => if next = equalsSign then some (name, rest) else none

/-- The text in front of the parameters, without white space around it. -/
def mediaType : Bytes :=
  ((skipOws data).takeWhile (· != semicolon)).rdropWhile ows

/-- The parameters behind that text. -/
def mediaParameters : Bytes := (skipOws data).dropWhile (· != semicolon)

theorem length_skipOws_le (data : Bytes) :
    (skipOws data).length ≤ data.length :=
  (List.dropWhile_sublist ows).length_le

variable {capacity : Option Nat} {data value rest : Bytes}

theorem length_readQuoted_le {last : UInt8} {used : Bytes}
    (read : readQuoted capacity last used data = .read value rest) :
    rest.length ≤ data.length := by
  fun_induction readQuoted capacity last used data <;> grind

theorem length_readUnquoted_le {used : Bytes}
    (read : readUnquoted capacity used data = .read value rest) :
    rest.length ≤ data.length := by
  fun_induction readUnquoted capacity used data <;> grind

theorem length_close_le {quoted : Bool} {result : ParameterResult}
    (closed : result.close quoted = .read value rest) :
    ∃ rest', result = .read value rest' ∧ rest.length ≤ rest'.length := by
  cases result with
  | invalid | tooLong => cases closed
  | read value' rest' =>
    simp only [ParameterResult.close] at closed
    split_ifs at closed
    cases closed
    exact ⟨rest', rfl, length_skipOws_le rest'⟩

theorem length_readParameterValue_le
    (read : readParameterValue capacity data = .read value rest) :
    rest.length ≤ data.length := by
  have skipped := length_skipOws_le data
  unfold readParameterValue at read
  split at read
  · cases read
  rename_i first others present
  rw [present, List.length_cons] at skipped
  split_ifs at read
  · obtain ⟨rest', quoted, shorter⟩ := length_close_le read
    have := length_readQuoted_le quoted
    omega
  · obtain ⟨rest', unquoted, shorter⟩ := length_close_le read
    have := length_readUnquoted_le unquoted
    rw [List.length_cons] at this
    omega

theorem length_readParameterName_lt {data name rest : Bytes}
    (read : readParameterName data = some (name, rest)) :
    rest.length < data.length := by
  unfold readParameterName at read
  split at read
  · cases read
  rename_i first others
  have skipped := length_skipOws_le others
  have dropped :=
    (List.dropWhile_sublist tokenChar (l := skipOws others)).length_le
  have again := length_skipOws_le ((skipOws others).dropWhile tokenChar)
  dsimp only at read
  split_ifs at read
  split at read
  · cases read
  rename_i next behind present
  rw [present, List.length_cons] at again
  split_ifs at read
  cases read
  rw [List.length_cons]
  omega

/-! ## The boundary -/

/-- `CHTTP_WEB_MULTIPART_BOUNDARY_HARD_MAX`. -/
def boundaryHardMax : Nat := 70

/-- The checks on the value of the parameter. -/
def acceptedBoundary (value : Bytes) : Bool :=
  !value.isEmpty && value.length ≤ boundaryHardMax &&
    value.getLast? != some 32 && value.all boundaryChar

/-- The loop of `chttp_web_multipart_parse_outer_boundary`. -/
def readBoundary (found : Option Bytes) (data : Bytes) : Option Bytes :=
  if data = [] then found
  else
    match _named : readParameterName data with
    | none => none
    | some (name, rest) =>
      if ieq name (ascii "boundary") then
        if found.isSome then none
        else
          match _valued : readParameterValue (some boundaryHardMax) rest with
          | .read value rest =>
            if acceptedBoundary value then readBoundary (some value) rest
            else none
          | _ => none
      else
        match _valued : readParameterValue none rest with
        | .read _ rest => readBoundary found rest
        | _ => none
termination_by data.length
decreasing_by all_goals
    have := length_readParameterName_lt _named
    have := length_readParameterValue_le _valued
    omega

/-- `chttp_web_multipart_parse_outer_boundary`. -/
def parseOuterBoundary (contentType : Bytes) : Option Bytes :=
  if ieq (mediaType contentType) (ascii "multipart/form-data") then
    readBoundary none (mediaParameters contentType)
  else none

/-! ## The headers of a part -/

/-- `chttp_web_multipart_limits`. -/
structure MultipartLimits where
  maxParts : Nat
  maxHeaderCount : Nat
  maxHeaderBytes : Nat
  maxNameBytes : Nat
  maxFilenameBytes : Nat
  maxContentTypeBytes : Nat
  maxFieldBytes : Nat
  maxTotalBytes : Nat
  deriving DecidableEq, Repr

/-- `CHTTP_WEB_MULTIPART_LIMITS_INIT`. -/
def MultipartLimits.default : MultipartLimits where
  maxParts := 128
  maxHeaderCount := 16
  maxHeaderBytes := 4096
  maxNameBytes := 128
  maxFilenameBytes := 512
  maxContentTypeBytes := 256
  maxFieldBytes := 64 * 1024
  maxTotalBytes := 16 * 1024 * 1024

variable (limits : MultipartLimits)

/-- `chttp_web_multipart_limits_valid`. -/
def MultipartLimits.valid : Bool := limits.maxParts != 0 &&
    limits.maxHeaderCount != 0 && limits.maxHeaderCount ≤ 64 &&
    4 ≤ limits.maxHeaderBytes && limits.maxHeaderBytes ≤ 8192 &&
    limits.maxNameBytes != 0 && limits.maxNameBytes ≤ 256 &&
    limits.maxFilenameBytes ≤ 1024 &&
    limits.maxContentTypeBytes ≤ 256 &&
    limits.maxTotalBytes != 0 &&
    limits.maxFieldBytes ≤ limits.maxTotalBytes

/-- `chttp_web_multipart_part`. -/
structure MultipartPart where
  name : Bytes
  filename : Option Bytes
  contentType : Option Bytes
  deriving DecidableEq, Repr

/-- What `chttp_web_multipart_parse_disposition` returns: 0, -1, or 1 with the
names. -/
inductive DispositionResult where
  | invalid
  | tooLong
  | names (name : Bytes) (filename : Option Bytes)
  deriving DecidableEq, Repr

/-- The loop of `chttp_web_multipart_parse_disposition`. -/
def readNames (limits : MultipartLimits) (name filename : Option Bytes)
    (data : Bytes) : DispositionResult :=
  if data = [] then
    match name with
    | none => .invalid
    | some name => .names name filename
  else
    match _named : readParameterName data with
    | none => .invalid
    | some (parameter, rest) =>
      if ieq parameter (ascii "name") then
        if name.isSome then .invalid
        else
          match _valued : readParameterValue
            (some limits.maxNameBytes) rest with
          | .tooLong => .tooLong
          | .invalid => .invalid
          | .read value rest =>
            if value.isEmpty then .invalid
            else readNames limits (some value) filename rest
      else if ieq parameter (ascii "filename") then
        if filename.isSome then .invalid
        else
          match _valued :
              readParameterValue (some limits.maxFilenameBytes) rest with
          | .tooLong => .tooLong
          | .invalid => .invalid
          | .read value rest => readNames limits name (some value) rest
      else
        match _valued : readParameterValue none rest with
        | .read _ rest => readNames limits name filename rest
        | _ => .invalid
termination_by data.length
decreasing_by all_goals
    have := length_readParameterName_lt _named
    have := length_readParameterValue_le _valued
    omega

/-- `chttp_web_multipart_parse_disposition`. -/
def parseDisposition (value : Bytes) : DispositionResult :=
  if ieq (mediaType value) (ascii "form-data") then
    readNames limits none none (mediaParameters value)
  else .invalid

/-- The octets in front of the first line end, and those behind it. -/
def splitLine : Bytes → Option (Bytes × Bytes)
  | [] => none
  | [_] => none
  | first :: second :: rest =>
    if first = cr ∧ second = lf then some ([], rest)
    else (splitLine (second :: rest)).map fun split =>
      (first :: split.1, split.2)

/-- `chttp_web_multipart_header_value_valid`. -/
def headerValueValid (value : Bytes) : Bool :=
  value.all fun octet => !controlByte octet || octet == 9

/-- A status and a message. -/
abbrev Refusal := WebStatus × String

/-- The end of the loop over the headers. -/
def partOf (disposition : Option (Bytes × Option Bytes))
    (contentType : Option Bytes) : Except Refusal MultipartPart :=
  match disposition with
  | none => .error (.multipart, "multipart part is missing Content-Disposition")
  | some (name, filename) => .ok ⟨name, filename, contentType⟩

theorem length_splitLine_lt {data line rest : Bytes}
    (split : splitLine data = some (line, rest)) :
    rest.length < data.length := by
  fun_induction splitLine data generalizing line with
  | case1 | case2 => cases split
  | case3 first second others ended =>
    cases split
    simp only [List.length_cons]
    omega
  | case4 first second others going ih =>
    obtain ⟨split', found, same⟩ := Option.map_eq_some_iff.mp split
    cases same
    have := ih found
    simp only [List.length_cons] at this ⊢
    omega

/-- The value of a header line without white space around it. -/
def headerValue (line : Bytes) : Bytes :=
  (skipOws ((line.dropWhile (· != colon)).drop 1)).rdropWhile ows

/-- The loop of `chttp_web_multipart_begin_part`. -/
def readHeaders (limits : MultipartLimits) (headerCount : Nat)
    (disposition : Option (Bytes × Option Bytes)) (contentType : Option Bytes)
    (data : Bytes) : Except Refusal MultipartPart :=
  if data.length < 2 then partOf disposition contentType
  else
    match split : splitLine data with
    | none => .error (.multipart, "multipart header block is truncated")
    | some (line, rest) =>
      if line.isEmpty then
        if rest.isEmpty then partOf disposition contentType
        else
          .error (.multipart, "multipart header terminator is malformed")
      else if limits.maxHeaderCount ≤ headerCount then
        .error (.capacity, "multipart header count exceeds configured limit")
      else
        let name := line.takeWhile (· != colon)
        let value := headerValue line
        if name.isEmpty ∨ name.length = line.length ∨ !name.all tokenChar then
          .error (.multipart, "multipart header name is invalid")
        else if !headerValueValid value then
          .error (.multipart, "multipart header value is invalid")
        else if ieq name (ascii "Content-Disposition") then
          if disposition.isSome then
            .error (.multipart, "multipart Content-Disposition is duplicated")
          else
            match parseDisposition limits value with
            | .tooLong => .error (.capacity,
                "multipart disposition metadata exceeds configured limit")
            | .invalid => .error (.multipart,
                "multipart Content-Disposition is invalid")
            | .names name filename =>
              readHeaders limits (headerCount + 1)
                (some (name, filename)) contentType rest
        else if ieq name (ascii "Content-Type") then
          if contentType.isSome ∨ value.isEmpty then
            .error (.multipart, "multipart Content-Type is invalid")
          else if limits.maxContentTypeBytes < value.length then
            .error (.capacity,
              "multipart Content-Type exceeds configured limit")
          else
            readHeaders limits (headerCount + 1) disposition (some value) rest
        else readHeaders limits (headerCount + 1) disposition contentType rest
termination_by data.length
decreasing_by all_goals exact length_splitLine_lt split

/-! ## The parser -/

/-- The states of the parser. -/
inductive MultipartState where
  | initial
  | headers
  | body
  | suffix
  | done
  | failed
  deriving DecidableEq, Repr

/-- `chttp_web_multipart_parser`. -/
structure MultipartParser where
  limits : MultipartLimits
  boundary : Bytes
  headerBytes : Bytes
  pending : Bytes
  totalBytes : Nat
  partCount : Nat
  fieldBytes : Nat
  initialIndex : Nat
  state : MultipartState
  suffixState : Nat
  active : Bool
  failed : Bool
  currentFile : Bool
  deriving DecidableEq, Repr

/-- `chttp_web_multipart_callbacks`, which work on the data behind `user`. -/
structure PartCallbacks (User : Type*) where
  partBegin : MultipartPart → User → Status × User
  partData : Bytes → User → Status × User
  partEnd : User → Status × User

/-- What a step leaves behind; without an error it returned `CHTTP_WEB_OK`. -/
abbrev Progress (User : Type*) := Option WebError × MultipartParser × User

namespace MultipartParser

variable {User : Type*} (parser : MultipartParser)

/-- `chttp_web_multipart_clear_part`. -/
def clearPart : MultipartParser :=
  { parser with
    headerBytes := []
    pending := []
    fieldBytes := 0
    suffixState := 0
    currentFile := false }

/-- `chttp_web_multipart_start_body`. -/
def startBody : MultipartParser := clearPart
    { parser with
      state := .initial
      initialIndex := 0
      totalBytes := 0
      partCount := 0
      active := true
      failed := false }

/-- The parser of `chttp_web_multipart_init` for a boundary:
`CHTTP_WEB_MULTIPART_PARSER_INIT` with its limits, and the body begun. -/
def fresh (boundary : Bytes) : MultipartParser := startBody
    { limits := limits
      boundary := boundary
      headerBytes := []
      pending := []
      totalBytes := 0
      partCount := 0
      fieldBytes := 0
      initialIndex := 0
      state := .initial
      suffixState := 0
      active := false
      failed := false
      currentFile := false }

/-- `chttp_web_multipart_init`. -/
def init (contentType : CString) (limits : MultipartLimits) :
    Except WebError MultipartParser :=
  match if limits.valid then parseOuterBoundary contentType.bytes else none with
  | none => .error
      { status := .invalidArgument
        nativeStatus := .ok
        offset := 0
        message := "multipart parser configuration or Content-Type is invalid" }
  | some boundary => .ok (fresh limits boundary)

/-- `chttp_web_multipart_fail`. -/
def fail (user : User) (refusal : Refusal) (nativeStatus : Status) :
    Progress User :=
  (some
    { status := refusal.1
      nativeStatus := nativeStatus
      offset := parser.totalBytes
      message := refusal.2 },
    { parser with failed := true, state := .failed }, user)

/-- Octets which the parser has read. -/
def count (octets : Nat) : MultipartParser :=
  { parser with totalBytes := parser.totalBytes + octets }

/-- `chttp_web_multipart_initial_char`. -/
def initialChar (index : Nat) : UInt8 :=
  if index < 2 then dash
  else
    match parser.boundary[index - 2]? with
    | some octet => octet
    | none => if index = 2 + parser.boundary.length then cr else lf

/-- `chttp_web_multipart_marker_char`. -/
def markerChar (index : Nat) : Option UInt8 :=
  if index = 0 then some cr
  else if index = 1 then some lf
  else if index = 2 ∨ index = 3 then some dash
  else parser.boundary[index - 4]?

/-- Octets of a field are counted. -/
def took (octets : Nat) : MultipartParser :=
  if parser.currentFile then parser
  else { parser with fieldBytes := parser.fieldBytes + octets }

variable (callbacks : PartCallbacks User)

/-- `chttp_web_multipart_emit`. -/
def emit (parser : MultipartParser) (user : User) (data : Bytes) :
    Progress User :=
  if data.isEmpty then (none, parser, user)
  else if !parser.currentFile ∧
    parser.limits.maxFieldBytes - parser.fieldBytes < data.length then
    parser.fail user (.capacity,
      "multipart field bytes exceed configured limit") .ok
  else
    match callbacks.partData data user with
    | (.ok, user) => (none, parser.took data.length, user)
    | (nativeStatus, user) =>
      parser.fail user (.multipart, "multipart part-data callback failed")
        nativeStatus

/-- The parser behind the headers of a part. -/
def begun (part : MultipartPart) : MultipartParser :=
  { parser with
    partCount := parser.partCount + 1
    currentFile := part.filename.isSome
    fieldBytes := 0
    pending := []
    suffixState := 0
    state := .body }

/-- `chttp_web_multipart_begin_part`. -/
def beginPart (parser : MultipartParser) (user : User) : Progress User :=
  match readHeaders parser.limits 0 none none parser.headerBytes with
  | .error refusal => parser.fail user refusal .ok
  | .ok part =>
    if parser.limits.maxParts ≤ parser.partCount then
      parser.fail user (.capacity,
        "multipart part count exceeds configured limit") .ok
    else
      match callbacks.partBegin part user with
      | (.ok, user) => (none, parser.begun part, user)
      | (nativeStatus, user) =>
        parser.fail user (.multipart, "multipart part-begin callback failed")
          nativeStatus

/-- `chttp_web_multipart_end_part`. -/
def endPart (parser : MultipartParser) (user : User) (final : Bool) :
    Progress User :=
  match callbacks.partEnd user with
  | (.ok, user) =>
    (none,
      if final then { parser with state := .done }
      else { parser.clearPart with state := .headers }, user)
  | (nativeStatus, user) =>
    parser.fail user (.multipart, "multipart part-end callback failed")
      nativeStatus

/-- One more octet of the headers is kept. -/
def store (value : UInt8) : MultipartParser :=
  { parser with headerBytes := parser.headerBytes ++ [value] }

/-- `chttp_web_multipart_feed_header_byte`. -/
def feedHeaderByte (parser : MultipartParser) (user : User) (value : UInt8) :
    Progress User :=
  if value = 0 then
    parser.fail user (.multipart, "multipart header contains NUL") .ok
  else if parser.limits.maxHeaderBytes ≤ parser.headerBytes.length then
    parser.fail user (.capacity,
      "multipart header bytes exceed configured limit") .ok
  else if parser.headerBytes.getLast? = some cr ∧ value ≠ lf then
    parser.fail user (.multipart, "multipart header uses invalid CR framing")
      .ok
  else if value = lf ∧ parser.headerBytes.getLast? ≠ some cr then
    parser.fail user (.multipart, "multipart header uses bare LF") .ok
  else if crlf ++ crlf <:+ (parser.store value).headerBytes then
    (parser.store value).beginPart callbacks user
  else (none, parser.store value, user)

/-- `chttp_web_multipart_feed_suffix_byte`. -/
def feedSuffixByte (parser : MultipartParser) (user : User) (value : UInt8) :
    Progress User :=
  let malformed := parser.fail user
    (.multipart, "multipart boundary suffix is malformed") .ok
  match parser.suffixState with
  | 0 =>
    if value = cr then (none, { parser with suffixState := 1 }, user)
    else if value = dash then (none, { parser with suffixState := 2 }, user)
    else malformed
  | 1 =>
    if value = lf then
      { parser with suffixState := 0 }.endPart callbacks user false
    else malformed
  | 2 =>
    if value = dash then (none, { parser with suffixState := 3 }, user)
    else malformed
  | 3 =>
    if value = cr then (none, { parser with suffixState := 4 }, user)
    else malformed
  | 4 =>
    if value = lf then
      { parser with suffixState := 0 }.endPart callbacks user true
    else malformed
  | _ => malformed

/-- One octet of the opening delimiter has been read. -/
def opened : MultipartParser :=
  if parser.initialIndex + 1 = parser.boundary.length + 4 then
    { parser with initialIndex := 0, state := .headers }
  else { parser with initialIndex := parser.initialIndex + 1 }

/-- One more octet of the delimiter behind a part has been read. -/
def matched (value : UInt8) : MultipartParser :=
  if parser.pending.length + 1 = parser.boundary.length + 4 then
    { parser with pending := [], suffixState := 0, state := .suffix }
  else { parser with pending := parser.pending ++ [value] }

/-- The loop of `chttp_web_multipart_feed`. -/
def feedLoop (callbacks : PartCallbacks User) (parser : MultipartParser)
    (user : User) (data : Bytes) : Progress User :=
  match data with
  | [] => (none, parser, user)
  | value :: rest =>
    match parser.state with
    | .done =>
      parser.fail user (.multipart, "multipart epilogue bytes are not accepted")
        .ok
    | .initial =>
      if value ≠ parser.initialChar parser.initialIndex then
        parser.fail user
          (.multipart, "multipart opening delimiter is malformed") .ok
      else feedLoop callbacks (parser.opened.count 1) user rest
    | .headers =>
      match parser.feedHeaderByte callbacks user value with
      | (some error, parser, user) => (some error, parser.count 1, user)
      | (none, parser, user) =>
        feedLoop callbacks (parser.count 1) user rest
    | .suffix =>
      match parser.feedSuffixByte callbacks user value with
      | (some error, parser, user) => (some error, parser.count 1, user)
      | (none, parser, user) =>
        feedLoop callbacks (parser.count 1) user rest
    | .failed =>
      parser.fail user (.multipart, "multipart parser entered an invalid state")
        .ok
    | .body =>
      if parser.pending = [] then
        -- the octets up to the next carriage return go out together
        let run := (value :: rest).takeWhile (· != cr)
        match parser.emit callbacks user run with
        | (some error, parser, user) => (some error, parser, user)
        | (none, parser, user) =>
          match behind : (value :: rest).dropWhile (· != cr) with
          | [] => (none, parser.count run.length, user)
          | _ :: others =>
            feedLoop callbacks
              { parser.count (run.length + 1) with pending := [cr] }
              user others
      else if parser.markerChar parser.pending.length = some value then
        feedLoop callbacks ((parser.matched value).count 1) user rest
      else
        -- the octet which does not fit is looked at again
        match parser.emit callbacks user parser.pending with
        | (some error, parser, user) => (some error, parser, user)
        | (none, parser, user) =>
          feedLoop callbacks { parser with pending := [] } user
            (value :: rest)
termination_by 2 * data.length + min 1 parser.pending.length
decreasing_by
  · simp only [List.length_cons]
    omega
  · simp only [List.length_cons]
    omega
  · simp only [List.length_cons]
    omega
  · have := (List.dropWhile_sublist (· != cr) (l := value :: rest)).length_le
    rw [behind] at this
    simp only [List.length_cons, List.length_nil] at this ⊢
    omega
  · simp only [List.length_cons]
    omega
  · rename_i held _
    have := List.length_pos_iff.mpr held
    simp only [List.length_nil]
    omega

/-- A call which returned `CHTTP_WEB_OK`. -/
def accepted (offset : Nat) : WebError where
  status := .ok
  nativeStatus := .ok
  offset := offset
  message := ""

/-- A call which is not allowed; the parser is left as it is. -/
def misused (message : String) : WebError where
  status := .invalidArgument
  nativeStatus := .ok
  offset := 0
  message := message

/-- `chttp_web_multipart_feed`. -/
def feed (callbacks : PartCallbacks User) (parser : MultipartParser)
    (user : User) (data : Bytes) : WebError × MultipartParser × User :=
  if !parser.active ∨ parser.failed then
    (misused "multipart feed arguments or parser state are invalid", parser,
      user)
  else
    let progress : Progress User :=
      if parser.limits.maxTotalBytes - parser.totalBytes < data.length then
        parser.fail user
          (.capacity, "multipart body exceeds configured total-byte limit") .ok
      else parser.feedLoop callbacks user data
    (progress.1.getD (accepted progress.2.1.totalBytes), progress.2)

/-- `chttp_web_multipart_finish`. -/
def finish (parser : MultipartParser) : WebError × MultipartParser :=
  if !parser.active ∨ parser.failed then
    (misused "multipart finish parser state is invalid", parser)
  else if parser.state ≠ .done then
    ({ status := .multipart
       nativeStatus := .ok
       offset := parser.totalBytes
       message := "multipart body is truncated before the closing delimiter" },
      { parser with failed := true, state := .failed })
  else (accepted parser.totalBytes, { parser with active := false })

end MultipartParser

end Chttp.App
