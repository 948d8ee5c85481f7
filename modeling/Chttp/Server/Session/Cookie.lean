import Chttp.Server.H2.Fields
import Chttp.Server.Request

/-!
# Which cookie a session is found by

The scanner looks for the pair with the name of the session cookie.  It is given
the value of one field, the first with the name `Cookie`; a request may have
several.
-/

namespace Chttp.Server

open Lib

/-! ## The scanner -/

/-- `strchr`, as an offset. -/
def strchr (text : Bytes) (octet : UInt8) : Option Nat :=
  text.findIdx? (· = octet)

variable {text part name : Bytes} {octet : UInt8}

theorem strchr_some {index : Nat} (found : strchr text octet = some index) :
    index < text.length ∧ octet ∉ text.take index ∧
      text = text.take index ++ octet :: text.drop (index + 1) := by
  obtain ⟨bound, holds, earlier⟩ := List.findIdx?_eq_some_iff_getElem.mp found
  refine ⟨bound, ?_, ?_⟩
  · intro member
    obtain ⟨before, less, same⟩ := List.mem_take_iff_getElem.mp member
    exact earlier before (lt_min_iff.mp less).1 (decide_eq_true same)
  · rw [← of_decide_eq_true holds, ← List.drop_eq_getElem_cons bound,
      List.take_append_drop]

theorem strchr_none (missing : strchr text octet = none) : octet ∉ text := by
  intro member
  have unlike := List.findIdx?_eq_none_iff.mp missing octet member
  exact absurd rfl (of_decide_eq_false unlike)

variable (cookie : Bytes)

/-- One round of `chttp_session_cookie_value`: the pair which it reads, if it
reads one, and what is left unless it was the last. -/
def readPair : Option (Bytes × Bytes) × Option Bytes :=
  let name := cookie.dropWhile cookieSkipped
  let end_ := strchr name 59
  match strchr name 61 with
  | none => (none, end_.map fun end_ => name.drop (end_ + 1))
  | some equals =>
    if end_.any (· < equals) then
      (none, end_.map fun end_ => name.drop (end_ + 1))
    else
      let value := name.drop (equals + 1)
      let delimiter := strchr value 59
      let content := delimiter.elim value value.take
      (some ((name.take equals).rdropWhile blank, trim content),
        delimiter.map fun delimiter => value.drop (delimiter + 1))

theorem drop_strchr_length {rest : Bytes}
    (cut : (strchr text octet).map (fun index => text.drop (index + 1)) =
      some rest) :
    rest.length < text.length := by
  obtain ⟨index, found, rfl⟩ := Option.map_eq_some_iff.mp cut
  obtain ⟨bound, -⟩ := strchr_some found
  rw [List.length_drop]
  omega

theorem readPair_rest {cookie rest : Bytes}
    (left : (readPair cookie).2 = some rest) : rest.length < cookie.length := by
  have skipped := List.length_dropWhile_le cookieSkipped cookie
  unfold readPair at left
  dsimp only at left
  split at left
  · exact (drop_strchr_length left).trans_le skipped
  split_ifs at left
  · exact (drop_strchr_length left).trans_le skipped
  · have shorter := drop_strchr_length left
    rw [List.length_drop] at shorter
    omega

/-- The loop of `chttp_session_cookie_value`. -/
def cookieLoop (expected : Bytes) (cookie : Bytes) : Option Bytes :=
  if cookie = [] then none
  else
    match (readPair cookie).1.filter fun pair => pair.1 = expected with
    | some pair => some pair.2
    | none =>
      match _left : (readPair cookie).2 with
      | none => none
      | some rest => cookieLoop expected rest
termination_by cookie.length
decreasing_by exact readPair_rest _left

/-- `chttp_session_cookie_value`. -/
def sessionCookieValue (sessionCookieName : Bytes) (request : RequestView) :
    Option Bytes :=
  (request.header (ascii "Cookie")).bind fun cookie =>
    cookieLoop sessionCookieName cookie.bytes

/-! ## The pairs of a cookie -/

theorem strchr_of_mem_take {count : Nat} (member : octet ∈ text.take count) :
    ∃ index < count, strchr text octet = some index := by
  cases found : strchr text octet with
  | none => exact absurd (List.mem_of_mem_take member) (strchr_none found)
  | some index =>
    refine ⟨index, ?_, rfl⟩
    by_contra late
    exact (strchr_some found).2.1
      (List.take_subset_take_left text (Nat.le_of_not_lt late) member)

/-- A part ends at the next separator. -/
theorem cookiePairs_strchr (clean : 59 ∉ part) (text : Bytes) :
    cookiePairs (part ++ text) =
      (cookiePair (part ++ (strchr text 59).elim text text.take)).toList ++
        ((strchr text 59).map fun end_ => text.drop (end_ + 1)).elim []
          cookiePairs := by
  cases found : strchr text 59 with
  | none =>
    simpa using cookiePairs_single
      (List.not_mem_append clean (strchr_none found))
  | some end_ =>
    obtain ⟨-, clean', whole⟩ := strchr_some found
    have pairs := cookiePairs_cut (List.not_mem_append clean clean')
      (text.drop (end_ + 1))
    rw [List.append_assoc, ← whole] at pairs
    exact pairs

theorem cookiePairs_unpaired
    (unpaired : 61 ∉ (strchr name 59).elim name name.take) :
    cookiePairs name =
      ((strchr name 59).map fun end_ => name.drop (end_ + 1)).elim []
        cookiePairs := by
  have pairs := cookiePairs_strchr (List.not_mem_nil (a := 59)) name
  rwa [List.nil_append, List.nil_append, cookiePair, if_neg unpaired] at pairs

theorem cookiePairs_paired {value : Bytes} (equals : 61 ∉ name)
    (separator : 59 ∉ name) :
    cookiePairs (name ++ 61 :: value) =
      (trim name, trim ((strchr value 59).elim value value.take)) ::
        ((strchr value 59).map fun end_ => value.drop (end_ + 1)).elim []
          cookiePairs := by
  have pairs := cookiePairs_strchr
    (List.not_mem_append separator (by decide : (59 : UInt8) ∉ [61])) value
  rw [List.append_assoc, List.append_assoc] at pairs
  rw [List.singleton_append, List.singleton_append,
    cookiePair_of_equals equals] at pairs
  exact pairs

/-- A round reads the first pair that is left, or skips a part without one. -/
theorem readPair_pairs : cookiePairs cookie = (readPair cookie).1.toList ++
      (readPair cookie).2.elim [] cookiePairs := by
  rw [← cookiePairs_dropWhile]
  have trimmed := rdropWhile_take cookie
  unfold readPair
  dsimp only
  generalize cookie.dropWhile cookieSkipped = name at trimmed
  split
  · rename_i missing
    refine cookiePairs_unpaired ?_
    cases strchr name 59 with
    | none => exact strchr_none missing
    | some end_ =>
      exact fun member => strchr_none missing (List.mem_of_mem_take member)
  rename_i equals found
  obtain ⟨-, clean, whole⟩ := strchr_some found
  split_ifs with early
  · obtain ⟨end_, ends, before⟩ := (Option.any_eq_true _ _).mp early
    refine cookiePairs_unpaired ?_
    rw [ends]
    exact fun member => clean
      (List.take_subset_take_left name (of_decide_eq_true before).le member)
  have separator : 59 ∉ name.take equals := by
    intro member
    obtain ⟨end_, before, ends⟩ := strchr_of_mem_take member
    rw [ends] at early
    exact early (decide_eq_true before)
  have pairs := @cookiePairs_paired _ (name.drop (equals + 1)) clean separator
  rw [← whole] at pairs
  rw [pairs, trimmed]
  rfl

theorem cookieLoop_eq (expected : Bytes) (cookie : Bytes) :
    cookieLoop expected cookie = firstValue (cookiePairs cookie) expected := by
  fun_induction cookieLoop expected cookie with
  | case1 => rfl
  | case2 cookie _ pair found =>
    rw [readPair_pairs, firstValue_append, firstValue_toList, found]
    rfl
  | case3 cookie _ missing last =>
    rw [readPair_pairs, firstValue_append, firstValue_toList, missing, last]
    rfl
  | case4 cookie _ missing rest left ih =>
    rw [readPair_pairs, firstValue_append, firstValue_toList, missing, left, ih]
    rfl

/-! ## Several fields -/

/-- The session cookie is found exactly if the first field has it or none has.
The fields of an HTTP/2 request stay apart. -/
theorem session_cookie_found_iff (sessionCookieName : Bytes)
    (request : RequestView) :
    (sessionCookieValue sessionCookieName request =
        firstValue (cookieInformation request.headers) sessionCookieName ↔
      ((∃ field ∈ cookieFields request.headers,
        ∃ pair ∈ cookiePairs field.2.bytes, pair.1 = sessionCookieName) →
        ∃ field ∈ (cookieFields request.headers).head?,
          ∃ pair ∈ cookiePairs field.2.bytes, pair.1 = sessionCookieName)) ∧
    ∀ limits extendedConnect fields stream,
      H2.FieldStorage.regularHeaders limits (.empty extendedConnect) fields =
        .ok stream →
        stream.fields = fields := by
  refine ⟨?_, fun limits extendedConnect fields stream accepted =>
    H2.FieldStorage.regularHeaders_fields fields accepted⟩
  unfold sessionCookieValue RequestView.header
  rw [findHeader_cookie, Option.bind_map]
  simp only [Function.comp_def, cookieLoop_eq]
  exact firstValue_head?_iff

/-- The fields of a request whose cookies are sent one by one. -/
def splitCookies : List (Bytes × Bytes) :=
  [(ascii "cookie", ascii "theme=dark"), (ascii "cookie", ascii "sid=0a1b")]

/-- A request with the fields which a stream holds. -/
def streamRequest (stream : H2.FieldStorage) : RequestView where
  method := .get
  headers := stream.headers
  session := none
  bodyStreamed := false
  bodySinkUser := false

/-- The session cookie in the second of two fields is not found. -/
theorem session_cookie_missed :
    ∃ stream, H2.FieldStorage.regularHeaders ⟨8, 256⟩ (.empty false)
      splitCookies = .ok stream ∧
    firstValue (cookieInformation (streamRequest stream).headers)
      (ascii "sid") = some (ascii "0a1b") ∧
    sessionCookieValue (ascii "sid") (streamRequest stream) = none := by
  refine ⟨_, rfl, ?_, ?_⟩
  · decide
  · decide +kernel

end Chttp.Server
