import Mathlib.Data.List.TakeWhile
import Chttp.Lib.Bytes

/-!
# The scanner of request heads

In front of the HTTP/1 parser a scanner counts the octets of the start line and
of the header section against their budgets and finds the end of the head.
Between two carriage returns it skips ahead.  `scanOctets` looks at every octet;
the two agree on every octet string, however it is cut.
-/

namespace Chttp.Server

open Lib

/-- `chttp_server_wire_phase`, as far as the head goes. -/
inductive WirePhase where
  | preamble
  | startLine
  | headers
  | headersPending
  deriving DecidableEq, Repr

/-- The fields of the parser which the scanner uses. -/
structure HeadScan where
  wirePhase : WirePhase
  startLineWireBytes : Nat
  headerWireBytes : Nat
  wireLineBytes : Nat
  wirePreviousWasCr : Bool
  maxStartLineWireBytes : Nat
  maxHeaderBytes : Nat
  deriving DecidableEq, Repr

/-- What a call tells: the octets all belong to the head, or the head ends in
front of an octet, or an octet is refused with a status. -/
inductive HeadVerdict where
  | more
  | complete (size : Nat)
  | failed (httpStatus index : Nat)
  deriving DecidableEq, Repr

namespace HeadScan

/-- An octet in front of or in the start line. -/
def startOctet (scan : HeadScan) (octet : UInt8) : HeadScan :=
  let scan := { scan with startLineWireBytes := scan.startLineWireBytes + 1 }
  if scan.wirePhase = .preamble then
    if octet ≠ 13 ∧ octet ≠ 10 then
      { scan with
        wirePhase := .startLine, wireLineBytes := 1,
        wirePreviousWasCr := octet == 13 }
    else
      scan
  else if scan.wirePreviousWasCr ∧ octet = 10 then
    { scan with
      wirePhase := .headers, wireLineBytes := 0, wirePreviousWasCr := false }
  else
    { scan with
      wireLineBytes := scan.wireLineBytes + 1,
      wirePreviousWasCr := octet == 13 }

/-- An octet of the header section; the flag tells whether it is the last. -/
def headerOctet (scan : HeadScan) (octet : UInt8) : HeadScan × Bool :=
  let scan :=
    { scan with
      headerWireBytes := scan.headerWireBytes + 1, wireLineBytes :=
        scan.wireLineBytes + 1 }
  if scan.wirePreviousWasCr ∧ octet = 10 then
    if scan.wireLineBytes = 2 then
      ({ scan with wirePhase := .headersPending }, true)
    else
      ({ scan with wireLineBytes := 0, wirePreviousWasCr := false }, false)
  else
    ({ scan with wirePreviousWasCr := octet == 13 }, false)

/-- Octets of the header section which are skipped. -/
def skip (scan : HeadScan) (consumed : Nat) : HeadScan :=
  { scan with
    headerWireBytes := scan.headerWireBytes + consumed
    wireLineBytes := scan.wireLineBytes + consumed
    wirePreviousWasCr := false }

end HeadScan

/-- `chttp_server_parser_scan_head` from an index on. -/
def scanHead (scan : HeadScan) (index : Nat) : Bytes → HeadScan × HeadVerdict
  | [] => (scan, .more)
  | octet :: rest =>
    if scan.wirePhase = .preamble ∨ scan.wirePhase = .startLine then
      if scan.maxStartLineWireBytes ≤ scan.startLineWireBytes then
        (scan, .failed 400 index)
      else
        scanHead (scan.startOctet octet) (index + 1) rest
    else if scan.maxHeaderBytes ≤ scan.headerWireBytes then
      (scan, .failed 431 index)
    else if rest ≠ [] ∧ octet ≠ 13 ∧ octet ≠ 10 then
      let scanSize :=
        min (rest.length + 1) (scan.maxHeaderBytes - scan.headerWireBytes)
      -- the length of the octets where there is no carriage return among them
      let consumed := ((octet :: rest).take scanSize).findIdx (· == 13)
      scanHead (scan.skip consumed) (index + consumed)
        (rest.drop (consumed - 1))
    else
      let next := scan.headerOctet octet
      if next.2 then
        (next.1, .complete (index + 1))
      else
        scanHead next.1 (index + 1) rest
termination_by input => input.length

/-- A scanner which counts one octet after the other against its budget. -/
def scanOctets (scan : HeadScan) (index : Nat) :
    Bytes → HeadScan × HeadVerdict
  | [] => (scan, .more)
  | octet :: rest =>
    match scan.wirePhase with
    | .preamble | .startLine =>
      if scan.maxStartLineWireBytes ≤ scan.startLineWireBytes then
        (scan, .failed 400 index)
      else scanOctets (scan.startOctet octet) (index + 1) rest
    | .headers | .headersPending =>
      if scan.maxHeaderBytes ≤ scan.headerWireBytes then
        (scan, .failed 431 index)
      else
        match scan.headerOctet octet with
        | (scan, true) => (scan, .complete (index + 1))
        | (scan, false) => scanOctets scan (index + 1) rest

/-- One call of a scanner after another, up to the end of the head or a
refusal. -/
def scanCalls (scanner : HeadScan → Nat → Bytes → HeadScan × HeadVerdict)
    (scan : HeadScan) : List Bytes → HeadScan × List HeadVerdict
  | [] => (scan, [])
  | segment :: segments =>
    match scanner scan 0 segment with
    | (scan, .more) =>
      let rest := scanCalls scanner scan segments
      (rest.1, .more :: rest.2)
    | (scan, verdict) => (scan, [verdict])

/-- An octet is counted in the start line or in the header section. -/
theorem scanOctets_cons (scan : HeadScan) (index : Nat) (octet : UInt8)
    (rest : Bytes) :
    scanOctets scan index (octet :: rest) =
      if scan.wirePhase = .preamble ∨ scan.wirePhase = .startLine then
        if scan.maxStartLineWireBytes ≤ scan.startLineWireBytes then
          (scan, .failed 400 index)
        else scanOctets (scan.startOctet octet) (index + 1) rest
      else if scan.maxHeaderBytes ≤ scan.headerWireBytes then
        (scan, .failed 431 index)
      else if (scan.headerOctet octet).2 then
        ((scan.headerOctet octet).1, .complete (index + 1))
      else scanOctets (scan.headerOctet octet).1 (index + 1) rest := by
  have counted : (match scan.headerOctet octet with
      | (scan, true) => (scan, HeadVerdict.complete (index + 1))
      | (scan, false) => scanOctets scan (index + 1) rest) =
      if (scan.headerOctet octet).2 then
        ((scan.headerOctet octet).1, .complete (index + 1))
      else scanOctets (scan.headerOctet octet).1 (index + 1) rest := by
    rcases scan.headerOctet octet with ⟨next, - | -⟩ <;> rfl
  rw [scanOctets, counted]
  cases scan.wirePhase with
  | preamble => exact (if_pos (.inl rfl)).symm
  | startLine => exact (if_pos (.inr rfl)).symm
  | headers | headersPending => exact (if_neg (by decide)).symm

section

variable {scan : HeadScan}
  (inHeaders : ¬(scan.wirePhase = .preamble ∨ scan.wirePhase = .startLine))

include inHeaders

theorem scanOctets_ordinary {octet : UInt8}
    (budget : scan.headerWireBytes < scan.maxHeaderBytes)
    (ordinary : octet ≠ 13) (calm : octet ≠ 10 ∨ scan.wirePreviousWasCr = false)
    (index : Nat)
    (rest : Bytes) : scanOctets scan index (octet :: rest) =
      scanOctets (scan.skip 1) (index + 1) rest := by
  have next : scan.headerOctet octet = (scan.skip 1, false) := by
    rw [HeadScan.headerOctet]
    simp only
    rw [if_neg (by rcases calm with calm | calm <;> simp [calm])]
    simp [HeadScan.skip, ordinary]
  rw [scanOctets_cons, if_neg inHeaders, if_neg (by omega), next]
  rfl

theorem scanOctets_skip {run : Bytes} (ordinary : ∀ octet ∈ run, octet ≠ 13)
    (budget : scan.headerWireBytes + run.length ≤ scan.maxHeaderBytes)
    (calm : scan.wirePreviousWasCr = false) (index : Nat) (rest : Bytes) :
    scanOctets scan index (run ++ rest) =
      scanOctets (scan.skip run.length) (index + run.length) rest := by
  induction run generalizing scan index with
  | nil => simp [HeadScan.skip, ← calm]
  | cons octet run induction =>
    rw [List.length_cons] at budget
    have within : (scan.skip 1).headerWireBytes + run.length ≤
        scan.maxHeaderBytes := by
      simp only [HeadScan.skip]
      omega
    have further := @induction (scan.skip 1) inHeaders
      (fun other member => ordinary _ (List.mem_cons_of_mem _ member)) within
        rfl (index + 1)
    rw [List.cons_append, scanOctets_ordinary inHeaders (by omega)
      (ordinary _ List.mem_cons_self)
      (.inr calm), further]
    simp [HeadScan.skip, Nat.add_assoc, Nat.add_comm 1]

theorem scanOctets_ahead {octet : UInt8}
    (budget : scan.headerWireBytes < scan.maxHeaderBytes)
    (ordinary : octet ≠ 13 ∧ octet ≠ 10) (index : Nat) (rest : Bytes) :
    let scanSize :=
      min (rest.length + 1) (scan.maxHeaderBytes - scan.headerWireBytes)
    let consumed := ((octet :: rest).take scanSize).findIdx (· == 13)
    scanOctets scan index (octet :: rest) =
      scanOctets (scan.skip consumed) (index + consumed)
        (rest.drop (consumed - 1)) := by
  intro scanSize consumed
  generalize lengthEq : min (scanSize - 1) (rest.findIdx (· == 13)) = length
  have consumedEq : consumed = length + 1 := by
    simp only [consumed]
    rw [List.take_cons (by omega), List.findIdx_cons,
      beq_false_of_ne ordinary.1, cond_false,
      List.findIdx_take, lengthEq]
  have run : ∀ other ∈ rest.take length, other ≠ 13 := by
    intro other member
    rw [← lengthEq, ← List.take_take] at member
    have before : other ∈ rest.takeWhile fun octet => !(octet == 13) := by
      rw [List.takeWhile_eq_take_findIdx_not]
      simpa using List.mem_of_mem_take member
    simpa using List.mem_takeWhile_imp before
  have within :
      (scan.skip 1).headerWireBytes + (rest.take length).length ≤
        scan.maxHeaderBytes := by
    simp only [HeadScan.skip, List.length_take]
    omega
  have skipped := @scanOctets_skip (scan.skip 1) inHeaders _ run within rfl
    (index + 1)
    (rest.drop length)
  rw [List.take_append_drop, List.length_take,
    Nat.min_eq_left (by omega)] at skipped
  rw [scanOctets_ordinary inHeaders budget ordinary.1 (.inl ordinary.2),
    skipped, consumedEq]
  simp [HeadScan.skip, Nat.add_assoc, Nat.add_comm 1]

end

/-- Skipping leaves no trace in a call. -/
theorem scanHead_bulk (scan : HeadScan) (index : Nat) (input : Bytes) :
    scanHead scan index input = scanOctets scan index input := by
  fun_induction scanHead scan index input with
  | case1 => rw [scanOctets]
  | case2 scan index octet rest inStart spent =>
    rw [scanOctets_cons, if_pos inStart, if_pos spent]
  | case3 scan index octet rest inStart unspent further =>
    rw [scanOctets_cons, if_pos inStart, if_neg unspent, further]
  | case4 scan index octet rest inHeaders spent =>
    rw [scanOctets_cons, if_neg inHeaders, if_pos spent]
  | case5 scan index octet rest inHeaders unspent ordinary scanSize consumed
      further =>
    rw [further]
    exact (scanOctets_ahead inHeaders (Nat.lt_of_not_le unspent) ordinary.2
      index rest).symm
  | case6 scan index octet rest inHeaders unspent unskipped next last =>
    rw [scanOctets_cons, if_neg inHeaders, if_neg unspent]
    exact (if_pos last).symm
  | case7 scan index octet rest inHeaders unspent unskipped next going
      further =>
    rw [scanOctets_cons, if_neg inHeaders, if_neg unspent, further]
    exact (if_neg going).symm

/--
The bulk skip is invisible: over any number of calls, a scanner which skips and
one which looks at every octet end in the same state, give the same verdicts
and refuse the same octet.
-/
theorem scanCalls_bulk (scan : HeadScan) (segments : List Bytes) :
    scanCalls scanHead scan segments = scanCalls scanOctets scan segments := by
  induction segments generalizing scan with
  | nil => rfl
  | cons segment segments further =>
    simp only [scanCalls, scanHead_bulk, further]

/-! ## Segments -/

/-- The verdict on octets which follow others. -/
def HeadVerdict.behind (offset : Nat) : HeadVerdict → HeadVerdict
  | .more => .more
  | .complete size => .complete (offset + size)
  | .failed httpStatus index => .failed httpStatus (offset + index)

theorem HeadVerdict.behind_behind (verdict : HeadVerdict) (first second : Nat) :
    (verdict.behind second).behind first = verdict.behind (first + second) := by
  cases verdict <;> simp [behind, Nat.add_assoc]

theorem scanOctets_behind (scan : HeadScan) (offset index : Nat)
    (input : Bytes) :
    scanOctets scan (offset + index) input =
      Prod.map id (HeadVerdict.behind offset)
      (scanOctets scan index input) := by
  induction input generalizing scan index with
  | nil => simp [scanOctets, HeadVerdict.behind]
  | cons octet input further =>
    rw [scanOctets_cons, scanOctets_cons]
    split_ifs <;> simp [HeadVerdict.behind, Nat.add_assoc, further]

theorem scanOctets_append (scan : HeadScan) (index : Nat) (front back : Bytes) :
    scanOctets scan index (front ++ back) =
      match scanOctets scan index front with
      | (scan, .more) => scanOctets scan (front.length + index) back
      | refused => refused := by
  induction front generalizing scan index with
  | nil => simp [scanOctets]
  | cons octet front further =>
    rw [List.cons_append, scanOctets_cons, scanOctets_cons]
    split_ifs <;> simp [further, Nat.add_assoc, Nat.add_comm 1]

/-- However a head is cut, the calls end in the state and with the verdict of
one call on all its octets; the offset of the last call is what the calls
before it have taken. -/
theorem scanCalls_segmentation (scan : HeadScan) (segments : List Bytes) :
    let calls := scanCalls scanHead scan segments
    scanHead scan 0 segments.flatten =
      (calls.1, (calls.2.getLast?.getD .more).behind
        (segments.take (calls.2.length - 1)).flatten.length) := by
  dsimp only
  rw [scanHead_bulk]
  induction segments generalizing scan with
  | nil => simp [scanOctets, scanCalls, HeadVerdict.behind]
  | cons segment segments further =>
    rw [List.flatten_cons, scanOctets_append, scanCalls, scanHead_bulk]
    obtain ⟨next, verdict⟩ := scanOctets scan 0 segment
    cases verdict with
    | more =>
      dsimp only
      rw [scanOctets_behind, further]
      cases (scanCalls scanHead next segments).2 with
      | nil => simp [HeadVerdict.behind]
      | cons first others =>
        simp [HeadVerdict.behind_behind, List.getLast?_cons]
    | complete size => simp [HeadVerdict.behind]
    | failed httpStatus index => simp [HeadVerdict.behind]

end Chttp.Server
