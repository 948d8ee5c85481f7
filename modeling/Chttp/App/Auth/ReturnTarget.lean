import Chttp.App.Auth.Target
import Chttp.App.FormEncoding
import Chttp.Lib.UrlReference

/-!
# Return targets stay and come back

The check of a target is a property of its octets and escapes.  It keeps a
target with the origin of the server, it is enough for the form parser to read a
query made of such targets, and the encoding of a target satisfies it again.
-/

namespace Chttp.App

open Lib Server
open AuthPolicy WebForm

/-! ## Targets -/

/-- What the loop of the check accepts from an index on. -/
inductive Allowed : Nat → Bytes → Prop where
  | nil (index : Nat) : Allowed index []
  | plain {index : Nat} {value : UInt8} {rest : Bytes}
      (allowed : forbiddenOctet value = false) (other : value ≠ percentSign)
      (behind : Allowed (index + 1) rest) : Allowed index (value :: rest)
  | escape {index : Nat} {first second high low : UInt8} {rest : Bytes}
      (firstValue : authHexValue first = some high)
      (secondValue : authHexValue second = some low)
      (allowed : forbiddenOctet (high * 16 + low) = false)
      (separate : ¬ (index = 1 ∧ high * 16 + low = 47))
      (behind : Allowed (index + 3) rest) :
      Allowed index (percentSign :: first :: second :: rest)

variable {index : Nat} {value : UInt8} {rest input : Bytes}

/-- One round of the loop accepts a character or an escape. -/
theorem allowed_cons_iff : Allowed index (value :: rest) ↔
    ∃ rest', targetStep index value rest = .ok rest' ∧
      Allowed (index + 1 + (rest.length - rest'.length)) rest' := by
  have three : ∀ length : Nat, index + 1 + (length + 1 + 1 - length) =
      index + 3 := by
    omega
  constructor
  · intro allowed
    cases allowed with
    | plain allowed other behind =>
      exact ⟨rest, by simp [targetStep, allowed, other], by simpa using behind⟩
    | @escape _ first second high low rest firstValue secondValue allowed
        separate behind =>
      refine ⟨rest, ?_, by simpa [three] using behind⟩
      have percent : forbiddenOctet percentSign = false := by decide
      simpa [targetStep, percent, firstValue, secondValue,
        allowed] using separate
  · rintro ⟨rest', step, behind⟩
    unfold targetStep at step
    split_ifs at step with forbidden escaped
    · split at step
      · split at step
        · rename_i high low firstValue secondValue
          split_ifs at step with refused
          cases step
          rw [not_or, Bool.not_eq_true] at refused
          subst escaped
          refine .escape firstValue secondValue refused.1 refused.2 ?_
          simpa [three] using behind
        · cases step
      · cases step
    · cases step
      exact .plain (Bool.not_eq_true _ ▸ forbidden) escaped
        (by simpa using behind)

theorem targetLoop_ok_iff : targetLoop index input = .ok () ↔
    Allowed index input := by
  fun_induction targetLoop index input with
  | case1 index => simp [Allowed.nil]
  | case2 index value rest error step => simp [allowed_cons_iff, step]
  | case3 index value rest rest' step ih => simp [allowed_cons_iff, step, ih]

theorem localTargetValidate_ok_iff {target : Bytes} {max : Nat} :
    localTargetValidate target max = .ok () ↔
      (max ≠ 0 ∧ max ≤ localTargetHardMax) ∧ target.head? = some 47 ∧
        target.length ≤ max ∧ target[1]? ≠ some 47 ∧ Allowed 0 target := by
  unfold localTargetValidate
  constructor
  · intro accepted
    split_ifs at accepted with limits origin long double
    exact ⟨by omega, Classical.not_not.mp origin, by omega, double,
      targetLoop_ok_iff.mp accepted⟩
  · rintro ⟨limits, origin, long, double, allowed⟩
    rw [if_neg (by omega), if_neg (not_not_intro origin), if_neg (by omega),
      if_neg double, targetLoop_ok_iff.mpr allowed]

theorem not_forbidden_of_digit {digit : UInt8}
    (digits : authHexValue value = some digit) :
    forbiddenOctet value = false := by
  have all : ∀ value, (authHexValue value).isSome = true →
      forbiddenOctet value = false :=
    forall_octet (by decide +kernel)
  exact all value (by simp [digits])

/-- No octet of an allowed text is a forbidden one. -/
theorem Allowed.octets (allowed : Allowed index input) :
    ∀ value ∈ input, forbiddenOctet value = false := by
  induction allowed with
  | nil => exact List.forall_mem_nil _
  | plain allowed _ _ ih => exact List.forall_mem_cons.mpr ⟨allowed, ih⟩
  | escape firstValue secondValue _ _ _ ih =>
    refine List.forall_mem_cons.mpr ⟨by decide, ?_⟩
    refine List.forall_mem_cons.mpr ⟨not_forbidden_of_digit firstValue, ?_⟩
    exact List.forall_mem_cons.mpr ⟨not_forbidden_of_digit secondValue, ih⟩

theorem Allowed.escaped (allowed : Allowed index input) :
    Percent.Escaped input := by
  induction allowed with
  | nil => exact .nil
  | plain _ other _ ih => exact .plain other ih
  | escape firstValue secondValue _ _ _ ih =>
    exact .escape firstValue secondValue ih

theorem allowed_plain
    (clean : ∀ value ∈ input, forbiddenOctet value = false ∧
      value ≠ percentSign) :
    Allowed index input := by
  induction input generalizing index with
  | nil => exact .nil index
  | cons value rest ih =>
    obtain ⟨⟨allowed, other⟩, others⟩ := List.forall_mem_cons.mp clean
    exact .plain allowed other (ih others)

/-- Allowed texts one behind the other are allowed. -/
theorem Allowed.append {text : Bytes} (allowed : Allowed index text)
    (behind : Allowed (index + text.length) rest) :
    Allowed index (text ++ rest) := by
  induction allowed with
  | nil => exact behind
  | @plain index value text allowed other _ ih =>
    refine .plain allowed other (ih ?_)
    rw [List.length_cons] at behind
    rwa [Nat.add_assoc, Nat.add_comm 1]
  | @escape index first second high low text firstValue secondValue allowed
      separate _ ih =>
      refine .escape firstValue secondValue allowed separate (ih ?_)
      simp only [List.length_cons] at behind
      rwa [show index + 3 + text.length = index + (text.length + 1 + 1 + 1) by
        omega]

theorem unreserved_plain (unreserved : authUnreserved value = true) :
    forbiddenOctet value = false ∧ value ≠ percentSign ∧ value ≠ 43 ∧
      value ≠ ampersand ∧ value ≠ equalsSign := by
  revert value
  exact @forall_octet _ (by decide +kernel)

theorem encodeTarget_cons (value : UInt8) (target : Bytes) :
    encodeTarget (value :: target) =
      encodeOctet value ++ encodeTarget target :=
  rfl

theorem allowed_encodeTarget (behind : 1 < index) {target : Bytes}
    (clean : ∀ value ∈ target, forbiddenOctet value = false) :
    Allowed index (encodeTarget target) := by
  induction target generalizing index with
  | nil => exact .nil index
  | cons value target ih =>
    obtain ⟨allowed, others⟩ := List.forall_mem_cons.mp clean
    rw [encodeTarget_cons, encodeOctet]
    split_ifs with unreserved
    · obtain ⟨fine, other, -⟩ := unreserved_plain unreserved
      exact .plain fine other (ih (by omega) others)
    · refine .escape (Percent.digitValue_high value)
        (Percent.digitValue_low value) ?_ (by omega) (ih (by omega) others)
      rw [Percent.high_low]
      exact allowed

/-! ## Forms -/

variable (target : Bytes)

namespace WebForm

/-- The storage is enough for so much. -/
structure Ample (options : FormOptions) (size : Nat) : Prop where
  input : size ≤ options.maxInputBytes
  pairs : size ≤ options.maxPairs
  decoded : size ≤ options.maxDecodedBytes
  slots : size ≤ options.pairCapacity
  octets : size ≤ options.byteCapacity

theorem exists_percentDecoded {source : Bytes}
    (escaped : Percent.Escaped source) :
    ∃ text, PercentDecoded true source text := by
  induction escaped with
  | nil => exact ⟨_, .nil⟩
  | plain other _ ih =>
    obtain ⟨_, decoded⟩ := ih
    exact ⟨_, .plain other decoded⟩
  | escape firstValue secondValue _ ih =>
    obtain ⟨_, decoded⟩ := ih
    exact ⟨_, .escape firstValue secondValue decoded⟩

theorem percentDecoded_encodeTarget :
    PercentDecoded true (encodeTarget target) target := by
  induction target with
  | nil => exact .nil
  | cons value target ih =>
    rw [encodeTarget_cons, encodeOctet]
    split_ifs with unreserved
    · obtain ⟨-, other, noPlus, -⟩ := unreserved_plain unreserved
      simpa [noPlus] using @PercentDecoded.plain true _ _ _ other ih
    · have escape := @PercentDecoded.escape true _ _ _ _ _ _
        (Percent.digitValue_high value)
        (Percent.digitValue_low value) ih
      rwa [Percent.high_low] at escape

/-- A segment which the form parser reads. -/
structure Readable (segment : Bytes) : Prop where
  nonempty : segment ≠ []
  clean : ampersand ∉ segment
  named : segment.head? ≠ some equalsSign
  escaped : Percent.Escaped segment

theorem Readable.exists_encoded {segment : Bytes}
    (readable : Readable segment) :
    ∃ pair : FormPair, pair.name ≠ [] ∧ pair.Encoded segment := by
  obtain ⟨nonempty, -, named, escaped⟩ := readable
  obtain ⟨name, rest, rfl, clean, ends, -⟩ := exists_part equalsSign segment
  have escapes : Percent.Escaped name ∧ Percent.Escaped (rest.drop 1) := by
    rcases ends with rfl | first
    · rw [List.append_nil] at escaped
      exact ⟨escaped, .nil⟩
    · obtain ⟨value, rfl⟩ := List.head?_eq_some_iff.mp first
      exact escaped.cut (by decide) (by decide)
  obtain ⟨text, decoded⟩ := exists_percentDecoded escapes.1
  obtain ⟨value, valued⟩ := exists_percentDecoded escapes.2
  refine ⟨⟨text, value⟩, ?_, name, rest, rfl, clean, ends, decoded, valued⟩
  rintro rfl
  cases percentDecoded_to_nil.mp decoded
  exact ends.elim nonempty named

theorem not_mem_encodeTarget : ampersand ∉ encodeTarget target := by
  intro member
  obtain ⟨value, -, inside⟩ := List.mem_flatMap.mp member
  unfold encodeOctet at inside
  split_ifs at inside with unreserved
  · obtain ⟨-, -, -, other, -⟩ := unreserved_plain unreserved
    exact other (List.mem_singleton.mp inside).symm
  · have all : ∀ value, ampersand ∉ Percent.escape value :=
      forall_octet (by decide +kernel)
    exact all value inside

theorem encoded_target : FormPair.Encoded ⟨ascii "return_to", target⟩
    (parameter ++ encodeTarget target) := by
  have plain : encodeTarget (ascii "return_to") = ascii "return_to" := by
    decide
  have named := percentDecoded_encodeTarget (ascii "return_to")
  rw [plain] at named
  exact ⟨ascii "return_to", equalsSign :: encodeTarget target, rfl, by decide,
    .inr rfl,
    named, percentDecoded_encodeTarget target⟩

/-- Segments in front of the last one are pairs in front of its pair. -/
theorem exists_formEncoded {pair : FormPair} {last : Bytes}
    (single : FormEncoded [pair] last)
    {segments : List Bytes} (each : ∀ segment ∈ segments, Readable segment) :
    ∃ pairs, FormEncoded (pairs ++ [pair])
    ([ampersand].intercalate (segments ++ [last])) := by
  induction segments with
  | nil =>
    refine ⟨[], ?_⟩
    rwa [List.nil_append, List.nil_append, List.intercalate_singleton]
  | cons segment segments ih =>
    obtain ⟨readable, others⟩ := List.forall_mem_cons.mp each
    obtain ⟨first, named, encoded⟩ := readable.exists_encoded
    obtain ⟨pairs, behind⟩ := ih others
    refine ⟨first :: pairs, ?_⟩
    rw [List.cons_append, List.cons_append,
      intercalate_cons
        (List.append_ne_nil_of_right_ne_nil _ (List.cons_ne_nil _ _))]
    exact .cons named encoded readable.clean behind

theorem formEncoded_length_le {pairs : List FormPair} {input : Bytes}
    (encoded : FormEncoded pairs input) :
    pairs.length ≤ input.length ∧ FormPair.total pairs ≤ input.length := by
  have one : ∀ {pair : FormPair} {segment : Bytes}, pair.Encoded segment →
      pair.name.length + pair.value.length ≤ segment.length := by
    rintro pair _ ⟨name, rest, rfl, -, -, named, valued⟩
    have front := named.length_le
    have behind := valued.length_le
    rw [List.length_drop] at behind
    rw [List.length_append]
    omega
  induction encoded with
  | last named encoded =>
    have positive := List.length_pos_iff.mpr (encoded_ne_nil named encoded)
    exact ⟨positive, by simpa [FormPair.total] using one encoded⟩
  | cons named encoded _ _ ih =>
    have fits := one encoded
    simp only [List.length_append, List.length_cons, FormPair.total_cons]
    omega

end WebForm

/-! ## Destinations -/

/-- The query of a target. -/
def queryOf : Bytes := (target.dropWhile (· ≠ 63)).drop 1

/-- A target has no query, or a query whose segments all have a name. -/
def WholeQuery : Prop :=
  63 ∈ target → ∀ segment ∈ (queryOf target).splitOn ampersand,
    segment ≠ [] ∧ segment.head? ≠ some equalsSign

namespace AuthPolicy

theorem escaped_of_join {segments : List Bytes}
    (escaped : Percent.Escaped ([ampersand].intercalate segments)) :
    ∀ segment ∈ segments, Percent.Escaped segment := by
  induction segments with
  | nil => exact List.forall_mem_nil _
  | cons segment segments ih =>
    by_cases last : segments = []
    · subst last
      rw [List.intercalate_singleton] at escaped
      exact List.forall_mem_cons.mpr ⟨escaped, List.forall_mem_nil _⟩
    · rw [intercalate_cons last] at escaped
      obtain ⟨front, behind⟩ := escaped.cut (by decide) (by decide)
      exact List.forall_mem_cons.mpr ⟨front, ih behind⟩

/-- The target is the last segment of the query of its destination. -/
theorem query_destination {login : Bytes} (allowed : Allowed 0 login)
    (whole : WholeQuery login) :
    ∃ segments, (∀ segment ∈ segments, Readable segment) ∧
      queryOf (login ++ [if 63 ∈ login then 38 else 63] ++ parameter ++
        encodeTarget target) =
        [ampersand].intercalate
          (segments ++ [parameter ++ encodeTarget target]) := by
  obtain ⟨path, rest, cut, noMark, ends, -⟩ := exists_part 63 login
  have other : ∀ value ∈ path, decide (value ≠ 63) = true := by
    intro value member
    refine decide_eq_true ?_
    rintro rfl
    exact noMark member
  have query : ∀ behind : Bytes, queryOf (path ++ 63 :: behind) = behind := by
    intro behind
    unfold queryOf
    rw [List.dropWhile_append_of_pos other, List.dropWhile_cons,
      if_neg (by decide)]
    rfl
  rcases ends with rfl | first
  · -- the path has no query
    rw [List.append_nil] at cut
    subst cut
    refine ⟨[], List.forall_mem_nil _, ?_⟩
    rw [if_neg noMark, List.nil_append, List.intercalate_singleton,
      List.append_assoc, List.append_assoc]
    exact query _
  cases rest with
  | nil => cases first
  | cons mark rest =>
    cases Option.some.inj first
    subst cut
    have marked : 63 ∈ path ++ 63 :: rest :=
      List.mem_append_right _ List.mem_cons_self
    have named := whole marked
    rw [query rest] at named
    have escaped : Percent.Escaped rest :=
      (allowed.escaped.cut (by decide) (by decide)).2
    have joined := @List.intercalate_splitOn _ rest _ _ ampersand
    refine ⟨rest.splitOn ampersand, ?_, ?_⟩
    · intro segment member
      refine ⟨(named segment member).1, not_mem_of_mem_splitOn member,
        (named segment member).2, ?_⟩
      rw [← joined] at escaped
      exact escaped_of_join escaped segment member
    · have some : rest.splitOn ampersand ≠ [] := List.splitOnP_ne_nil _ rest
      rw [if_pos marked, intercalate_concat some, joined]
      simp only [List.append_assoc, List.cons_append]
      exact query _

theorem valid_spec {policy : AuthPolicy} (checked : policy.valid = true) :
    policy.loginPath.length ≤ loginPathHardMax ∧
      localTargetValidate policy.loginPath.bytes loginPathHardMax = .ok () ∧
      policy.maxReturnTargetBytes ≤ localTargetHardMax := by
  unfold valid at checked
  simp only [Bool.and_eq_true, decide_eq_true_eq] at checked
  obtain ⟨⟨⟨⟨short, -⟩, accepted⟩, bounded⟩, -⟩ := checked
  refine ⟨short, ?_, bounded⟩
  cases result : localTargetValidate policy.loginPath.bytes
    loginPathHardMax with
  | error error =>
    rw [result] at accepted
    cases accepted
  | ok => rfl

theorem loginDestination_ok {policy : AuthPolicy} {target : CString}
    (valid : policy.valid = true)
    (accepted : localTargetValidate target.bytes policy.maxReturnTargetBytes =
      .ok ())
    (included : policy.includeReturnTarget = true) :
    policy.loginDestination (some target) (loginDestinationHardMax + 1) =
      .ok (policy.loginPath.bytes ++
        [if 63 ∈ policy.loginPath.bytes then 38 else 63] ++ parameter ++
        encodeTarget target.bytes) := by
  obtain ⟨short, -, bounded⟩ := valid_spec valid
  obtain ⟨limits, -, long, -, -⟩ := localTargetValidate_ok_iff.mp accepted
  have fits : ¬ policy.maxReturnTargetBytes < target.length :=
    Nat.not_lt.mpr long
  have size : parameter.length = 10 := by decide
  have total : target.length ≤ localTargetHardMax := long.trans limits.2
  unfold loginDestination
  dsimp only
  rw [included, size, accepted]
  unfold loginDestinationHardMax loginPathHardMax localTargetHardMax at *
  rw [if_neg (by simp), if_neg (by omega), if_neg (by omega)]

/-- The destination of a target is a target. -/
theorem localTargetValidate_destination {login target : Bytes} {bound max : Nat}
    (path : localTargetValidate login bound = .ok ())
    (clean : ∀ value ∈ target, forbiddenOctet value = false)
    (small : max ≤ localTargetHardMax)
    (long : (login ++ [if 63 ∈ login then 38 else 63] ++ parameter ++
      encodeTarget target).length ≤ max) :
    localTargetValidate (login ++ [if 63 ∈ login then 38 else 63] ++
      parameter ++
      encodeTarget target) max = .ok () := by
  obtain ⟨-, origin, -, double, allowed⟩ := localTargetValidate_ok_iff.mp path
  cases login with
  | nil => cases origin
  | cons slash login =>
    have behind : ∀ index, Allowed index
        ([if 63 ∈ slash :: login then 38 else 63] ++ parameter) := by
      intro index
      split_ifs
      all_goals exact allowed_plain (by decide +kernel)
    refine localTargetValidate_ok_iff.mpr ⟨⟨?_, small⟩, origin, long, ?_, ?_⟩
    · rw [List.append_assoc, List.append_assoc, List.cons_append,
        List.length_cons] at long
      omega
    · cases login with
      | nil => split_ifs <;> nofun
      | cons second login => exact double
    · rw [List.append_assoc (slash :: login)]
      refine (allowed.append (behind _)).append (allowed_encodeTarget ?_ clean)
      simp only [List.length_append, List.length_cons]
      omega

end AuthPolicy

/-- **Return targets.**  A target which is accepted has the origin of every base
against which it is resolved.  A valid policy makes a destination of every
target which it accepts: the form parser, with enough storage, reads the target
as the last pair of its query, and unless it is too long for any bound the
destination is itself accepted. -/
theorem return_targets_stay_and_come_back :
    (∀ (target : Bytes) (max : Nat), localTargetValidate target max = .ok () →
      ∀ (Origin : Type) (rules : UrlReference.Rules Origin)
      (base : UrlReference.Base Origin),
        UrlReference.resolve rules base target = some base.origin) ∧
      ∀ (policy : AuthPolicy) (target : CString), policy.valid = true →
        WholeQuery policy.loginPath.bytes →
        localTargetValidate target.bytes policy.maxReturnTargetBytes = .ok () →
        (∀ error, policy.loginDestination (some target)
            (loginDestinationHardMax + 1) = .error error →
          error.status ≠ .capacity) ∧
        (policy.includeReturnTarget = true → ∃ destination,
          policy.loginDestination (some target)
          (loginDestinationHardMax + 1) = .ok destination ∧
            (∀ options, Ample options (queryOf destination).length →
              ∃ form, parse options (queryOf destination) = .ok form ∧
                form.pairs.getLast? =
                  some ⟨ascii "return_to", target.bytes⟩) ∧
            ∀ max, destination.length ≤ max → max ≤ localTargetHardMax →
              localTargetValidate destination max = .ok ()) := by
  constructor
  · intro target max accepted Origin rules base
    obtain ⟨-, origin, -, double, allowed⟩ :=
      localTargetValidate_ok_iff.mp accepted
    cases target with
    | nil => cases origin
    | cons slash rest =>
      cases Option.some.inj origin
      refine UrlReference.resolve_path rules base ?_ ?_
      · rw [List.head?_eq_getElem?]
        exact double
      intro value member
      have fine := allowed.octets value (List.mem_cons_of_mem _ member)
      unfold forbiddenOctet at fine
      simp only [Bool.or_eq_false_iff, decide_eq_false_iff_not,
        beq_eq_false_iff_ne] at fine
      exact ⟨fine.1.1.1, fine.1.2⟩
  intro policy target valid whole accepted
  constructor
  · intro error failed
    by_cases included : policy.includeReturnTarget = true
    · rw [loginDestination_ok valid accepted included] at failed
      cases failed
    unfold loginDestination at failed
    dsimp only at failed
    rw [if_pos (.inr (by simpa using included))] at failed
    cases failed
    exact WebStatus.noConfusion
  intro included
  obtain ⟨-, path, -⟩ := valid_spec valid
  obtain ⟨-, -, -, -, login⟩ := localTargetValidate_ok_iff.mp path
  obtain ⟨-, -, -, -, clean⟩ := localTargetValidate_ok_iff.mp accepted
  refine ⟨_, loginDestination_ok valid accepted included, ?_, ?_⟩
  · intro options ample
    obtain ⟨segments, readable, query⟩ :=
      query_destination target.bytes login whole
    rw [query] at ample ⊢
    have last : parameter ++ encodeTarget target.bytes ≠ [] :=
      List.append_ne_nil_of_left_ne_nil (by decide) _
    have apart : ampersand ∉ parameter ++ encodeTarget target.bytes := by
      intro member
      rcases List.mem_append.mp member with inside | inside
      · exact absurd inside (by decide)
      · exact not_mem_encodeTarget target.bytes inside
    obtain ⟨pairs, encoded⟩ := exists_formEncoded
      (.last (List.cons_ne_nil _ _) (encoded_target target.bytes) apart)
        readable
    obtain ⟨fewer, shorter⟩ := formEncoded_length_le encoded
    have some := formEncoded_ne_nil encoded
    have positive := List.length_pos_iff.mpr some
    obtain ⟨input, most, decoded, slots, octets⟩ := ample
    have read := @parseLoop_encoded options 0 0 _ [] _ encoded
      (by rw [FormOptions.slots, List.length_nil]; omega)
        (by rw [FormOptions.room]; omega)
    unfold parse
    rw [if_neg (by omega), if_neg some, if_neg (by omega)]
    exact ⟨_, read, List.getLast?_concat⟩
  · intro max long small
    exact localTargetValidate_destination path clean.octets small long

/-- A policy with a query in its path. -/
def plainPolicy (path : CString) : AuthPolicy where
  loginPath := path
  includeReturnTarget := true
  maxReturnTargetBytes := 4096

/-- Storage for a small form. -/
def smallForm : FormOptions where
  maxInputBytes := 64
  maxPairs := 64
  maxDecodedBytes := 64
  pairCapacity := 64
  byteCapacity := 64

/-- A target behind the query of the login page. -/
theorem return_targets_stay_and_come_back_query :
    ∃ destination, (plainPolicy ⟨ascii "/l?a=%20", by decide⟩).loginDestination
        (some ⟨ascii "/p?b", by decide⟩)
        (loginDestinationHardMax + 1) = .ok destination ∧
      ∃ form, parse smallForm (queryOf destination) = .ok form ∧
        form.pairs.getLast? = some ⟨ascii "return_to", ascii "/p?b"⟩ := by
  have whole : WholeQuery (ascii "/l?a=%20") := by
    intro _
    decide
  have accepted : localTargetValidate (ascii "/p?b") 4096 = .ok () := by
    decide +kernel
  obtain ⟨destination, result, read, -⟩ :=
    (return_targets_stay_and_come_back.2
      (plainPolicy ⟨ascii "/l?a=%20", by decide⟩)
      ⟨ascii "/p?b", by decide +kernel⟩
        (by decide +kernel) whole accepted).2 rfl
  refine ⟨destination, result, read smallForm ?_⟩
  have known : (plainPolicy ⟨ascii "/l?a=%20", by decide⟩).loginDestination
      (some ⟨ascii "/p?b", by decide⟩) (loginDestinationHardMax + 1) =
        .ok (ascii "/l?a=%20&return_to=%2Fp%3Fb") := by
    decide +kernel
  rw [known] at result
  cases result
  exact ⟨by decide, by decide, by decide, by decide, by decide⟩

/-- A target which the encoding makes three times as long. -/
def longTarget : CString where
  bytes := 47 :: List.replicate 1400 63
  unterminated := by decide +kernel

/-- A segment without a name is a segment which is not empty, and the form
parser refuses it; and the destination of a long target is longer than every
bound which may be set. -/
theorem return_targets_get_lost :
    (plainPolicy ⟨ascii "/l?=v", by decide⟩).valid = true ∧
    [] ∉ (queryOf (ascii "/l?=v")).splitOn ampersand ∧
    localTargetValidate (ascii "/") 4096 = .ok () ∧
    (plainPolicy ⟨ascii "/l?=v", by decide⟩).loginDestination
      (some ⟨ascii "/", by decide⟩) (loginDestinationHardMax + 1) =
        .ok (ascii "/l?=v&return_to=%2F") ∧
    (parse smallForm (queryOf (ascii "/l?=v&return_to=%2F"))).toBool = false ∧
    (plainPolicy ⟨ascii "/l", by decide⟩).valid = true ∧
    localTargetValidate longTarget.bytes 4096 = .ok () ∧
    ∃ destination, (plainPolicy ⟨ascii "/l", by decide⟩).loginDestination
        (some longTarget) (loginDestinationHardMax + 1) = .ok destination ∧
      ∀ max, localTargetValidate destination max ≠ .ok () := by
  have valid : (plainPolicy ⟨ascii "/l", by decide⟩).valid = true := by
    decide +kernel
  have accepted : localTargetValidate longTarget.bytes 4096 = .ok () := by
    decide +kernel
  refine ⟨by decide +kernel, by decide +kernel, by decide +kernel,
    by decide +kernel, by decide +kernel, valid, accepted, _,
    loginDestination_ok valid accepted rfl, ?_⟩
  intro max destination
  obtain ⟨limits, -, long, -, -⟩ := localTargetValidate_ok_iff.mp destination
  have short := long.trans limits.2
  revert short
  decide +kernel

end Chttp.App
