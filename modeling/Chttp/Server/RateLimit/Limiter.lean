import Chttp.Lib.CString
import Chttp.Lib.Exact
import Chttp.Lib.Slots
import Chttp.Lib.TokenBucket
import Chttp.Server.Buffer
import Mathlib.Data.UInt

/-!
# The bounded rate limiter

The limiter stores a bucket for each identity it has seen lately, in an array
of fixed capacity.  A call refills the buckets it scans; a bucket which is full
again may be given to another identity.

Calls are serialised by the mutex of the limiter, so a run is a list of calls.
The array is its used front.
-/

namespace Chttp.Server

open Lib

/-- `chttp_rate_limit_scope`. -/
inductive RateScope where
  | global
  | peerIp
  | jwtSubject
  deriving DecidableEq, Repr

/-- `chttp_rate_limit_config`. -/
structure RateLimitConfig where
  scope : RateScope
  groupCapacity : UInt64
  burst : UInt32
  refillTokens : UInt32
  refillPeriodMs : UInt32
  keyBytes : UInt64
  deriving DecidableEq, Repr

/-- `CHTTP_RATE_LIMIT_KEY_BYTES`. -/
def rateLimitKeyBytes : UInt64 := 256

/-- What `chttp_rate_limiter_init` checks first. -/
def RateLimitConfig.Valid (config : RateLimitConfig) : Prop :=
  0 < config.groupCapacity ∧ 0 < config.burst ∧ 0 < config.refillTokens ∧
    0 < config.refillPeriodMs ∧
    (config.scope = .global → config.groupCapacity = 1) ∧
    (config.scope = .jwtSubject →
      2 ≤ config.keyBytes ∧ config.keyBytes ≤ rateLimitKeyBytes)

instance (config : RateLimitConfig) : Decidable config.Valid :=
  inferInstanceAs (Decidable (_ ∧ _))

/-- `chttp_rate_bucket`. -/
structure RateBucket where
  credit : UInt64
  updatedMs : UInt64
  key : Bytes
  deriving DecidableEq, Repr

/-- `chttp_rate_limit_impl`. -/
structure RateLimiter where
  config : RateLimitConfig
  valid : config.Valid
  buckets : List RateBucket
  lastMs : UInt64
  maximumCredit : UInt64
  deriving DecidableEq, Repr

/-- The largest number of buckets of 280 bytes in a `size_t`. -/
def rateBucketLimit : UInt64 := 0xffffffffffffffff / 280

/-- `SALTS_ERANGE`; its number belongs to the base library. -/
def erange : Status := .other 34

/-- `chttp_rate_limiter_init` on a handle without a limiter. -/
def rateLimiterInit (config : RateLimitConfig) (allocated : Bool) :
    Exact (Except Status RateLimiter) :=
  if valid : config.Valid then
    if rateBucketLimit < config.groupCapacity then
      pure (.error erange)
    else if allocated then do
      let maximumCredit ← Exact.mul config.burst.toUInt64
        config.refillPeriodMs.toUInt64
      pure (.ok ⟨config, valid, [], 0, maximumCredit⟩)
    else
      pure (.error .enomem)
  else
    pure (.error .einval)

/-- The address families which the limiter tells apart. -/
inductive AddressFamily where
  | ipv4
  | ipv6
  | other
  deriving DecidableEq, Repr

/-- `cnet_stream_peer`. -/
structure StreamPeer where
  family : AddressFamily
  address : Vector UInt8 16
  scopeId : UInt32
  deriving DecidableEq, Repr

/-- `chttp_jwt_claims_view`. -/
structure JwtClaims where
  issuer : Option CString
  subject : Option CString
  deriving DecidableEq, Repr

/-- What the limiter reads of a request. -/
structure RateRequest where
  peer : Option StreamPeer
  jwtClaims : Option JwtClaims
  deriving DecidableEq, Repr

/-- `chttp_server_admission_result`, and the status of the call. -/
inductive Admission where
  | failed (status : Status)
  | admitted
  | rejected (statusCode : Nat) (retryAfterSeconds : UInt32)
  deriving DecidableEq, Repr

/-- The bytes of a word in memory. -/
def wordBytes (word : UInt32) : Bytes :=
  [word.toUInt8, (word >>> 8).toUInt8, (word >>> 16).toUInt8,
    (word >>> 24).toUInt8]

/-- The loop of `rate_key` which appends the issuer and the subject. -/
def rateKeyParts (keyBytes : UInt64) (key : Bytes) :
    List CString → Exact (Except Admission Bytes)
  | [] => pure (.ok key)
  | part :: parts => do
      let remaining ← Exact.sub keyBytes (UInt64.ofNat key.length)
      if part.lengthUpTo remaining.toNat = remaining.toNat then
        pure (.error (.rejected 431 0))
      else
        rateKeyParts keyBytes (key ++ part.terminated) parts

section

/- The numbers of the address families belong to the network library. -/
variable (familyByte : AddressFamily → UInt8)

/-- `rate_key`. -/
def rateKey (config : RateLimitConfig) (request : RateRequest) :
    Exact (Except Admission Bytes) :=
  match config.scope with
  | .global => pure (.ok [])
  | .peerIp =>
    match request.peer with
    | none => pure (.error (.failed .einval))
    | some peer =>
      match peer.family with
      | .other => pure (.error (.failed .einval))
      | .ipv4 =>
        pure (.ok (familyByte .ipv4 :: peer.address.toList.take 4))
      | .ipv6 =>
        pure (.ok (familyByte .ipv6 ::
          (peer.address.toList.take 16 ++ wordBytes peer.scopeId)))
  | .jwtSubject =>
    match request.jwtClaims with
    | none => pure (.error (.rejected 403 0))
    | some claims =>
      match claims.subject with
      | none => pure (.error (.rejected 403 0))
      | some subject =>
        if subject.bytes = [] then
          pure (.error (.rejected 403 0))
        else
          rateKeyParts config.keyBytes [] [claims.issuer.getD CString.empty,
            subject]

/-- `rate_ceil_div`. -/
def rateCeilDiv (value divisor : UInt64) : Exact UInt64 :=
  Exact.add (value / divisor) (if value % divisor ≠ 0 then 1 else 0)

namespace RateLimiter

variable (limiter : RateLimiter) (key : Bytes) (nowMs : UInt64)

/-- `rate_refill`. -/
def rateRefill (bucket : RateBucket) (nowMs : UInt64) : Exact RateBucket := do
  let missing ← Exact.sub limiter.maximumCredit bucket.credit
  let elapsed ← Exact.sub nowMs bucket.updatedMs
  let enough ← rateCeilDiv missing limiter.config.refillTokens.toUInt64
  if enough ≤ elapsed then
    pure { bucket with credit := limiter.maximumCredit, updatedMs := nowMs }
  else
    let gained ← Exact.mul elapsed limiter.config.refillTokens.toUInt64
    let credit ← Exact.add bucket.credit gained
    pure { bucket with credit := credit, updatedMs := nowMs }

/-- Where the scan of the buckets ended. -/
structure Scan where
  buckets : List RateBucket
  selected : Option Nat
  reusable : Option Nat
  deriving DecidableEq, Repr

/-- The loop of `chttp_rate_limiter_admit_at` past the buckets in `scanned`. -/
def scan (limiter : RateLimiter) (key : Bytes) (nowMs : UInt64)
    (scanned : List RateBucket) (reusable : Option Nat) :
    List RateBucket → Exact Scan
  | [] => pure ⟨scanned, none, reusable⟩
  | bucket :: rest => do
      let bucket ← limiter.rateRefill bucket nowMs
      if bucket.key = key then
        pure ⟨scanned ++ bucket :: rest, some scanned.length, reusable⟩
      else
        limiter.scan key nowMs (scanned ++ [bucket])
          (if bucket.credit = limiter.maximumCredit then
            some scanned.length
          else
            reusable)
          rest

/-- The bucket for a key: the stored one, or a full one in a slot which is
free or holds a full bucket. -/
def select : Exact (RateLimiter × Option Nat) := do
  let scan ← limiter.scan key nowMs [] none limiter.buckets
  let limiter :=
    { limiter with lastMs := nowMs, buckets := scan.buckets }
  let fresh : RateBucket := ⟨limiter.maximumCredit, nowMs, key⟩
  match scan.selected, scan.reusable with
  | some index, _ => pure (limiter, some index)
  | none, some index =>
    pure ({ limiter with buckets := scan.buckets.set index fresh },
      some index)
  | none, none =>
    if scan.buckets.length < limiter.config.groupCapacity.toNat then
      pure ({ limiter with buckets := scan.buckets ++ [fresh] },
        some scan.buckets.length)
    else
      pure (limiter, none)

/-- Charge the selected bucket for a request. -/
def charge (index : Nat) : Exact (RateLimiter × Admission) :=
  match limiter.buckets[index]? with
  | none => Exact.fault (limiter, .failed .einval)
  | some bucket =>
    if bucket.credit < limiter.config.refillPeriodMs.toUInt64 then do
      let lacking ← Exact.sub limiter.config.refillPeriodMs.toUInt64
        bucket.credit
      let delayMs ← rateCeilDiv lacking limiter.config.refillTokens.toUInt64
      let seconds ← rateCeilDiv delayMs 1000
      let retryAfterSeconds ← Exact.low seconds
      pure (limiter, .rejected 429 retryAfterSeconds)
    else do
      let credit ← Exact.sub bucket.credit
        limiter.config.refillPeriodMs.toUInt64
      pure ({ limiter with
        buckets := limiter.buckets.set index { bucket with credit := credit } },
        .admitted)

/-- `chttp_rate_limiter_admit_at`. -/
def admitAt (request : RateRequest) (nowMs : UInt64) :
    Exact (RateLimiter × Admission) := do
  if nowMs < limiter.lastMs then
    pure (limiter, .failed .einval)
  else
    match ← rateKey familyByte limiter.config request with
    | .error answer => pure (limiter, answer)
    | .ok key =>
      match ← limiter.select key nowMs with
      | (limiter, none) => pure (limiter, .rejected 503 0)
      | (limiter, some index) => limiter.charge index

end RateLimiter

end

/-! ## The arithmetic -/

/-- The terms of the buckets: credit is counted in parts of a token, so that
a millisecond gains a whole number of them. -/
def RateLimitConfig.terms (config : RateLimitConfig) (valid : config.Valid) :
    BucketTerms where
  maximum := config.burst.toNat * config.refillPeriodMs.toNat
  gain := config.refillTokens.toNat
  price := config.refillPeriodMs.toNat
  price_le := Nat.le_mul_of_pos_left _ (UInt32.lt_iff_toNat_lt.mp valid.2.1)
  gain_pos := UInt32.lt_iff_toNat_lt.mp valid.2.2.1

/-- The terms of a limiter. -/
abbrev RateLimiter.terms (limiter : RateLimiter) : BucketTerms :=
  limiter.config.terms limiter.valid

theorem RateLimitConfig.maximum_lt (config : RateLimitConfig)
    (valid : config.Valid) : (config.terms valid).maximum < 2 ^ 64 := by
  have burst := config.burst.toNat_lt
  have period := config.refillPeriodMs.toNat_lt
  calc config.burst.toNat * config.refillPeriodMs.toNat
      ≤ (2 ^ 32 - 1) * (2 ^ 32 - 1) := Nat.mul_le_mul (by omega) (by omega)
    _ < 2 ^ 64 := by decide

theorem rateCeilDiv_yields {value divisor : UInt64}
    (positive : 0 < divisor.toNat) :
    (rateCeilDiv value divisor).Yields fun units =>
        units.toNat ≤ value.toNat ∧
          ∀ count : Nat, units.toNat ≤ count ↔
            value.toNat ≤ count * divisor.toNat := by
  have split := Nat.div_add_mod value.toNat divisor.toNat
  have below := Nat.mod_lt value.toNat positive
  have bound := value.toNat_lt
  have few : value.toNat / divisor.toNat ≤
      divisor.toNat * (value.toNat / divisor.toNat) :=
    Nat.le_mul_of_pos_left _ positive
  -- A rest needs one unit more.
  have more : (if value % divisor ≠ 0 then 1 else 0 : UInt64).toNat =
      if value.toNat % divisor.toNat = 0 then 0 else 1 := by
    rw [apply_ite UInt64.toNat, ite_not]
    simp [← UInt64.toNat_inj]
  have small : value.toNat / divisor.toNat +
      (if value.toNat % divisor.toNat = 0 then 0 else 1) ≤ value.toNat := by
    split_ifs <;> omega
  rw [← UInt64.toNat_div, ← more] at small
  refine (Exact.add_yields (small.trans_lt bound)).mono ?_
  intro units counted
  refine ⟨counted ▸ small, fun count => ?_⟩
  rw [counted, more, UInt64.toNat_div]
  split_ifs with rest
  · rw [Nat.add_zero, ← Nat.mul_le_mul_right_iff positive,
      Nat.div_mul_cancel (Nat.dvd_of_mod_eq_zero rest)]
  · rw [Nat.add_one_le_iff, Nat.div_lt_iff_lt_mul positive]
    refine ⟨Nat.le_of_lt,
      fun covered => Nat.lt_of_le_of_ne covered fun equal => rest ?_⟩
    rw [equal, Nat.mul_mod_left]

namespace RateBucket

variable (terms : BucketTerms)

/-- The fields of a bucket are in range at a time. -/
structure Fits (nowMs : UInt64) (bucket : RateBucket) : Prop where
  credit_le : bucket.credit.toNat ≤ terms.maximum
  updated_le : bucket.updatedMs.toNat ≤ nowMs.toNat

/-- The credit of a bucket at a time. -/
def creditAt (bucket : RateBucket) (time : Nat) : Nat :=
  terms.refilled bucket.credit.toNat (time - bucket.updatedMs.toNat)

/-- The same bucket, refilled at a time or not. -/
structure Later (nowMs : UInt64) (bucket bucket' : RateBucket) : Prop where
  key_eq : bucket'.key = bucket.key
  fits : bucket'.Fits terms nowMs
  credit_eq : ∀ time, nowMs.toNat ≤ time →
    bucket'.creditAt terms time = bucket.creditAt terms time

variable {terms}

variable {bucket : RateBucket} {nowMs : UInt64}

section

variable (fits : bucket.Fits terms nowMs)

include fits

/-- A bucket which fits now fits later. -/
theorem Fits.mono {laterMs : UInt64} (later : nowMs.toNat ≤ laterMs.toNat) :
    bucket.Fits terms laterMs :=
  ⟨fits.credit_le, fits.updated_le.trans later⟩

/-- A bucket which fits is its own later state. -/
theorem Fits.later : Later terms nowMs bucket bucket :=
  ⟨rfl, fits, fun _ _ => rfl⟩

theorem creditAt_creditAt {refilled : RateBucket}
    (updated : refilled.updatedMs = nowMs)
    (credit : refilled.credit.toNat = bucket.creditAt terms nowMs.toNat)
    {time : Nat}
    (after : nowMs.toNat ≤ time) :
    refilled.creditAt terms time = bucket.creditAt terms time := by
  have waited := fits.updated_le
  rw [creditAt, credit, updated, creditAt, terms.refilled_refilled, creditAt]
  congr 1
  omega

theorem creditAt_updated (updated : bucket.updatedMs = nowMs) :
    bucket.creditAt terms nowMs.toNat = bucket.credit.toNat := by
  rw [creditAt, updated, Nat.sub_self]
  exact terms.refilled_zero fits.credit_le

end

end RateBucket

variable (limiter : RateLimiter)

namespace RateLimiter

/-- `maximum_credit` is the product it is computed as. -/
def Scaled : Prop := limiter.maximumCredit.toNat = limiter.terms.maximum

theorem creditAt_full {limiter : RateLimiter} (scaled : limiter.Scaled)
    {bucket : RateBucket}
    (full : bucket.credit = limiter.maximumCredit) (time : Nat) :
    bucket.creditAt limiter.terms time = limiter.terms.maximum := by
  rw [RateBucket.creditAt, full, scaled, limiter.terms.refilled_maximum]

/-- A refill brings a bucket up to the present. -/
theorem rateRefill_yields {limiter : RateLimiter} (scaled : limiter.Scaled)
    {bucket : RateBucket}
    {nowMs : UInt64} (fits : bucket.Fits limiter.terms nowMs) :
    (limiter.rateRefill bucket nowMs).Yields fun refilled =>
        RateBucket.Later limiter.terms nowMs bucket refilled ∧
          refilled.updatedMs = nowMs := by
  have range : limiter.terms.maximum < 2 ^ 64 :=
    limiter.config.maximum_lt limiter.valid
  have gain : limiter.config.refillTokens.toUInt64.toNat = limiter.terms.gain :=
    UInt32.toNat_toUInt64 _
  have credit_le := fits.credit_le
  -- Both branches compute the credit at this time.
  have conclude : ∀ credit : UInt64,
    credit.toNat = bucket.creditAt limiter.terms nowMs.toNat →
        (pure { bucket with credit := credit, updatedMs := nowMs } :
          Exact RateBucket).Yields
          fun refilled =>
            RateBucket.Later limiter.terms nowMs bucket refilled ∧
              refilled.updatedMs = nowMs := by
    intro credit equal
    refine .pure ⟨⟨rfl, ⟨?_, le_rfl⟩, ?_⟩, rfl⟩
    · exact equal ▸ limiter.terms.refilled_le _ _
    · exact fun time after =>
        RateBucket.creditAt_creditAt fits rfl equal after
  refine (Exact.sub_yields (scaled ▸ credit_le)).bind fun missing missed => ?_
  refine (Exact.sub_yields fits.updated_le).bind fun elapsed passed => ?_
  refine (rateCeilDiv_yields (gain ▸ limiter.terms.gain_pos)).bind fun enough
    least => ?_
  have covers := least.2 elapsed.toNat
  rw [missed, gain, scaled, ← UInt64.le_iff_toNat_le] at covers
  split
  case isTrue waited =>
    have full := covers.mp waited
    refine conclude _ ?_
    rw [RateBucket.creditAt, BucketTerms.refilled, ← passed]
    exact scaled.trans (by omega)
  case isFalse early =>
    have lacking := mt covers.mpr early
    refine (Exact.mul_yields (by rw [gain]; omega)).bind fun gained product =>
      ?_
    rw [gain] at product
    refine (Exact.add_yields (by omega)).bind fun credit sum => ?_
    refine conclude _ ?_
    rw [RateBucket.creditAt, BucketTerms.refilled, ← passed]
    exact sum.trans (by omega)

end RateLimiter

/-! ## The stored buckets -/

/-- The credit of a key at a time: a key without a bucket has a full one. -/
def held (terms : BucketTerms) : List RateBucket → Bytes → Nat → Nat
  | [], _, _ => terms.maximum
  | bucket :: buckets, key, time =>
    if bucket.key = key then
      bucket.creditAt terms time
    else
      held terms buckets key time

variable {buckets buckets' : List RateBucket} {nowMs : UInt64}

section

variable {terms : BucketTerms}

theorem held_insert {front : List RateBucket} {bucket : RateBucket}
    (back : List RateBucket)
    (first : ∀ other ∈ front, other.key ≠ bucket.key) (key : Bytes)
    (time : Nat) :
    held terms (front ++ bucket :: back) key time =
      if bucket.key = key then
        bucket.creditAt terms time
      else
        held terms (front ++ back) key time := by
  induction front with
  | nil => rfl
  | cons other front ih =>
    have distinct := first other List.mem_cons_self
    have step := ih fun other member =>
      first other (List.mem_cons_of_mem _ member)
    simp only [List.cons_append, held, step]
    by_cases same : bucket.key = key
    · have differs : other.key ≠ key := same ▸ distinct
      simp only [if_neg differs, if_pos same]
    · simp only [if_neg same]

theorem held_of_absent {key : Bytes}
    (absent : ∀ bucket ∈ buckets, bucket.key ≠ key) (time : Nat) :
    held terms buckets key time = terms.maximum := by
  induction buckets with
  | nil => rfl
  | cons bucket buckets ih =>
    rw [List.forall_mem_cons] at absent
    rw [held, if_neg absent.1, ih absent.2]

section

variable (later : List.Forall₂ (RateBucket.Later terms nowMs) buckets buckets')

include later

theorem held_later (key : Bytes) {time : Nat} (after : nowMs.toNat ≤ time) :
    held terms buckets' key time = held terms buckets key time := by
  induction later with
  | nil => rfl
  | cons one _ ih => rw [held, held, one.key_eq, one.credit_eq time after, ih]

theorem keys_later : buckets'.map (·.key) = buckets.map (·.key) := by
  induction later with
  | nil => rfl
  | cons one _ ih => rw [List.map_cons, List.map_cons, one.key_eq, ih]

end

end

namespace RateLimiter

/-- What holds of a limiter between calls. -/
structure Sound (Key : Bytes → Prop) (limiter : RateLimiter) : Prop where
  scaled : limiter.Scaled
  few : limiter.buckets.length ≤ limiter.config.groupCapacity.toNat
  distinct : (limiter.buckets.map (·.key)).Nodup
  fits : ∀ bucket ∈ limiter.buckets, bucket.Fits limiter.terms limiter.lastMs
  keys : ∀ bucket ∈ limiter.buckets, Key bucket.key

/-- The slot at an index holds a bucket. -/
def Slot (buckets : List RateBucket) (index : Nat) (bucket : RateBucket) :
    Prop :=
  ∃ front back, buckets = front ++ bucket :: back ∧ front.length = index

/-- What the scan knows about full buckets. -/
def Spotted (buckets : List RateBucket) : Option Nat → Prop
  | some index =>
    ∃ bucket, Slot buckets index bucket ∧ bucket.credit = limiter.maximumCredit
  | none => ∀ bucket ∈ buckets, bucket.credit ≠ limiter.maximumCredit

/-- The buckets behind the scan. -/
def Passed (key : Bytes) (nowMs : UInt64) (buckets : List RateBucket) : Prop :=
  ∀ bucket ∈ buckets, bucket.updatedMs = nowMs ∧ bucket.key ≠ key

/-- What the scan has found. -/
def Found (key : Bytes) (nowMs : UInt64) (buckets : List RateBucket) :
    Option Nat → Option Nat → Prop
  | some index, _ =>
    ∃ bucket, Slot buckets index bucket ∧ bucket.updatedMs = nowMs ∧
      bucket.key = key
  | none, reusable =>
    Passed key nowMs buckets ∧ limiter.Spotted buckets reusable

variable {buckets front back : List RateBucket} {index : Nat}
  {bucket : RateBucket} {key : Bytes}
  {nowMs : UInt64}

/-- A slot stays when buckets are appended. -/
theorem Slot.append (slot : Slot buckets index bucket)
    (more : List RateBucket) :
    Slot (buckets ++ more) index bucket := by
  obtain ⟨front, back, rfl, length⟩ := slot
  exact ⟨front, back ++ more, by simp, length⟩

theorem Slot.get (slot : Slot buckets index bucket) :
    buckets[index]? = some bucket := by
  obtain ⟨front, back, rfl, rfl⟩ := slot
  simp

theorem Passed.snoc (passed : Passed key nowMs buckets)
    (updated : bucket.updatedMs = nowMs)
    (differs : bucket.key ≠ key) : Passed key nowMs (buckets ++ [bucket]) :=
  List.forall_mem_append.mpr
    ⟨passed, List.forall_mem_singleton.mpr ⟨updated, differs⟩⟩

theorem Spotted.snoc {limiter : RateLimiter} {reusable : Option Nat}
    (spotted : limiter.Spotted buckets reusable) (bucket : RateBucket) :
    limiter.Spotted (buckets ++ [bucket])
      (if bucket.credit = limiter.maximumCredit then
        some buckets.length
      else
        reusable) := by
  split
  case isTrue full =>
    exact ⟨bucket, ⟨buckets, [], rfl, rfl⟩, full⟩
  case isFalse lacking =>
    cases reusable with
    | some index =>
      obtain ⟨found, slot, full⟩ := spotted
      exact ⟨found, slot.append _, full⟩
    | none =>
      exact List.forall_mem_append.mpr
        ⟨spotted, List.forall_mem_singleton.mpr lacking⟩

/-- The scan refills what it passes, and finds the bucket of the key or knows
where a full one is. -/
theorem scan_yields {limiter : RateLimiter} (scaled : limiter.Scaled)
    (key : Bytes) (nowMs : UInt64) :
    ∀ {rest before scanned : List RateBucket} {reusable : Option Nat},
      (∀ bucket ∈ rest, bucket.Fits limiter.terms nowMs) →
      List.Forall₂ (RateBucket.Later limiter.terms nowMs) before scanned →
      Passed key nowMs scanned → limiter.Spotted scanned reusable →
      (limiter.scan key nowMs scanned reusable rest).Yields fun scan =>
          List.Forall₂ (RateBucket.Later limiter.terms nowMs)
          (before ++ rest) scan.buckets ∧
            limiter.Found key nowMs scan.buckets scan.selected
              scan.reusable := by
  intro rest
  induction rest with
  | nil =>
    intro before scanned reusable _ later passed spotted
    rw [List.append_nil]
    exact .pure ⟨later, passed, spotted⟩
  | cons bucket rest ih =>
    intro before scanned reusable fits later passed spotted
    have first := fits bucket List.mem_cons_self
    have others := fun other member =>
      fits other (List.mem_cons_of_mem bucket member)
    refine (rateRefill_yields scaled first).bind ?_
    rintro refilled ⟨one, updated⟩
    split
    case isTrue same =>
      refine .pure ⟨?_, refilled, ?_, updated, same⟩
      · refine List.rel_append later (.cons one ?_)
        exact List.forall₂_same.mpr fun other member =>
          (others other member).later
      · exact ⟨scanned, rest, rfl, rfl⟩
    case isFalse differs =>
      have step := ih others (List.rel_append later (.cons one .nil))
        (passed.snoc updated differs) (spotted.snoc refilled)
      simpa only [List.append_assoc, List.singleton_append] using step

section

variable {Key : Bytes → Prop} {limiter : RateLimiter}

theorem Sound.refilled (sound : limiter.Sound Key)
    (later : List.Forall₂ (RateBucket.Later limiter.terms nowMs) limiter.buckets
      buckets) :
    Sound Key { limiter with lastMs := nowMs, buckets := buckets } where
  scaled := sound.scaled
  few := later.length_eq ▸ sound.few
  distinct := keys_later later ▸ sound.distinct
  fits bucket member := by
    obtain ⟨_, _, one⟩ := exists_of_forall₂ (.flip later) member
    exact one.fits
  keys bucket member := by
    obtain ⟨_, before, one⟩ := exists_of_forall₂ (.flip later) member
    exact one.key_eq ▸ sound.keys _ before

theorem Sound.insert (sound : limiter.Sound Key)
    (sublist : (front ++ back).Sublist limiter.buckets)
    (room : (front ++ back).length < limiter.config.groupCapacity.toNat)
    (absent : ∀ other ∈ front ++ back, other.key ≠ bucket.key)
    (fits : bucket.Fits limiter.terms limiter.lastMs) (key : Key bucket.key) :
    Sound Key { limiter with buckets := front ++ bucket :: back } where
  scaled := sound.scaled
  few := by
    have length : (front ++ bucket :: back).length =
        (front ++ back).length + 1 := by
      simp only [List.length_append, List.length_cons]
      omega
    exact length ▸ room
  distinct := by
    rw [List.map_append, List.map_cons, List.nodup_middle, List.nodup_cons,
      ← List.map_append]
    refine ⟨?_, sound.distinct.sublist (sublist.map _)⟩
    intro member
    obtain ⟨other, present, same⟩ := List.mem_map.mp member
    exact absent other present same
  fits other member := by
    rcases List.mem_cons.mp (List.perm_middle.mem_iff.mp member) with rfl | old
    · exact fits
    · exact sound.fits other (sublist.subset old)
  keys other member := by
    rcases List.mem_cons.mp (List.perm_middle.mem_iff.mp member) with rfl | old
    · exact key
    · exact sound.keys other (sublist.subset old)

/-- The other buckets: fewer than the capacity, and with other keys. -/
theorem Sound.around (sound : limiter.Sound Key)
    (buckets : limiter.buckets = front ++ bucket :: back) :
    (front ++ back).Sublist limiter.buckets ∧
      (front ++ back).length < limiter.config.groupCapacity.toNat ∧
      ∀ other ∈ front ++ back, other.key ≠ bucket.key := by
  have few := sound.few
  have distinct := sound.distinct
  rw [buckets] at few distinct ⊢
  refine ⟨(List.sublist_cons_self bucket back).append_left front, ?_, ?_⟩
  · simp only [List.length_append, List.length_cons] at few ⊢
    omega
  · rw [List.map_append, List.map_cons, List.nodup_middle, List.nodup_cons,
      ← List.map_append] at distinct
    exact fun other member same =>
      distinct.1 (List.mem_map.mpr ⟨other, member, same⟩)

/-- The outcome of `select`. -/
def Placed (limiter : RateLimiter) (key : Bytes) (nowMs : UInt64)
    (buckets : List RateBucket) : Option Nat → Prop
  | some index =>
    ∃ bucket, Slot buckets index bucket ∧ bucket.updatedMs = nowMs ∧
      bucket.key = key
  | none =>
    limiter.buckets.length = limiter.config.groupCapacity.toNat ∧
      ∀ bucket ∈ limiter.buckets, bucket.key ≠ key ∧
          bucket.creditAt limiter.terms nowMs.toNat < limiter.terms.maximum

/-- Selecting a bucket changes no credit. -/
structure Selects (Key : Bytes → Prop) (limiter : RateLimiter) (key : Bytes)
    (nowMs : UInt64) (outcome : RateLimiter × Option Nat) : Prop where
  limiter_eq : outcome.1 =
    { limiter with lastMs := nowMs, buckets := outcome.1.buckets }
  sound : outcome.1.Sound Key
  held_eq : ∀ other time, nowMs.toNat ≤ time →
    held limiter.terms outcome.1.buckets other time =
      held limiter.terms limiter.buckets other time
  placed : limiter.Placed key nowMs outcome.1.buckets outcome.2

section

variable (sound : limiter.Sound Key)
  (later : List.Forall₂ (RateBucket.Later limiter.terms nowMs) limiter.buckets
    buckets)

include sound later

theorem Sound.selects_fresh (sublist : (front ++ back).Sublist buckets)
    (room : (front ++ back).length < limiter.config.groupCapacity.toNat)
    (absent : ∀ bucket ∈ buckets, bucket.key ≠ key) (known : Key key)
    (rest : ∀ other time, nowMs.toNat ≤ time →
      held limiter.terms (front ++ back) other time =
        held limiter.terms buckets other time) :
    Selects Key limiter key nowMs
      ({ limiter with
          lastMs := nowMs
          buckets := front ++ ⟨limiter.maximumCredit, nowMs, key⟩ :: back },
        some front.length) where
  limiter_eq := rfl
  sound := (sound.refilled later).insert sublist room
      (fun other member => absent other (sublist.subset member))
      ⟨sound.scaled.le, le_rfl⟩ known
  held_eq other time after := by
    rw [← held_later later other after, ← rest other time after,
      held_insert back fun bucket member =>
        absent bucket (sublist.subset (List.mem_append_left _ member))]
    split
    case isTrue same =>
      rw [creditAt_full sound.scaled rfl]
      refine (held_of_absent ?_ time).symm
      exact fun bucket member =>
        same ▸ absent bucket (sublist.subset member)
    case isFalse => rfl
  placed := ⟨_, ⟨front, back, rfl, rfl⟩, rfl, rfl⟩

theorem Sound.selects_none (passed : Passed key nowMs buckets)
    (lacking : ∀ bucket ∈ buckets, bucket.credit ≠ limiter.maximumCredit)
    (occupied : ¬ buckets.length < limiter.config.groupCapacity.toNat) :
    Selects Key limiter key nowMs
      ({ limiter with lastMs := nowMs, buckets := buckets }, none) where
  limiter_eq := rfl
  sound := sound.refilled later
  held_eq other time after := held_later later other after
  placed := by
    refine ⟨?_, fun bucket member => ?_⟩
    · have few := sound.few
      have length := later.length_eq
      omega
    obtain ⟨bucket', member', one⟩ := exists_of_forall₂ later member
    obtain ⟨updated, differs⟩ := passed bucket' member'
    refine ⟨one.key_eq ▸ differs, ?_⟩
    rw [← one.credit_eq _ le_rfl, RateBucket.creditAt_updated one.fits updated]
    refine lt_of_le_of_ne one.fits.credit_le fun full => ?_
    exact lacking bucket' member'
      (UInt64.toNat_inj.mp (full.trans sound.scaled.symm))

end

/-- A bucket is selected without a change of credit. -/
theorem select_yields (sound : limiter.Sound Key) (known : Key key)
    (ordered : limiter.lastMs.toNat ≤ nowMs.toNat) :
    (limiter.select key nowMs).Yields (Selects Key limiter key nowMs) := by
  have fits : ∀ bucket ∈ limiter.buckets, bucket.Fits limiter.terms nowMs :=
    fun bucket member => (sound.fits bucket member).mono ordered
  have start : limiter.Spotted [] none := List.forall_mem_nil _
  refine (scan_yields sound.scaled key nowMs fits .nil
    (List.forall_mem_nil _) start).bind ?_
  rintro ⟨buckets, selected, reusable⟩ ⟨later, found⟩
  rw [List.nil_append] at later
  dsimp only at later found ⊢
  match selected, reusable, found with
  | some index, _, ⟨bucket, slot, updated, same⟩ =>
    refine .pure ⟨rfl, sound.refilled later, ?_, ?_⟩
    · exact fun other time after => held_later later other after
    · exact ⟨bucket, slot, updated, same⟩
  | none, some index, ⟨passed, bucket, ⟨front, back, split, length⟩, full⟩ =>
    obtain ⟨sublist, room, others⟩ := (sound.refilled later).around split
    refine .pure ?_
    dsimp only at split sublist room
    have replaced : buckets.set index ⟨limiter.maximumCredit, nowMs, key⟩ =
        front ++ ⟨limiter.maximumCredit, nowMs, key⟩ :: back := by
      rw [split, ← length]
      simp
    rw [replaced, ← length]
    refine sound.selects_fresh later sublist room
      (fun other member => (passed other member).2) known ?_
    intro other time after
    rw [split, held_insert back fun bucket member =>
      others bucket (List.mem_append_left _ member)]
    split_ifs with same
    · rw [creditAt_full sound.scaled full]
      exact held_of_absent (fun bucket member => same ▸ others bucket member)
        time
    · rfl
  | none, none, ⟨passed, lacking⟩ =>
    split_ifs with room
    · have free : (buckets ++ []).length <
          limiter.config.groupCapacity.toNat := by
        rwa [List.append_nil]
      refine .pure ?_
      refine sound.selects_fresh later (by rw [List.append_nil]) free
        (fun other member => (passed other member).2) known ?_
      intro other time after
      rw [List.append_nil]
    · exact .pure (sound.selects_none later passed lacking room)

/-- The outcome of a charge. -/
inductive Charged (Key : Bytes → Prop) (limiter : RateLimiter) (key : Bytes)
    (nowMs : UInt64) : RateLimiter × Admission → Prop
  | admitted {buckets : List RateBucket}
      (enough : limiter.terms.price ≤
        held limiter.terms limiter.buckets key nowMs.toNat)
      (sound : Sound Key { limiter with buckets := buckets })
      (held_eq : ∀ other time, nowMs.toNat ≤ time →
        held limiter.terms buckets other time =
          if key = other then
            limiter.terms.refilled
              (held limiter.terms limiter.buckets key nowMs.toNat -
                limiter.terms.price)
              (time - nowMs.toNat)
          else
            held limiter.terms limiter.buckets other time) :
      Charged Key limiter key nowMs
        ({ limiter with buckets := buckets }, .admitted)
  | limited {retryAfterSeconds : UInt32}
      (lacking : held limiter.terms limiter.buckets key nowMs.toNat <
        limiter.terms.price)
      (waits : limiter.terms.price ≤
        held limiter.terms limiter.buckets key nowMs.toNat +
          retryAfterSeconds.toNat * 1000 * limiter.terms.gain) :
      Charged Key limiter key nowMs (limiter, .rejected 429 retryAfterSeconds)

section

variable (sound : limiter.Sound Key) (slot : Slot limiter.buckets index bucket)
  (updated : bucket.updatedMs = limiter.lastMs)

include sound slot updated

theorem Sound.held_slot :
    held limiter.terms limiter.buckets bucket.key limiter.lastMs.toNat =
      bucket.credit.toNat := by
  obtain ⟨front, back, split, _⟩ := slot
  obtain ⟨_, _, others⟩ := sound.around split
  have fits : bucket.Fits limiter.terms limiter.lastMs :=
    sound.fits bucket (split ▸ List.mem_append_right _ List.mem_cons_self)
  rw [split, held_insert back fun other member =>
    others other (List.mem_append_left _ member), if_pos rfl]
  exact RateBucket.creditAt_updated fits updated

/-- A bucket which can pay is charged. -/
theorem Sound.charged {credit : UInt64}
    (enough : limiter.terms.price ≤ bucket.credit.toNat)
    (paid : credit.toNat = bucket.credit.toNat - limiter.terms.price) :
    Charged Key limiter bucket.key limiter.lastMs
      ({ limiter with
         buckets := limiter.buckets.set index
           { bucket with credit := credit } },
        .admitted) := by
  have credit_eq := sound.held_slot slot updated
  obtain ⟨front, back, split, length⟩ := slot
  obtain ⟨sublist, room, others⟩ := sound.around split
  have fits : bucket.Fits limiter.terms limiter.lastMs :=
    sound.fits bucket (split ▸ List.mem_append_right _ List.mem_cons_self)
  have replaced : limiter.buckets.set index { bucket with credit := credit } =
      front ++ { bucket with credit := credit } :: back := by
    rw [split, ← length]
    simp
  rw [replaced]
  refine .admitted (credit_eq ▸ enough) ?_ ?_
  · refine sound.insert sublist room others ⟨?_, fits.updated_le⟩
      (sound.keys bucket (split ▸ List.mem_append_right _ List.mem_cons_self))
    have credit_le := fits.credit_le
    exact paid.le.trans (by omega)
  intro other time after
  have before : ∀ other ∈ front, other.key ≠ bucket.key :=
    fun other member => others other (List.mem_append_left _ member)
  rw [@held_insert _ front { bucket with credit := credit } back before]
  split_ifs with same
  · rw [RateBucket.creditAt, credit_eq, ← paid, updated]
  · rw [split, held_insert back before, if_neg same]

theorem charge_yields :
    (limiter.charge index).Yields
      (Charged Key limiter bucket.key limiter.lastMs) := by
  have gain : limiter.config.refillTokens.toUInt64.toNat = limiter.terms.gain :=
    UInt32.toNat_toUInt64 _
  have price : limiter.config.refillPeriodMs.toUInt64.toNat =
      limiter.terms.price :=
    UInt32.toNat_toUInt64 _
  have small : limiter.terms.price < 2 ^ 32 :=
    limiter.config.refillPeriodMs.toNat_lt
  have credit_eq := sound.held_slot slot updated
  rw [charge, slot.get]
  dsimp only
  split_ifs with lacking
  · rw [UInt64.lt_iff_toNat_lt, price] at lacking
    refine (Exact.sub_yields (price ▸ lacking.le)).bind fun missing missed => ?_
    refine (rateCeilDiv_yields (gain ▸ limiter.terms.gain_pos)).bind fun delayMs
      delayed => ?_
    refine (rateCeilDiv_yields (by decide)).bind fun seconds rounded => ?_
    -- Rounding up makes no wait longer than the missing credit.
    have bound : seconds.toNat < 2 ^ 32 := by
      have first := delayed.1
      have second := rounded.1
      omega
    refine (Exact.low_yields bound).bind fun retry retried => ?_
    refine .pure (.limited (credit_eq ▸ lacking) ?_)
    have long := (rounded.2 retry.toNat).mp retried.ge
    have covered := (delayed.2 (retry.toNat * 1000)).mp long
    rw [gain, missed, price] at covered
    rw [credit_eq]
    omega
  · rw [UInt64.lt_iff_toNat_lt, price, not_lt] at lacking
    refine (Exact.sub_yields (price ▸ lacking)).bind fun credit paid => ?_
    exact .pure (sound.charged slot updated lacking (price ▸ paid))

end

end

end RateLimiter

end Chttp.Server
