import Chttp.Server.RateLimit.Limiter

/-!
# The rate limiter refines ideal buckets

The specification has a bucket for every identity there is.  The limiter keeps
a few of them, yet answers as if it kept all: a bucket which is not stored is
full, and only a full one is forgotten.
-/

namespace Chttp.Server

open Lib

/-- Whom the limiter counts a request for. -/
inductive RateIdentity where
  | everyone
  | ipv4 (address : Vector UInt8 4)
  | ipv6 (address : Vector UInt8 16) (scopeId : UInt32)
  | holder (issuer subject : CString)
  deriving DecidableEq, Repr

variable (familyByte : AddressFamily → UInt8)

namespace RateIdentity

/-- The scope which tells such identities apart. -/
def scope : RateIdentity → RateScope
  | .everyone => .global
  | .ipv4 _ => .peerIp
  | .ipv6 _ _ => .peerIp
  | .holder _ _ => .jwtSubject

/-- The key of an identity. -/
def bytes : RateIdentity → Bytes
  | .everyone => []
  | .ipv4 address => familyByte .ipv4 :: address.toList
  | .ipv6 address scopeId =>
    familyByte .ipv6 :: (address.toList ++ wordBytes scopeId)
  | .holder issuer subject => issuer.terminated ++ subject.terminated

end RateIdentity

/-- The identity of a peer; port and, for IPv4, scope do not matter. -/
def StreamPeer.identity (peer : StreamPeer) : Option RateIdentity :=
  match peer.family with
  | .ipv4 => some (.ipv4 (peer.address.take 4))
  | .ipv6 => some (.ipv6 peer.address peer.scopeId)
  | .other => none

/-- The identity in the claims of a token, if it fits in a key. -/
def JwtClaims.identity (claims : JwtClaims) (keyBytes : Nat) :
    Option RateIdentity :=
  match claims.subject with
  | none => none
  | some subject =>
    let issuer := claims.issuer.getD CString.empty
    if subject.bytes ≠ [] ∧
      issuer.terminated.length + subject.terminated.length ≤ keyBytes then
      some (.holder issuer subject)
    else
      none

/-- The identity of a request. -/
def RateRequest.identity (config : RateLimitConfig) (request : RateRequest) :
    Option RateIdentity :=
  match config.scope with
  | .global => some .everyone
  | .peerIp => request.peer.bind StreamPeer.identity
  | .jwtSubject =>
    request.jwtClaims.bind fun claims =>
      claims.identity config.keyBytes.toNat

/-! ## Keys -/

theorem wordBytes_injective {word word' : UInt32}
    (same : wordBytes word = wordBytes word') : word = word' := by
  simp only [wordBytes, List.cons.injEq, and_true] at same
  obtain ⟨first, second, third, fourth⟩ := same
  have bound := word.toNat_lt
  have bound' := word'.toNat_lt
  replace first := congrArg UInt8.toNat first
  replace second := congrArg UInt8.toNat second
  replace third := congrArg UInt8.toNat third
  replace fourth := congrArg UInt8.toNat fourth
  simp only [UInt32.toNat_toUInt8, UInt32.toNat_shiftRight, UInt32.reduceToNat,
    Nat.reduceMod, Nat.shiftRight_eq_div_pow] at first second third fourth
  apply UInt32.toNat_inj.mp
  omega

theorem RateIdentity.bytes_injective {identity identity' : RateIdentity}
    (scope_eq : identity.scope = identity'.scope)
    (same : identity.bytes familyByte = identity'.bytes familyByte) :
    identity = identity' := by
  cases identity with
  | everyone =>
    cases identity' with
    | everyone => rfl
    | _ => cases scope_eq
  | ipv4 address =>
    cases identity' with
    | everyone | holder => cases scope_eq
    | ipv4 address' =>
      have equal := (List.cons.inj same).2
      exact congrArg _ (Vector.toList_inj.mp equal)
    | ipv6 address' scopeId' =>
      have length := congrArg List.length same
      simp [bytes, wordBytes] at length
  | ipv6 address scopeId =>
    cases identity' with
    | everyone | holder => cases scope_eq
    | ipv4 address' =>
      have length := congrArg List.length same
      simp [bytes, wordBytes] at length
    | ipv6 address' scopeId' =>
      have equal := (List.cons.inj same).2
      obtain ⟨addresses, scopes⟩ := List.append_inj equal (by simp)
      rw [Vector.toList_inj.mp addresses, wordBytes_injective scopes]
  | holder issuer subject =>
    cases identity' with
    | holder issuer' subject' =>
      obtain ⟨issuers, subjects⟩ := CString.terminated_append_injective same
      have subjects' : subject.terminated ++ [] =
          subject'.terminated ++ [] := by
        rw [subjects]
      rw [issuers, (CString.terminated_append_injective subjects').1]
    | _ => cases scope_eq

/-- The answers to requests without a key. -/
inductive Admission.Refusal : Admission → Prop
  | failed : Refusal (.failed .einval)
  | noSubject : Refusal (.rejected 403 0)
  | keyTooLong : Refusal (.rejected 431 0)

theorem rateKeyParts_yields (keyBytes : UInt64) (parts : List CString) :
    ∀ key : Bytes, key.length ≤ keyBytes.toNat →
      (rateKeyParts keyBytes key parts).Yields
        fun outcome =>
          if (key ++ parts.flatMap CString.terminated).length ≤
            keyBytes.toNat then
            outcome = .ok (key ++ parts.flatMap CString.terminated)
          else
            outcome = .error (.rejected 431 0) := by
  induction parts with
  | nil =>
    intro key fits
    refine .pure ?_
    rw [List.flatMap_nil, List.append_nil, if_pos fits]
  | cons part parts ih =>
    intro key fits
    have word : (UInt64.ofNat key.length).toNat = key.length :=
      UInt64.toNat_ofNat_of_lt' (lt_of_le_of_lt fits keyBytes.toNat_lt)
    have length : part.terminated.length = part.length + 1 := by
      rw [CString.terminated, List.length_append]
      rfl
    rw [rateKeyParts]
    refine (Exact.sub_yields (word.symm ▸ fits)).bind fun remaining left => ?_
    rw [word] at left
    rw [left, CString.lengthUpTo]
    by_cases full : min part.length (keyBytes.toNat - key.length) =
      keyBytes.toNat - key.length
    · rw [if_pos full]
      refine .pure ?_
      rw [if_neg]
      simp only [List.flatMap_cons, List.length_append]
      omega
    rw [if_neg full]
    have more : (key ++ part.terminated).length ≤ keyBytes.toNat := by
      rw [List.length_append]
      omega
    have step := ih (key ++ part.terminated) more
    rwa [List.append_assoc, ← List.flatMap_cons] at step

section

variable (familyByte : AddressFamily → UInt8) (config : RateLimitConfig)

/-- A request has a key exactly if it has an identity. -/
def KeyOf (request : RateRequest) (outcome : Except Admission Bytes) : Prop :=
  match request.identity config with
  | some identity => outcome = .ok (identity.bytes familyByte)
  | none => ∃ answer, outcome = .error answer ∧ answer.Refusal

/-- The key of a request is made of its identity. -/
theorem rateKey_yields (request : RateRequest) :
    (rateKey familyByte config request).Yields
      (KeyOf familyByte config request) := by
  rw [rateKey]
  unfold KeyOf RateRequest.identity
  cases config.scope with
  | global => exact .pure rfl
  | peerIp =>
    cases request.peer with
    | none => exact .pure ⟨_, rfl, .failed⟩
    | some peer =>
      obtain ⟨family, address, scopeId⟩ := peer
      cases family with
      | other => exact .pure ⟨_, rfl, .failed⟩
      | ipv4 =>
        refine .pure ?_
        dsimp only [Option.bind_some, StreamPeer.identity, RateIdentity.bytes]
        rw [Vector.toList_take]
      | ipv6 =>
        refine .pure ?_
        have whole : address.toList.take 16 = address.toList :=
          List.take_of_length_le (by simp)
        simp only [whole]
        rfl
  | jwtSubject =>
    cases request.jwtClaims with
    | none => exact .pure ⟨_, rfl, .noSubject⟩
    | some claims =>
      obtain ⟨issuer, subject⟩ := claims
      cases subject with
      | none => exact .pure ⟨_, rfl, .noSubject⟩
      | some subject =>
        dsimp only [Option.bind_some, JwtClaims.identity]
        by_cases missing : subject.bytes = []
        · rw [if_pos missing, if_neg fun both => both.1 missing]
          exact .pure ⟨_, rfl, .noSubject⟩
        rw [if_neg missing]
        refine (rateKeyParts_yields _ _ [] (Nat.zero_le _)).mono ?_
        intro outcome parts
        simp only [List.flatMap_cons, List.flatMap_nil,
          List.append_nil, List.nil_append, List.length_append]
          at parts
        simp only [missing, ne_eq, not_false_eq_true, true_and]
        split_ifs at parts ⊢
        · exact parts
        · exact ⟨_, parts, .keyTooLong⟩

/-- The keys which requests of a scope have. -/
def Known (scope : RateScope) (key : Bytes) : Prop := ∃ identity : RateIdentity,
    identity.scope = scope ∧ key = identity.bytes familyByte

theorem RateRequest.identity_scope {config : RateLimitConfig}
    {request : RateRequest}
    {identity : RateIdentity}
    (identified : request.identity config = some identity) :
    identity.scope = config.scope := by
  unfold RateRequest.identity at identified
  split at identified
  case h_1 scope =>
    cases identified
    exact scope.symm
  case h_2 scope =>
    obtain ⟨peer, _, own⟩ := Option.bind_eq_some_iff.mp identified
    rw [scope]
    unfold StreamPeer.identity at own
    split at own <;> cases own <;> rfl
  case h_3 scope =>
    obtain ⟨claims, _, own⟩ := Option.bind_eq_some_iff.mp identified
    rw [scope]
    unfold JwtClaims.identity at own
    split at own
    · cases own
    · dsimp only at own
      split_ifs at own
      cases own
      rfl

/-! ## One call -/

namespace RateLimiter

/-- The outcome of a call with a key. -/
inductive Serves (Key : Bytes → Prop) (limiter : RateLimiter) (key : Bytes)
    (nowMs : UInt64) : RateLimiter × Admission → Prop
  | charged {buckets : List RateBucket} {index : Nat}
      {outcome : RateLimiter × Admission}
      (selects : Selects Key limiter key nowMs
        ({ limiter with lastMs := nowMs, buckets := buckets }, some index))
      (charged : Charged Key
        { limiter with lastMs := nowMs, buckets := buckets } key nowMs
        outcome) :
      Serves Key limiter key nowMs outcome
  | unavailable {buckets : List RateBucket}
      (selects : Selects Key limiter key nowMs
        ({ limiter with lastMs := nowMs, buckets := buckets }, none)) :
      Serves Key limiter key nowMs
        ({ limiter with lastMs := nowMs, buckets := buckets },
          .rejected 503 0)

theorem admitAt_yields {Key : Bytes → Prop} {limiter : RateLimiter}
    (sound : limiter.Sound Key)
    {request : RateRequest} {identity : RateIdentity}
    (identified : request.identity limiter.config = some identity)
    (known : Key (identity.bytes familyByte)) {nowMs : UInt64}
    (ordered : limiter.lastMs.toNat ≤ nowMs.toNat) :
    (limiter.admitAt familyByte request nowMs).Yields
      (Serves Key limiter (identity.bytes familyByte) nowMs) := by
  have late : ¬ nowMs < limiter.lastMs := by
    rw [UInt64.lt_iff_toNat_lt]
    omega
  rw [admitAt, if_neg late]
  refine (rateKey_yields familyByte limiter.config request).bind ?_
  intro outcome keyed
  rw [KeyOf, identified] at keyed
  subst keyed
  refine (select_yields sound known ordered).bind ?_
  rintro ⟨selected, place⟩ selects
  have selected_eq := selects.limiter_eq
  dsimp only at selected_eq
  generalize selected.buckets = buckets at selected_eq
  subst selected_eq
  cases place with
  | none => exact .pure (.unavailable selects)
  | some index =>
    obtain ⟨bucket, slot, updated, same⟩ := selects.placed
    have charged := charge_yields selects.sound slot updated
    rw [same] at charged
    exact charged.mono fun _ charged => .charged selects charged

theorem admitAt_refuses {limiter : RateLimiter} {request : RateRequest}
    (unidentified : request.identity limiter.config = none) (nowMs : UInt64) :
    (limiter.admitAt familyByte request nowMs).Yields
      fun outcome => outcome.1 = limiter ∧ outcome.2.Refusal := by
  rw [admitAt]
  split_ifs with late
  · exact .pure ⟨rfl, .failed⟩
  refine (rateKey_yields familyByte limiter.config request).bind ?_
  intro outcome keyed
  rw [KeyOf, unidentified] at keyed
  obtain ⟨answer, rfl, refusal⟩ := keyed
  exact .pure ⟨rfl, refusal⟩

end RateLimiter

/-! ## The ideal buckets -/

/-- The answer is 503. -/
def Admission.unavailable : Admission → Bool
  | .rejected 503 _ => true
  | _ => false

/-- A call at a time. -/
structure RateCall where
  request : RateRequest
  nowMs : UInt64
  deriving DecidableEq, Repr

/-- The ideal buckets after a call; a call which is answered 503 is none. -/
def idealCall (valid : config.Valid) (ideal : Buckets RateIdentity)
    (call : RateCall)
    (answer : Admission) : Buckets RateIdentity :=
  match call.request.identity config with
  | none => ideal
  | some identity =>
    if answer.unavailable then
      ideal
    else
      (ideal.advance (config.terms valid) call.nowMs.toNat).charge
        (config.terms valid) identity

/-- The limiter has, at any time from now on, the ideal credit. -/
structure Refines (config : RateLimitConfig) (valid : config.Valid)
    (limiter : RateLimiter) (ideal : Buckets RateIdentity) : Prop where
  config_eq : limiter.config = config
  sound : limiter.Sound (Known familyByte config.scope)
  now_le : ideal.now ≤ limiter.lastMs.toNat
  credit_eq : ∀ identity : RateIdentity, identity.scope = config.scope →
    ∀ time, limiter.lastMs.toNat ≤ time →
      (ideal.advance (config.terms valid) time).credit identity =
        held (config.terms valid) limiter.buckets (identity.bytes familyByte)
          time

/-- The answer to a call is the one of the ideal buckets. -/
inductive Answers (config : RateLimitConfig) (valid : config.Valid)
    (limiter : RateLimiter) (ideal : Buckets RateIdentity)
    (identity : RateIdentity) (nowMs : UInt64) : Admission → Prop
  | admitted
      (enough : (config.terms valid).price ≤
        (ideal.advance (config.terms valid) nowMs.toNat).credit identity) :
      Answers config valid limiter ideal identity nowMs .admitted
  | limited {retryAfterSeconds : UInt32}
      (lacking : (ideal.advance (config.terms valid) nowMs.toNat).credit
        identity <
        (config.terms valid).price)
      (waits : (config.terms valid).price ≤
        (ideal.advance (config.terms valid) nowMs.toNat).credit identity +
          retryAfterSeconds.toNat * 1000 * (config.terms valid).gain) :
      Answers config valid limiter ideal identity nowMs
        (.rejected 429 retryAfterSeconds)
  | unavailable
      (occupied : limiter.buckets.length = config.groupCapacity.toNat)
      (others : ∀ bucket ∈ limiter.buckets,
        (∃ other, other ≠ identity ∧ bucket.key = other.bytes familyByte) ∧
          bucket.creditAt (config.terms valid) nowMs.toNat <
            (config.terms valid).maximum) :
      Answers config valid limiter ideal identity nowMs (.rejected 503 0)

/-- A call is answered from the ideal buckets and keeps the two alike. -/
structure CallRefines (config : RateLimitConfig) (valid : config.Valid)
    (limiter : RateLimiter) (ideal : Buckets RateIdentity) (call : RateCall)
    (outcome : RateLimiter × Admission) : Prop where
  refines : Refines familyByte config valid outcome.1
    (idealCall config valid ideal call outcome.2)
  last_le : outcome.1.lastMs.toNat ≤ call.nowMs.toNat
  answers : ∀ identity, call.request.identity config = some identity →
    Answers familyByte config valid limiter ideal identity call.nowMs outcome.2

variable {familyByte} {config : RateLimitConfig} {valid : config.Valid}
  {limiter : RateLimiter}
  {ideal : Buckets RateIdentity} {identity : RateIdentity} {nowMs : UInt64}
    {answer : Admission}
  {calls : List RateCall}

section

variable (answers : Answers familyByte config valid limiter ideal identity nowMs
  answer)

include answers

theorem Answers.admitted_iff (available : answer.unavailable = false) :
    answer = .admitted ↔
      (config.terms valid).price ≤
        (ideal.advance (config.terms valid) nowMs.toNat).credit identity := by
  cases answers with
  | admitted enough => exact ⟨fun _ => enough, fun _ => rfl⟩
  | limited lacking _ =>
    refine ⟨fun impossible => ?_, fun enough => ?_⟩
    · cases impossible
    · exact absurd enough (Nat.not_le.mpr lacking)
  | unavailable => cases available

theorem Answers.occupied (unavailable : answer.unavailable = true) :
    limiter.buckets.length = config.groupCapacity.toNat ∧
      ∀ bucket ∈ limiter.buckets,
        (∃ other, other ≠ identity ∧ bucket.key = other.bytes familyByte) ∧
          bucket.creditAt (config.terms valid) nowMs.toNat <
            (config.terms valid).maximum := by
  cases answers with
  | admitted | limited => cases unavailable
  | unavailable occupied others => exact ⟨occupied, others⟩

end

section

variable (refines : Refines familyByte config valid limiter ideal)

include refines

theorem Refines.selected {key : Bytes} {buckets : List RateBucket}
    {place : Option Nat}
    (ordered : limiter.lastMs.toNat ≤ nowMs.toNat)
    (selects : RateLimiter.Selects (Known familyByte config.scope) limiter key
      nowMs ({ limiter with lastMs := nowMs, buckets := buckets }, place)) :
    Refines familyByte config valid
      { limiter with lastMs := nowMs, buckets := buckets } ideal := by
  have config_eq := refines.config_eq
  subst config_eq
  refine ⟨rfl, selects.sound, refines.now_le.trans ordered, ?_⟩
  intro identity scope time after
  exact (refines.credit_eq identity scope time (ordered.trans after)).trans
    (selects.held_eq _ time after).symm

theorem Refines.advanced :
    Refines familyByte config valid limiter
      (ideal.advance (config.terms valid) limiter.lastMs.toNat) where
  config_eq := refines.config_eq
  sound := refines.sound
  now_le := le_rfl
  credit_eq identity scope time after := by
    rw [ideal.advance_advance _ refines.now_le after]
    exact refines.credit_eq identity scope time after

/-- A charge refines the charge of the ideal limiter. -/
theorem Refines.charged (scope : identity.scope = config.scope)
    {buckets : List RateBucket}
    (enough : (config.terms valid).price ≤
      (ideal.advance (config.terms valid) limiter.lastMs.toNat).credit identity)
    (sound : RateLimiter.Sound (Known familyByte config.scope)
      { limiter with buckets := buckets })
    (held_eq : ∀ other time, limiter.lastMs.toNat ≤ time →
      held (config.terms valid) buckets other time =
        if identity.bytes familyByte = other then
          (config.terms valid).refilled
            (held (config.terms valid) limiter.buckets
                (identity.bytes familyByte) limiter.lastMs.toNat -
              (config.terms valid).price)
            (time - limiter.lastMs.toNat)
        else
          held (config.terms valid) limiter.buckets other time) :
    Refines familyByte config valid { limiter with buckets := buckets }
      ((ideal.advance (config.terms valid) limiter.lastMs.toNat).charge
        (config.terms valid) identity) where
  config_eq := refines.config_eq
  sound := sound
  now_le := (Buckets.charge_now ..).le
  credit_eq other otherScope time after := by
    rw [held_eq _ time after]
    by_cases same : identity = other
    · subst same
      rw [if_pos rfl, ← refines.credit_eq identity scope _ le_rfl,
        ← Buckets.charge_self _ enough]
      change (config.terms valid).refilled _ (time - Buckets.now _) = _
      rw [Buckets.charge_now]
      rfl
    have distinct : identity.bytes familyByte ≠ other.bytes familyByte :=
      fun equal => same (RateIdentity.bytes_injective familyByte
        (scope.trans otherScope.symm) equal)
    rw [if_neg distinct, ← refines.credit_eq other otherScope time after]
    exact ideal.credit_charge_of_ne _ (Ne.symm same) refines.now_le after

/-- A call which is served refines the ideal one. -/
theorem Refines.serves {call : RateCall}
    (identified : call.request.identity config = some identity)
    (ordered : limiter.lastMs.toNat ≤ call.nowMs.toNat)
    {outcome : RateLimiter × Admission}
    (serves : RateLimiter.Serves (Known familyByte config.scope) limiter
      (identity.bytes familyByte) call.nowMs outcome) :
    CallRefines familyByte config valid limiter ideal call outcome := by
  have scope := RateRequest.identity_scope identified
  have config_eq := refines.config_eq
  subst config_eq
  have own : ∀ {Answered : RateIdentity → Prop}, Answered identity →
      ∀ other, call.request.identity limiter.config = some other →
        Answered other := by
    intro Answered answered other also
    rw [identified] at also
    cases also
    exact answered
  have ideal_eq : ∀ answer : Admission, answer.unavailable = false →
      idealCall limiter.config valid ideal call answer =
        (ideal.advance (limiter.config.terms valid) call.nowMs.toNat).charge
          (limiter.config.terms valid) identity := by
    intro answer available
    simp [idealCall, identified, available]
  cases serves with
  | @unavailable buckets selects =>
    have unchanged : idealCall limiter.config valid ideal call
        (.rejected 503 0) = ideal := by
      simp [idealCall, identified, Admission.unavailable]
    refine ⟨unchanged.symm ▸ refines.selected ordered selects, le_rfl, ?_⟩
    obtain ⟨occupied, others⟩ := selects.placed
    refine own (.unavailable occupied fun bucket member => ?_)
    obtain ⟨differs, lacking⟩ := others bucket member
    obtain ⟨other, _, key_eq⟩ := refines.sound.keys bucket member
    exact ⟨⟨other, fun same => differs (same ▸ key_eq), key_eq⟩, lacking⟩
  | @charged buckets _ _ selects charged =>
    have selected := refines.selected ordered selects
    have credit_eq := selected.credit_eq identity scope _ le_rfl
    cases charged with
    | @admitted buckets enough sound held_eq =>
      refine ⟨?_, le_rfl, own (.admitted (credit_eq ▸ enough))⟩
      rw [ideal_eq _ rfl]
      exact selected.charged scope (credit_eq ▸ enough) sound held_eq
    | limited lacking waits =>
      refine ⟨?_, le_rfl,
        own (.limited (credit_eq ▸ lacking) (credit_eq ▸ waits))⟩
      rw [ideal_eq _ rfl, Buckets.charge_of_lt _ (credit_eq ▸ lacking)]
      exact selected.advanced

/-- Every call refines the call of the ideal limiter. -/
theorem Refines.call {call : RateCall}
    (ordered : limiter.lastMs.toNat ≤ call.nowMs.toNat) :
    (limiter.admitAt familyByte call.request call.nowMs).Yields
      (CallRefines familyByte config valid limiter ideal call) := by
  cases identified : call.request.identity config with
  | some identity =>
    have known : Known familyByte config.scope (identity.bytes familyByte) :=
      ⟨identity, RateRequest.identity_scope identified, rfl⟩
    have identified' : call.request.identity limiter.config = some identity :=
      refines.config_eq ▸ identified
    exact (RateLimiter.admitAt_yields familyByte refines.sound identified'
      known ordered).mono fun _ serves =>
        refines.serves identified ordered serves
  | none =>
    have unidentified : call.request.identity limiter.config = none :=
      refines.config_eq ▸ identified
    refine (RateLimiter.admitAt_refuses familyByte unidentified call.nowMs).mono
      ?_
    rintro ⟨after, answer⟩ ⟨unchanged, -⟩
    cases unchanged
    refine ⟨?_, ordered, ?_⟩
    · rw [idealCall, identified]
      exact refines
    · simp [identified]

end

/-! ## Runs -/

/-- The calls of a run, one after the other, and their answers. -/
def RateLimiter.serve (familyByte : AddressFamily → UInt8)
    (limiter : RateLimiter) :
    List RateCall → Exact (RateLimiter × List Admission)
  | [] => pure (limiter, [])
  | call :: calls => do
      let (next, answer) ← limiter.admitAt familyByte call.request call.nowMs
      let (final, answers) ← next.serve familyByte calls
      pure (final, answer :: answers)

/-- The ideal buckets after the calls of a run. -/
def idealServe (config : RateLimitConfig) (valid : config.Valid) :
    Buckets RateIdentity → List (RateCall × Admission) → Buckets RateIdentity
  | ideal, [] => ideal
  | ideal, (call, answer) :: history =>
    idealServe config valid (idealCall config valid ideal call answer) history

/-- Times do not decrease. -/
def Ordered (calls : List RateCall) : Prop :=
  calls.Pairwise fun earlier later => earlier.nowMs.toNat ≤ later.nowMs.toNat

theorem Refines.serve (refines : Refines familyByte config valid limiter ideal)
    (after : ∀ call ∈ calls, limiter.lastMs.toNat ≤ call.nowMs.toNat)
    (ordered : Ordered calls) :
    (limiter.serve familyByte calls).Yields fun outcome =>
        Refines familyByte config valid outcome.1
            (idealServe config valid ideal (calls.zip outcome.2)) ∧
          ∀ time, limiter.lastMs.toNat ≤ time →
            (∀ call ∈ calls, call.nowMs.toNat ≤ time) →
              outcome.1.lastMs.toNat ≤ time := by
  induction calls generalizing limiter ideal with
  | nil => exact .pure ⟨refines, fun _ bound _ => bound⟩
  | cons call calls ih =>
    obtain ⟨first, others⟩ := List.pairwise_cons.mp ordered
    rw [RateLimiter.serve]
    refine (refines.call (after call List.mem_cons_self)).bind ?_
    rintro ⟨next, answer⟩ ⟨refines', last_le, -⟩
    refine (ih refines' (fun later member => last_le.trans (first later member))
      others).bind ?_
    rintro ⟨final, answers⟩ ⟨refines'', bounded⟩
    refine .pure ⟨refines'', fun time _ bound => ?_⟩
    exact bounded time (last_le.trans (bound call List.mem_cons_self))
      fun later member => bound later (List.mem_cons_of_mem _ member)

theorem idealCall_other {call : RateCall}
    (other : call.request.identity config ≠ some identity)
    (before : ideal.now ≤ call.nowMs.toNat)
    {time : Nat} (after : call.nowMs.toNat ≤ time) (answer : Admission) :
    (idealCall config valid ideal call answer).now ≤ call.nowMs.toNat ∧
      ((idealCall config valid ideal call answer).advance
          (config.terms valid) time).credit identity =
        (ideal.advance (config.terms valid) time).credit identity := by
  unfold idealCall
  split
  case h_1 => exact ⟨before, rfl⟩
  case h_2 caller identified =>
    split_ifs
    · exact ⟨before, rfl⟩
    have differs : identity ≠ caller := fun same => other (same ▸ identified)
    exact ⟨(Buckets.charge_now ..).le,
      ideal.credit_charge_of_ne _ differs before after⟩

theorem idealServe_other {time : Nat}
    (others : ∀ other ∈ calls, other.request.identity config ≠ some identity)
    (before : ∀ call ∈ calls, ideal.now ≤ call.nowMs.toNat)
    (ordered : Ordered calls)
    (after : ∀ call ∈ calls, call.nowMs.toNat ≤ time)
    (answers : List Admission) :
    ((idealServe config valid ideal (calls.zip answers)).advance
        (config.terms valid) time).credit identity =
      (ideal.advance (config.terms valid) time).credit identity := by
  induction calls generalizing ideal answers with
  | nil => rfl
  | cons call calls ih =>
    cases answers with
    | nil => rfl
    | cons answer answers =>
      obtain ⟨first, rest⟩ := List.pairwise_cons.mp ordered
      obtain ⟨now_le, credit_eq⟩ := idealCall_other
        (others _ List.mem_cons_self) (before _ List.mem_cons_self)
        (after _ List.mem_cons_self) answer
      rw [List.zip_cons_cons, idealServe, ← credit_eq]
      exact ih (List.forall_mem_cons.mp others).2
        (fun later member => now_le.trans (first later member)) rest
        (List.forall_mem_cons.mp after).2 answers

theorem rateLimiterInit_yields (familyByte : AddressFamily → UInt8)
    (config : RateLimitConfig) (allocated : Bool) :
    (rateLimiterInit config allocated).Yields fun outcome =>
        ∀ limiter, outcome = .ok limiter → ∃ valid : config.Valid,
            Refines familyByte config valid limiter
              (Buckets.full (config.terms valid)) ∧ limiter.lastMs = 0 := by
  rw [rateLimiterInit]
  split_ifs with valid _ _
  · exact .pure (by simp)
  · have small := config.maximum_lt valid
    refine (Exact.mul_yields ?_).bind fun maximumCredit product => ?_
    · rw [UInt32.toNat_toUInt64, UInt32.toNat_toUInt64]
      exact small
    rw [UInt32.toNat_toUInt64, UInt32.toNat_toUInt64] at product
    refine .pure fun limiter initialised => ?_
    cases initialised
    exact ⟨valid,
      ⟨rfl, ⟨product, Nat.zero_le _, List.nodup_nil, List.forall_mem_nil _,
      List.forall_mem_nil _⟩, le_rfl,
      fun identity _ time _ => (config.terms valid).refilled_maximum time⟩, rfl⟩
  · exact .pure (by simp)
  · exact .pure (by simp)

/-- Who was told to wait, and waited, is not told so again. -/
theorem Refines.patient
    (refines : Refines familyByte config valid limiter ideal)
    {call later : RateCall} {between : List RateCall}
    (identified : call.request.identity config = some identity)
    (identified' : later.request.identity config = some identity)
    (after : limiter.lastMs.toNat ≤ call.nowMs.toNat)
    (ordered : Ordered (call :: between ++ [later]))
    (others : ∀ other ∈ between, other.request.identity config ≠ some identity)
    {retryAfterSeconds : UInt32}
    (limited : (limiter.admitAt familyByte call.request call.nowMs).value.2 =
      .rejected 429 retryAfterSeconds)
    (waited : call.nowMs.toNat + retryAfterSeconds.toNat * 1000 ≤
      later.nowMs.toNat)
    (again : UInt32) :
    (((limiter.admitAt familyByte call.request call.nowMs).value.1.serve
      familyByte between).value.1.admitAt familyByte later.request
        later.nowMs).value.2 ≠ .rejected 429 again := by
  obtain ⟨-, step⟩ := refines.call after
  rw [List.cons_append] at ordered
  obtain ⟨first, rest⟩ := List.pairwise_cons.mp ordered
  obtain ⟨orderly, -, last⟩ := List.pairwise_append.mp rest
  generalize limiter.admitAt familyByte call.request call.nowMs = served at *
  obtain ⟨⟨next, answer⟩, exact⟩ := served
  dsimp only at step limited ⊢
  subst limited
  -- A call which is limited leaves the credit as it was.
  obtain _ | ⟨lacking, waits⟩ | _ := step.answers identity identified
  have unpaid : idealCall config valid ideal call
    (.rejected 429 retryAfterSeconds) =
      ideal.advance (config.terms valid) call.nowMs.toNat := by
    simp only [idealCall, identified, Admission.unavailable, Bool.false_eq_true,
      if_false]
    exact Buckets.charge_of_lt _ lacking
  have refines' := step.refines
  rw [unpaid] at refines'
  obtain ⟨-, refines'', bounded⟩ := refines'.serve
    (fun other member =>
      step.last_le.trans (first other (List.mem_append_left _ member)))
    orderly
  have first_later := first later (List.mem_append_right _ List.mem_cons_self)
  have before := bounded later.nowMs.toNat (step.last_le.trans first_later)
    fun other member => last other member later List.mem_cons_self
  obtain ⟨-, -, -, answers⟩ := refines''.call before
  replace answers := answers identity identified'
  -- The calls in between are calls of others, so the credit only grew.
  have credit_eq := @idealServe_other config valid
    (ideal.advance (config.terms valid) call.nowMs.toNat) identity between
    later.nowMs.toNat others
    (fun other member => first other (List.mem_append_left _ member)) orderly
    (fun other member => last other member later List.mem_cons_self)
    (next.serve familyByte between).value.2
  intro impossible
  rw [impossible] at answers
  obtain _ | ⟨lacking', -⟩ | _ := answers
  rw [credit_eq] at lacking'
  refine absurd ?_ (Nat.not_le.mpr lacking')
  refine (config.terms valid).price_le_refilled (waits.trans ?_)
  refine Nat.add_le_add_left (Nat.mul_le_mul_right _ ?_) _
  change _ ≤ later.nowMs.toNat - call.nowMs.toNat
  omega

end

/-- The limiter answers every call as the ideal buckets do, unless it has no
bucket to count with; its arithmetic is exact, and who waits as long as it was
told is not limited again. -/
theorem admitAt_refines_ideal_buckets (familyByte : AddressFamily → UInt8)
    {config : RateLimitConfig} {allocated : Bool} {limiter : RateLimiter}
    (accepted : (rateLimiterInit config allocated).value = .ok limiter)
    {calls : List RateCall}
    {call : RateCall} (ordered : Ordered (calls ++ [call]))
    {identity : RateIdentity}
    (identified : call.request.identity config = some identity) :
    let run := limiter.serve familyByte calls
    let stored := run.value.1
    let served := stored.admitAt familyByte call.request call.nowMs
    let answer := served.value.2
    let ideal :=
      (idealServe limiter.config limiter.valid (Buckets.full limiter.terms)
        (calls.zip run.value.2)).advance limiter.terms call.nowMs.toNat
    ((rateLimiterInit config allocated).exact = true ∧ run.exact = true ∧
      served.exact = true) ∧
      (answer.unavailable = false →
        (answer = .admitted ↔
          limiter.terms.price ≤ ideal.credit identity)) ∧
      (answer.unavailable = true →
        stored.buckets.length = config.groupCapacity.toNat ∧
          ∀ bucket ∈ stored.buckets,
            (∃ other, other ≠ identity ∧ bucket.key = other.bytes familyByte) ∧
              bucket.creditAt limiter.terms call.nowMs.toNat <
                limiter.terms.maximum) ∧
      ∀ retryAfterSeconds between later,
      answer = .rejected 429 retryAfterSeconds →
        Ordered (call :: between ++ [later]) →
        (∀ other ∈ between, other.request.identity config ≠ some identity) →
        later.request.identity config = some identity →
        call.nowMs.toNat + retryAfterSeconds.toNat * 1000 ≤ later.nowMs.toNat →
        ∀ again,
          ((served.value.1.serve familyByte between).value.1.admitAt familyByte
            later.request later.nowMs).value.2 ≠ .rejected 429 again := by
  obtain ⟨exact, begins⟩ := rateLimiterInit_yields familyByte config allocated
  obtain ⟨valid, refines, start⟩ := begins limiter accepted
  have config_eq := refines.config_eq
  subst config_eq
  obtain ⟨orderly, -, last⟩ := List.pairwise_append.mp ordered
  have zero : limiter.lastMs.toNat = 0 := by rw [start]; rfl
  obtain ⟨exact', refines', bounded⟩ :=
    refines.serve (fun _ _ => zero ▸ Nat.zero_le _) orderly
  have after := bounded call.nowMs.toNat (zero ▸ Nat.zero_le _)
    fun earlier member => last earlier member call List.mem_cons_self
  obtain ⟨exact'', step⟩ := refines'.call after
  have answers := step.answers identity identified
  intro run stored served answer ideal
  refine ⟨⟨exact, exact', exact''⟩, answers.admitted_iff, answers.occupied, ?_⟩
  intro retryAfterSeconds between later limited orderly' others identified'
    waited
  exact refines'.patient identified identified' after orderly' others limited
    waited

/-- A limiter for all, with one token a second: the second request has to wait
for a second. -/
theorem admitAt_refines_ideal_buckets_global : ∃ limiter,
    (rateLimiterInit ⟨.global, 1, 1, 1, 1000, 0⟩ true).value = .ok limiter ∧
      ∀ again,
        (((limiter.serve (fun _ => 0) [⟨⟨none, none⟩, 0⟩]).value.1.admitAt
            (fun _ => 0) ⟨none, none⟩ 0).value.1.admitAt (fun _ => 0) ⟨none,
              none⟩ 1000).value.2 ≠
          .rejected 429 again := by
  refine ⟨_, rfl, ?_⟩
  have ordered : Ordered [⟨⟨none, none⟩, 0⟩, ⟨⟨none, none⟩, 0⟩] := by
    simp [Ordered]
  have ordered' : Ordered [⟨⟨none, none⟩, 0⟩, ⟨⟨none, none⟩, 1000⟩] := by
    simp [Ordered]
  obtain ⟨-, -, -, patient⟩ :=
    @admitAt_refines_ideal_buckets (fun _ => 0) ⟨.global, 1, 1, 1, 1000, 0⟩
      true _ rfl [⟨⟨none, none⟩, 0⟩] ⟨⟨none, none⟩, 0⟩ ordered .everyone rfl
  exact patient 1 [] ⟨⟨none, none⟩, 1000⟩ (by decide) ordered'
    (List.forall_mem_nil _) rfl (by decide)

end Chttp.Server
