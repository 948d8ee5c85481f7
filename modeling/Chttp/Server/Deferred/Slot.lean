import Chttp.Lib.Slots
import Chttp.Server.Buffer
import Mathlib.Data.UInt

/-!
# Deferred responses

A handler may defer its response.  It gets a handle with a generation, and any
thread may complete the response later by a reply or a cancel.  Workers and the
owner of the connection meet in one atomic word, the token, which packs the
generation with a state; who moves the token to `WRITING` owns the response
builder until it stores the next state.

The model is one slot: an HTTP/1.1 connection or an HTTP/2 stream.  An action is
one access of a worker or of the owner to what they share, so a run is an
interleaving of calls and passes.
-/

namespace Chttp.Server

/-- `chttp_server_deferred_state`. -/
inductive DeferredState where
  | idle
  | pending
  | writing
  | ready
  | canceled
  deriving DecidableEq, Repr

/-- The number of a state in the token. -/
def DeferredState.code : DeferredState → UInt32
  | .idle => 0
  | .pending => 1
  | .writing => 2
  | .ready => 3
  | .canceled => 4

/-- A generation and a state. -/
@[ext]
structure Token where
  generation : UInt32
  state : DeferredState
  deriving DecidableEq, Repr

/-- `chttp_server_deferred_token`: the word which the threads share. -/
def Token.word (token : Token) : UInt64 :=
  token.generation.toUInt64 <<< 32 ||| token.state.code.toUInt64

/-- `atomic_compare_exchange`, on the words. -/
def Token.exchange (current expected desired : Token) : Bool × Token :=
  if current.word = expected.word then (true, desired) else (false, current)

/-- `chttp_server_deferred_claim`. -/
def Token.claim (token : Token) (generation : UInt32) : Status × Token :=
  match token.exchange ⟨generation, .pending⟩ ⟨generation, .writing⟩ with
  | (true, claimed) => (.ok, claimed)
  | (false, seen) =>
    if seen.generation ≠ generation ∨ seen.state = .idle then
      (.enoent, seen)
    else
      (.ealready, seen)

/-- The response builder of a slot: empty, in the middle of a reply, or with
the whole response of one. -/
inductive Contents (Response : Type) where
  | empty
  | draft
  | complete (response : Response)
  deriving DecidableEq, Repr

/-- Why a reply is refused; `SALTS_OK` is no reason. -/
abbrev Refusal := { status : Status // status ≠ .ok }

/-- What a call wants.  Composing a reply from the headers of the handler and
its own either fails, because of its arguments or of a limit, or gives the
response. -/
inductive Operation (Response : Type) where
  /-- `chttp_server_deferred_reply`. -/
  | reply (composed : Except Refusal Response)
  /-- `chttp_server_deferred_reply_buffer`. -/
  | replyBuffer (composed : Except Refusal Response)
  /-- `chttp_server_deferred_cancel`. -/
  | cancel
  deriving Repr

/-- What composing the reply gives; a cancel composes nothing. -/
def Operation.composed {Response : Type} :
    Operation Response → Option (Except Refusal Response)
  | .reply composed => some composed
  | .replyBuffer composed => some composed
  | .cancel => none

/-- How far a call has come. -/
inductive Phase where
  | entered
  /-- The call has moved the token to `WRITING`. -/
  | claimed
  /-- The call has reset the builder and is filling it. -/
  | drafting
  /-- The builder is filled. -/
  | composed
  /-- The reply was refused and the builder reset. -/
  | refused
  | returned (status : Status)
  deriving DecidableEq, Repr

/-- The call owns the builder. -/
def Phase.holds : Phase → Bool
  | .claimed | .drafting | .composed | .refused => true
  | .entered | .returned _ => false

/-- A call of a worker. -/
structure Call (Response : Type) where
  generation : UInt32
  /-- The arguments are not null. -/
  wellFormed : Bool
  operation : Operation Response
  phase : Phase
  deriving Repr

/-- The protocol of the connection which the slot belongs to. -/
inductive Wire where
  | http1
  | http2
  deriving DecidableEq, Repr

/-- Where the owner is, with the token it loaded. -/
inductive Owner where
  | resting
  /-- `chttp_server_response_defer` has loaded the token. -/
  | deferLoaded (seen : Token)
  /-- `chttp_server_response_defer` has moved the token to `WRITING`. -/
  | deferring (generation : UInt32)
  /-- A pass over the deadlines has loaded the token. -/
  | expiring (seen : Token)
  /-- The stream is closed and the token was loaded. -/
  | closing (seen : Token)
  /-- The token is `IDLE` and the slot is about to be reset. -/
  | resetting
  /-- A pass over the deferred responses has loaded the token. -/
  | progressing (seen : Token)
  /-- The token of a complete response is `IDLE` and the response is about to be
  submitted. -/
  | submitting (generation : UInt32)
  deriving DecidableEq, Repr

/-- A slot with the calls made on it. -/
structure Slot (Response : Type) where
  wire : Wire
  token : Token
  builder : Contents Response
  /-- `deferred_disconnected` of a connection, `protocol_closed` of a stream. -/
  closed : Bool
  /-- `deadline_ms`; zero is no deadline. -/
  deadline : Nat
  /-- The clock. -/
  now : Nat
  owner : Owner
  calls : List (Call Response)
  /-- The generations which were handed out. -/
  issued : List UInt32
  /-- What was sent, with its generation. -/
  sent : List (UInt32 × Contents Response)
  deriving Repr

/-- The slot after initialisation. -/
def Slot.init (Response : Type) (wire : Wire) : Slot Response where
  wire := wire
  token := ⟨0, .idle⟩
  builder := .empty
  closed := false
  deadline := 0
  now := 0
  owner := .resting
  calls := []
  issued := []
  sent := []

/-- What a pass over the deferred responses finds around the slot. -/
structure Surroundings where
  /-- The connection is active and connected. -/
  connected : Bool
  /-- The connection is still writing. -/
  busy : Bool
  /-- Finishing the session and serialising the response succeed. -/
  serialized : Bool
  deriving DecidableEq, Repr

/-- One access to what is shared. -/
inductive Action (Response : Type) where
  | enter (generation : UInt32) (wellFormed : Bool)
      (operation : Operation Response)
  | claim (index : Nat)
  | draft (index : Nat)
  | compose (index : Nat)
  | settle (index : Nat)
  | tick (elapsed : Nat)
  | arm (budget : Nat)
  | deferLoad
  | deferSwap
  | deferPublish
  | deadlineLoad
  | deadlineSwap
  | disconnect
  | closeLoad
  | closeSwap (spurious : Bool)
  | closeReset
  | progressLoad
  | progress (around : Surroundings)
  | submit (accepted : Bool)
  deriving Repr

section Actions

variable {Response : Type} (slot : Slot Response)

/-! ## Workers -/

/-- Change a call. -/
def Slot.setCall (index : Nat) (call : Call Response) : Slot Response :=
  { slot with calls := slot.calls.set index call }

/-- A call with a handle which was handed out. -/
def Slot.enter (generation : UInt32) (wellFormed : Bool)
    (operation : Operation Response) :
    Option (Slot Response) :=
  if generation ∈ slot.issued then
    some { slot with calls := slot.calls ++
      [⟨generation, wellFormed, operation, .entered⟩] }
  else
    none

/-- The check of the arguments and `chttp_server_deferred_claim`. -/
def Slot.claim (slot : Slot Response) (index : Nat) : Option (Slot Response) :=
  match slot.calls[index]? with
  | some call =>
    if call.phase ≠ .entered then
      none
    else if !call.wellFormed then
      some (slot.setCall index { call with phase := .returned .einval })
    else
      match slot.token.claim call.generation with
      | (.ok, token) =>
        some ({ slot with token := token }.setCall index
          { call with phase := .claimed })
      | (status, _) =>
        some (slot.setCall index { call with phase := .returned status })
  | none => none

/-- A reply resets the builder and starts to fill it. -/
def Slot.draft (slot : Slot Response) (index : Nat) : Option (Slot Response) :=
  match slot.calls[index]? with
  | some call =>
    if call.phase = .claimed ∧ call.operation.composed.isSome then
      some ({ slot with builder := .draft }.setCall index
        { call with phase := .drafting })
    else
      none
  | none => none

/-- The reply is composed; where that fails, the builder is reset again. -/
def Slot.compose (index : Nat) : Option (Slot Response) :=
  match slot.calls[index]? with
  | some call =>
    if call.phase = .drafting then
      match call.operation.composed with
      | some (.ok response) =>
        some ({ slot with builder := .complete response }.setCall index
          { call with phase := .composed })
      | some (.error _) =>
        some ({ slot with builder := .empty }.setCall index
          { call with phase := .refused })
      | none => none
    else
      none
  | none => none

/-- The last store of a call: `chttp_server_deferred_publish`, or `PENDING`
again behind a reply which was refused. -/
def Slot.settle (index : Nat) : Option (Slot Response) :=
  match slot.calls[index]? with
  | some call =>
    match call.phase, call.operation.composed with
    | .composed, some (.ok _) =>
      some ({ slot with token := ⟨call.generation, .ready⟩ }.setCall index
        { call with phase := .returned .ok })
    | .refused, some (.error refusal) =>
      some ({ slot with token := ⟨call.generation, .pending⟩ }.setCall
        index { call with phase := .returned refusal.val })
    | .claimed, none =>
      some ({ slot with token := ⟨call.generation, .canceled⟩ }.setCall
        index { call with phase := .returned .ok })
    | _, _ => none
  | none => none

/-! ## The owner -/

/-- `chttp_server_deadline_start`. -/
def deadlineStart (now budget : Nat) : Nat :=
  if budget = 0 then 0 else min (now + budget) (2 ^ 64 - 1)

/-- `chttp_server_deadline_expired`. -/
def Slot.deadlineExpired : Bool :=
  slot.deadline != 0 && slot.deadline ≤ slot.now

/-- A request is dispatched: the deadline of its handler starts. -/
def Slot.arm (budget : Nat) : Option (Slot Response) :=
  if slot.owner = .resting ∧ slot.token.state = .idle then
    some { slot with deadline := deadlineStart slot.now budget }
  else
    none

/-- `chttp_server_response_defer` loads the token. -/
def Slot.deferLoad : Option (Slot Response) :=
  if slot.owner ≠ .resting then
    none
  else if slot.token.state = .idle then
    some { slot with owner := .deferLoaded slot.token }
  else
    some slot

/-- The generation behind one; zero is left out. -/
def nextGeneration (generation : UInt32) : UInt32 :=
  if generation + 1 = 0 then 1 else generation + 1

namespace Slot

/-- `chttp_server_response_defer` moves the token to `WRITING`. -/
def deferSwap : Option (Slot Response) :=
  match slot.owner with
  | .deferLoaded seen =>
    let generation := nextGeneration seen.generation
    match slot.token.exchange seen ⟨generation, .writing⟩ with
    | (true, token) =>
      some { slot with token := token, owner := .deferring generation }
    | (false, _) => some { slot with owner := .resting }
  | _ => none

/-- `chttp_server_response_defer` resets the builder, hands out the generation
and stores `PENDING`. -/
def deferPublish : Option (Slot Response) :=
  match slot.owner with
  | .deferring generation =>
    some { slot with
      builder := .empty
      closed := if slot.wire = .http1 then false else slot.closed
      token := ⟨generation, .pending⟩
      owner := .resting
      issued := slot.issued ++ [generation] }
  | _ => none

/-- `chttp_server_deadlines_progress` and `chttp_h2_server_connection_deadlines`
find the deadline expired and load the token.  On HTTP/1.1 the deadline is
cleared before the token is looked at. -/
def deadlineLoad : Option (Slot Response) :=
  if slot.owner = .resting ∧ slot.closed = false ∧
    slot.deadlineExpired = true then
    some { slot with
      owner := .expiring slot.token
      deadline := if slot.wire = .http1 then 0 else slot.deadline }
  else
    none

/-- The pass cancels a pending token and clears the deadline. -/
def deadlineSwap : Option (Slot Response) :=
  match slot.owner with
  | .expiring seen =>
    let token :=
      if seen.state = .pending then
        (slot.token.exchange seen ⟨seen.generation, .canceled⟩).2
      else
        slot.token
    some { slot with token := token, owner := .resting, deadline := 0 }
  | _ => none

/-- Reset the builder and the state of the request. -/
def reset : Slot Response :=
  { slot with builder := .empty, closed := false, deadline := 0 }

/-- `chttp_server_on_state`: an HTTP/1.1 connection is closed. -/
def disconnect : Option (Slot Response) :=
  if slot.owner = .resting ∧ slot.wire = .http1 then
    if slot.token.state = .idle then
      some slot.reset
    else
      some { slot with closed := true }
  else
    none

/-- `chttp_h2_server_stream_close` and `chttp_h2_server_connection_release`
load the token. -/
def closeLoad : Option (Slot Response) :=
  if slot.owner = .resting ∧ slot.wire = .http2 then
    some { slot with closed := true, owner := .closing slot.token }
  else
    none

/-- One round of the loop of `chttp_h2_server_stream_close`; the weak exchange
may fail for no reason, and a failed one loads the token again. -/
def closeSwap (spurious : Bool) : Option (Slot Response) :=
  match slot.owner with
  | .closing seen =>
    if seen.state = .writing then
      some { slot with owner := .resting }
    else if seen.state = .idle then
      some { slot with owner := .resetting }
    else if spurious then
      some { slot with owner := .closing slot.token }
    else
      match slot.token.exchange seen ⟨seen.generation, .idle⟩ with
      | (true, token) =>
        some { slot with token := token, owner := .resetting }
      | (false, token) => some { slot with owner := .closing token }
  | _ => none

/-- `chttp_h2_server_stream_reset`. -/
def closeReset : Option (Slot Response) :=
  if slot.owner = .resetting then
    some { slot.reset with owner := .resting }
  else
    none

/-- A pass over the deferred responses loads the token. -/
def progressLoad : Option (Slot Response) :=
  if slot.owner = .resting then
    some { slot with owner := .progressing slot.token }
  else
    none

/-- The rest of `chttp_server_deferred_progress` for one connection. -/
def progressHttp1 (seen : Token) (around : Surroundings) : Slot Response :=
  let idle : Token := ⟨seen.generation, .idle⟩
  match seen.state with
  | .canceled => { slot.reset with token := idle, owner := .resting }
  | .ready =>
    if slot.closed || !around.connected then
      { slot.reset with token := idle, owner := .resting }
    else if !around.serialized then
      { slot.reset with token := idle, owner := .resting }
    else
      { slot with
        token := idle
        owner := .resting
        deadline := 0
        sent := slot.sent ++ [(seen.generation, slot.builder)] }
  | _ => { slot with owner := .resting }

/-- The rest of `chttp_h2_server_connection_deferred_progress` for one stream,
up to the submission of a response. -/
def progressHttp2 (seen : Token) (around : Surroundings) : Slot Response :=
  let idle : Token := ⟨seen.generation, .idle⟩
  if seen.state = .idle ∨ seen.state = .writing then
    { slot with owner := .resting }
  else if slot.closed || !around.connected then
    match slot.token.exchange seen idle with
    | (true, token) => { slot with token := token, owner := .resetting }
    | (false, _) => { slot with owner := .resting }
  else if around.busy then
    { slot with owner := .resting }
  else
    match seen.state with
    | .canceled => { slot with token := idle, owner := .resting }
    | .ready =>
      { slot with
        token := idle
        deadline := 0
        owner := if around.serialized then .submitting seen.generation
          else .resting }
    | _ => { slot with owner := .resting }

/-- The pass looks at the token it loaded. -/
def progress (around : Surroundings) : Option (Slot Response) :=
  match slot.owner with
  | .progressing seen =>
    match slot.wire with
    | .http1 => some (slot.progressHttp1 seen around)
    | .http2 => some (slot.progressHttp2 seen around)
  | _ => none

/-- `chttp_h2_server_submit_response_builder`. -/
def submit (accepted : Bool) : Option (Slot Response) :=
  match slot.owner with
  | .submitting generation =>
    some { slot with
      owner := .resting
      sent := if accepted then slot.sent ++ [(generation, slot.builder)]
        else slot.sent }
  | _ => none

/-- One action. -/
def act : Action Response → Option (Slot Response)
  | .enter generation wellFormed operation =>
    slot.enter generation wellFormed operation
  | .claim index => slot.claim index
  | .draft index => slot.draft index
  | .compose index => slot.compose index
  | .settle index => slot.settle index
  | .tick elapsed => some { slot with now := slot.now + elapsed }
  | .arm budget => slot.arm budget
  | .deferLoad => slot.deferLoad
  | .deferSwap => slot.deferSwap
  | .deferPublish => slot.deferPublish
  | .deadlineLoad => slot.deadlineLoad
  | .deadlineSwap => slot.deadlineSwap
  | .disconnect => slot.disconnect
  | .closeLoad => slot.closeLoad
  | .closeSwap spurious => slot.closeSwap spurious
  | .closeReset => slot.closeReset
  | .progressLoad => slot.progressLoad
  | .progress around => slot.progress around
  | .submit accepted => slot.submit accepted

/-- A run of actions. -/
def run (slot : Slot Response) : List (Action Response) → Option (Slot Response)
  | [] => some slot
  | action :: actions => (slot.act action).bind (·.run actions)

end Slot

end Actions

/-! ## The token -/

theorem DeferredState.code_lt (state : DeferredState) :
    state.code.toNat < 2 ^ 32 :=
  UInt32.toNat_lt state.code

theorem DeferredState.code_injective {first second : DeferredState}
    (same : first.code.toNat = second.code.toNat) : first = second := by
  cases first <;> cases second <;> first | rfl | exact absurd same (by decide)

theorem Token.toNat_word (token : Token) : token.word.toNat =
    token.generation.toNat * 2 ^ 32 + token.state.code.toNat := by
  have low := UInt32.toNat_lt token.state.code
  have high := UInt32.toNat_lt token.generation
  rw [Token.word, UInt64.toNat_or, UInt64.toNat_shiftLeft,
    UInt32.toNat_toUInt64, UInt32.toNat_toUInt64]
  have shifted : token.generation.toNat <<< ((32 : UInt64).toNat % 64) %
    2 ^ 64 =
      token.generation.toNat <<< 32 := by
    rw [show (32 : UInt64).toNat % 64 = 32 from rfl, Nat.shiftLeft_eq]
    exact Nat.mod_eq_of_lt (by omega)
  rw [shifted, ← Nat.shiftLeft_add_eq_or_of_lt low, Nat.shiftLeft_eq]

theorem Token.word_injective {first second : Token}
    (same : first.word = second.word) : first = second := by
  have number := congrArg UInt64.toNat same
  rw [Token.toNat_word, Token.toNat_word] at number
  have low := first.state.code_lt
  have low' := second.state.code_lt
  have states := DeferredState.code_injective
    (show first.state.code.toNat = second.state.code.toNat by omega)
  have generations : first.generation = second.generation :=
    UInt32.toNat_inj.mp (by omega)
  exact Token.ext generations states

theorem Token.exchange_eq (current expected desired : Token) :
    current.exchange expected desired =
    if current = expected then (true, desired) else (false, current) := by
  rw [Token.exchange]
  by_cases same : current = expected
  · rw [if_pos (congrArg Token.word same), if_pos same]
  · rw [if_neg (mt Token.word_injective same), if_neg same]

theorem Token.claim_pending (generation : UInt32) :
    Token.claim ⟨generation, .pending⟩ generation =
    (.ok, ⟨generation, .writing⟩) := by
  rw [Token.claim, Token.exchange_eq, if_pos rfl]

theorem Token.claim_other {token : Token} {generation : UInt32}
    (other : token ≠ ⟨generation, .pending⟩) :
    ∃ status, status ≠ .ok ∧ token.claim generation = (status, token) := by
  rw [Token.claim, Token.exchange_eq, if_neg other]
  simp only
  split
  · exact ⟨.enoent, Status.noConfusion, rfl⟩
  · exact ⟨.ealready, Status.noConfusion, rfl⟩

end Chttp.Server
