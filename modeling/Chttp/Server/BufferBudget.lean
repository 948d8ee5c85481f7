import Chttp.Server.Buffer
import Mathlib.Algebra.BigOperators.Fin

/-!
# The budget for buffers

Connections, streams and response builders grow and release their buffers on
any thread, and all of them count on `buffer_bytes`.  A call is split where
another thread can see or change this counter, so a run is any list of turns.
The number of buffers is arbitrary.
-/

namespace Chttp.Server.BufferBudget

/-- The arguments of `chttp_server_buffer_grow`. -/
structure Growth where
  required : Nat
  limit : Nat
  preserveSize : Nat

/-- The capacity for which a call asks when the buffer is too small. -/
def Growth.desired (growth : Growth) (capacity : Nat) : Nat :=
  let start := min (if capacity = 0 then 4096 else capacity) growth.limit
  max (doubled growth.required growth.limit 64 start) growth.required

/-- Where the call of the owner is. -/
inductive Call where
  | idle
  /-- In the loop of `chttp_server_buffer_reserve`. -/
  | reserving (growth : Growth) (observed : Nat)
  /-- Between the reservation and `realloc`. -/
  | reserved (growth : Growth)
  /-- Between `free` and the subtraction. -/
  | freed (capacity : Nat)

/-- A buffer; its capacity is the number of its octets. -/
structure Buffer where
  octets : List UInt8
  call : Call

/-- What a thread does next.  The environment decides whether the weak exchange
fails for no reason, and whether `realloc` has a block, with what behind the old
octets. -/
inductive Turn where
  | grow (growth : Growth)
  | exchange (spurious : Bool)
  | realloc (block : Option (Nat → UInt8))
  | free
  | subtract

/-- The buffer and the counter after a turn, and the growth which returned. -/
structure Outcome where
  buffer : Buffer
  counter : Nat
  returned : Option (Growth × Status)

namespace Buffer

variable (buffer : Buffer)

def capacity : Nat := buffer.octets.length

def delta (growth : Growth) : Nat :=
  growth.desired buffer.capacity - buffer.capacity

/-- What the call in progress has reserved, or not yet given back. -/
def pending : Nat :=
  match buffer.call with
  | .reserved growth => buffer.delta growth
  | .freed capacity => capacity
  | _ => 0

/-- What a buffer and its call hold of the budget. -/
def held : Nat := buffer.capacity + buffer.pending

def returns (counter : Nat) (growth : Growth) (status : Status) : Outcome :=
  ⟨{ buffer with call := .idle }, counter, some (growth, status)⟩

/-- One turn of `chttp_server_buffer_grow` or `chttp_server_buffer_release`. -/
def turn (buffer : Buffer) (bytes counter : Nat) (turn : Turn) : Outcome :=
  match buffer.call, turn with
  | .idle, .grow growth =>
    if buffer.capacity < growth.preserveSize then
      buffer.returns counter growth .einval
    else if growth.limit < growth.required then
      buffer.returns counter growth .emsgsize
    else if growth.required ≤ buffer.capacity then
      buffer.returns counter growth .ok
    else
      ⟨{ buffer with call := .reserving growth counter }, counter, none⟩
  | .reserving growth observed, .exchange spurious =>
    if bytes < observed ∨ bytes - observed < buffer.delta growth then
      buffer.returns counter growth .enobufs
    else if counter = observed ∧ !spurious then
      ⟨{ buffer with call := .reserved growth }, observed + buffer.delta growth,
        none⟩
    else
      ⟨{ buffer with call := .reserving growth counter }, counter, none⟩
  | .reserved growth, .realloc none =>
    buffer.returns (counter - buffer.delta growth) growth .enomem
  | .reserved growth, .realloc (some block) =>
    ({ buffer with
      octets := buffer.octets ++
        (List.range (buffer.delta growth)).map block } : Buffer).returns
        counter growth .ok
  | .idle, .free => ⟨⟨[], .freed buffer.capacity⟩, counter, none⟩
  | .freed capacity, .subtract =>
    ⟨{ buffer with call := .idle }, counter - capacity, none⟩
  | _, _ => ⟨buffer, counter, none⟩

theorem doubled_le {required limit desired : Nat} (rounds : Nat)
    (within : desired ≤ limit) :
    doubled required limit rounds desired ≤ limit := by
  fun_induction doubled required limit rounds desired with
  | case1 | case4 => exact within
  | case2 => exact Nat.le_refl _
  | case3 rounds desired below room ih => exact ih (by omega)

theorem desired_bounds {growth : Growth} (fits : growth.required ≤ growth.limit)
    (capacity : Nat) :
    growth.required ≤ growth.desired capacity ∧
      growth.desired capacity ≤ growth.limit :=
  ⟨le_max_right _ _, max_le (doubled_le 64 (min_le_right _ _)) fits⟩

/-- A growth behind its first checks asks for more than the buffer has. -/
def Checked : Prop :=
  match buffer.call with
  | .reserving growth _ | .reserved growth =>
    growth.preserveSize ≤ buffer.capacity ∧ growth.required ≤ growth.limit ∧
      buffer.capacity < growth.required
  | _ => True

variable (bytes : Nat) {counter : Nat} (turn : Turn)

/-- One turn books what it does to the buffer. -/
theorem turn_books (counted : buffer.held ≤ counter) (room : counter ≤ bytes) :
    let after := buffer.turn bytes counter turn
    after.counter + buffer.held = counter + after.buffer.held ∧
      after.counter ≤ bytes := by
  fun_cases Buffer.turn buffer bytes counter turn <;>
    simp_all [held, pending, capacity, delta, returns] <;> omega

theorem turn_checked (checked : buffer.Checked) :
    (buffer.turn bytes counter turn).buffer.Checked := by
  fun_cases Buffer.turn buffer bytes counter turn <;> simp_all
    [Checked, capacity, returns]

/-- What the owner gets from a turn.  Only a growth which returns `SALTS_OK`
and `free` touch the octets. -/
def Sound (turn : Turn) (after : Outcome) : Prop :=
  match after.returned with
  | none => turn = .free ∨ after.buffer.octets = buffer.octets
  | some (growth, .ok) =>
    growth.required ≤ after.buffer.capacity ∧
      after.buffer.capacity ≤ max growth.limit buffer.capacity ∧
      growth.preserveSize ≤ buffer.capacity ∧
        buffer.octets <+: after.buffer.octets ∧
      after.buffer.pending = 0
  | some _ => after.buffer.octets = buffer.octets ∧ after.buffer.pending = 0

theorem turn_sound (checked : buffer.Checked) :
    buffer.Sound turn (buffer.turn bytes counter turn) := by
  fun_cases Buffer.turn buffer bytes counter turn with
  | case9 growth block state =>
    simp only [Checked, state] at checked
    have bounds := desired_bounds checked.2.1 buffer.capacity
    simp only [capacity] at checked bounds
    simp only [Sound, returns, capacity, delta, pending, List.length_append,
      List.length_map,
      List.length_range]
    exact ⟨by omega, by omega, checked.1, List.prefix_append _ _, trivial⟩
  | _ => simp_all [Sound, returns, pending, capacity]

end Buffer

/-- The counter `buffer_bytes` and all buffers. -/
structure Budget (Id : Type) where
  counter : Nat
  buffers : Id → Buffer

namespace Budget

variable {Id : Type} [DecidableEq Id]

def turn (bytes : Nat) (budget : Budget Id) (step : Id × Turn) : Budget Id :=
  let after := (budget.buffers step.1).turn bytes budget.counter step.2
  ⟨after.counter, Function.update budget.buffers step.1 after.buffer⟩

/-- The server after these turns of its threads. -/
def run (bytes : Nat) (turns : List (Id × Turn)) : Budget Id :=
  turns.foldl (turn bytes) ⟨0, fun _ => ⟨[], .idle⟩⟩

variable [Fintype Id]

/-- The counter is what all buffers and all calls in progress hold. -/
structure Books (bytes : Nat) (budget : Budget Id) : Prop where
  counted : budget.counter = ∑ id, (budget.buffers id).held
  room : budget.counter ≤ bytes
  checked : ∀ id, (budget.buffers id).Checked

/-- A turn keeps the books of the budget. -/
theorem Books.turn {bytes : Nat} {budget : Budget Id}
    (books : Books bytes budget)
    (step : Id × Turn) : Books bytes (budget.turn bytes step) := by
  have counted := books.counted.trans (Fintype.sum_eq_add_sum_compl step.1 _)
  obtain ⟨moved, room⟩ := (budget.buffers step.1).turn_books bytes step.2
    (counted ▸ Nat.le_add_right _ _) books.room
  refine ⟨?_, room, fun id => ?_⟩
  · have others : ∀ id ∈ ({step.1}ᶜ : Finset Id),
        ((budget.turn bytes step).buffers id).held =
          (budget.buffers id).held := by
      intro id away
      exact congrArg Buffer.held
        (Function.update_of_ne (by simpa using away) _ _)
    rw [Fintype.sum_eq_add_sum_compl step.1, Finset.sum_congr rfl others]
    simp only [Budget.turn, Function.update_self]
    omega
  · simp only [Budget.turn, Function.update_apply]
    split
    · exact Buffer.turn_checked _ _ _ (books.checked _)
    · exact books.checked id

theorem books_run (bytes : Nat) (turns : List (Id × Turn)) :
    Books bytes (run bytes turns) := by
  induction turns using List.reverseRecOn with
  | nil =>
    have empty : Buffer.held ⟨[], .idle⟩ = 0 := rfl
    exact ⟨by simp [run, empty], Nat.zero_le _, fun _ => trivial⟩
  | append_singleton turns step ih =>
    rw [run, List.foldl_append]
    exact ih.turn step

/-- In every interleaving the counter is the sum of the capacities and of what
the calls in progress hold, and it stays within the budget.  A growth which
fails leaves its buffer as it was and holds nothing any more. -/
theorem run_accounted (bytes : Nat) (turns : List (Id × Turn)) (id : Id)
    (turn : Turn) :
    let budget := run bytes turns
    let buffer := budget.buffers id
    budget.counter =
        ∑ id, (budget.buffers id).capacity + ∑ id, (budget.buffers id).pending ∧
      budget.counter ≤ bytes ∧
      buffer.Sound turn (buffer.turn bytes budget.counter turn) := by
  have books := books_run bytes turns
  refine ⟨?_, books.room, Buffer.turn_sound _ _ _ (books.checked id)⟩
  rw [← Finset.sum_add_distrib]
  exact books.counted

/-- A growth which has reserved counts before its buffer has the capacity, and a
buffer which is large enough keeps a capacity over the limit. -/
theorem run_reserved_ahead :
    let reserved : Budget Unit :=
      run 100 [((), .grow ⟨1, 10, 0⟩), ((), .exchange false)]
    let grown := (reserved.turn 100 ((), .realloc (some fun _ => 0))).buffers ()
    let again := grown.turn 100 10 (.grow ⟨1, 5, 0⟩)
    reserved.counter = 10 ∧ ∑ id, (reserved.buffers id).capacity = 0 ∧
      again.returned = some (⟨1, 5, 0⟩, .ok) ∧ again.buffer.capacity = 10 :=
  ⟨rfl, rfl, rfl, rfl⟩

end Budget

end Chttp.Server.BufferBudget
