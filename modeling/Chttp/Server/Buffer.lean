import Mathlib.Data.Int.Notation

/-!
# Status codes and buffers of the server

Buffers grow on demand, by doubling, up to the limit of their owner.  The
budget for all buffers and the allocator are the environment: whether they
have room is a parameter of the call.
-/

namespace Chttp.Server

/-- The status codes which the server tells apart. -/
inductive Status where
  | ok
  | einval
  | enoent
  | ealready
  | eproto
  | eio
  | ebusy
  | enobufs
  | enomem
  | emsgsize
  | eperm
  | erange
  | enotsup
  | etimedout
  | ecanceled
  | eshutdown
  | econnreset
  | other (code : Int)
  deriving DecidableEq, Repr

/-- What one call gets from the memory of the server. -/
structure Memory where
  /-- No earlier send still holds the outbound buffer. -/
  idle : Bool
  /-- The budget for buffers has room. -/
  reserved : Bool
  /-- The allocator has room. -/
  allocated : Bool
  /-- What binding the buffer to the transport returns. -/
  bound : Status
  deriving DecidableEq, Repr

/-- Double a capacity until it is enough or the limit is met.  A `size_t`
doubles no more than 64 times. -/
def doubled (required limit : Nat) : Nat → Nat → Nat
  | 0, desired => desired
  | rounds + 1, desired =>
    if desired < required then
      if limit - desired < desired then
        limit
      else
        doubled required limit rounds (desired * 2)
    else
      desired

/-- `chttp_server_buffer_grow`: the capacity afterwards. -/
def bufferGrow (capacity required limit : Nat) (memory : Memory) :
    Except Status Nat :=
  if limit < required then
    .error .emsgsize
  else if required ≤ capacity then
    .ok capacity
  else
    let start := min (if capacity = 0 then 4096 else capacity) limit
    let desired := max (doubled required limit 64 start) required
    if !memory.reserved then
      .error .enobufs
    else if !memory.allocated then
      .error .enomem
    else
      .ok desired

/-- A value has a property, and a refusal is an error. -/
def Yields {Value : Type} (property : Value → Prop) : Except Status Value → Prop
  | .ok value => property value
  | .error status => status ≠ .ok

theorem bufferGrow_yields (capacity required limit : Nat) (memory : Memory) :
    Yields (fun grown => required ≤ grown ∧ capacity ≤ grown)
      (bufferGrow capacity required limit memory) := by
  rw [bufferGrow]
  split
  · exact Status.noConfusion
  split
  · exact ⟨by assumption, Nat.le_refl _⟩
  simp only
  split
  · exact Status.noConfusion
  split
  · exact Status.noConfusion
  · constructor <;> omega

end Chttp.Server
