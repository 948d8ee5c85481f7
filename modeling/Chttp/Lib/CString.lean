import Chttp.Lib.Bytes

/-!
# Strings which end at a zero byte

The terminator is not part of the bytes, and none of the bytes is one.
-/

namespace Chttp.Lib

/-- The bytes of a string before its terminator. -/
@[ext]
structure CString where
  bytes : Bytes
  unterminated : 0 ∉ bytes
  deriving DecidableEq, Repr

namespace CString

/-- The string without bytes. -/
def empty : CString where
  bytes := []
  unterminated := List.not_mem_nil

/-- `strlen`. -/
def length (string : CString) : Nat := string.bytes.length

/-- `strnlen`. -/
def lengthUpTo (string : CString) (limit : Nat) : Nat := min string.length limit

/-- The bytes with the terminator. -/
def terminated (string : CString) : Bytes := string.bytes ++ [0]

/-- The terminator tells where a string ends and something else begins. -/
theorem terminated_append_injective {first second : CString}
    {rest rest' : Bytes}
    (same : first.terminated ++ rest = second.terminated ++ rest') :
    first = second ∧ rest = rest' := by
  obtain ⟨bytes, clean⟩ := first
  obtain ⟨bytes', clean'⟩ := second
  simp only [terminated, List.append_assoc, List.singleton_append] at same
  induction bytes generalizing bytes' with
  | nil =>
    cases bytes' with
    | nil => exact ⟨rfl, (List.cons.inj same).2⟩
    | cons byte others =>
      have zero : (0 : UInt8) = byte := (List.cons.inj same).1
      exact absurd (zero ▸ List.mem_cons_self) clean'
  | cons byte bytes ih =>
    cases bytes' with
    | nil =>
      have zero : byte = 0 := (List.cons.inj same).1
      exact absurd (zero ▸ List.mem_cons_self) clean
    | cons byte' bytes' =>
      obtain ⟨head, tail⟩ := List.cons.inj same
      obtain ⟨equal, rests⟩ :=
        ih (fun member => clean (List.mem_cons_of_mem _ member))
          bytes' (fun member => clean' (List.mem_cons_of_mem _ member)) tail
      refine ⟨?_, rests⟩
      simp only [mk.injEq] at equal ⊢
      rw [head, equal]

end CString

end Chttp.Lib
