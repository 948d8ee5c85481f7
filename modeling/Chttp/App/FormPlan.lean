import Chttp.App.Service.Bound

/-!
# Scalars of a form

A field of a form plan turns the value of its pair into one token.  Numbers are
copied into the scalar storage and converted there by the C library; the
conversion of floating-point numbers stays a parameter.
-/

namespace Chttp.App

open Lib Server BindingService

/-- `cserde_status` of a value which gives no token. -/
inductive TokenRefusal where
  | invalidToken
  | limitExceeded
  | unsupported
  deriving DecidableEq, Repr

section

variable {Real : Type} (scalarCapacity : Nat)
  (strtod : Bytes → Option (Real × Bytes))

/-- The numeric kinds of `chttp_web_form_plan_scalar_token`: the value is copied
in front of a terminator, and `convert` reads the copy. -/
def numberToken (value : Bytes)
    (convert : Bytes → Except TokenRefusal (BindToken Real)) :
    Except TokenRefusal (BindToken Real) :=
  if value = [] ∨ 0 ∈ value then .error .invalidToken
  else if scalarCapacity ≤ value.length then .error .limitExceeded
  else convert value

/-- `chttp_web_form_plan_scalar_token`. -/
def formPlanScalarToken (kind : DataKind) (value : Bytes) :
    Except TokenRefusal (BindToken Real) :=
  match kind with
  | .bool =>
    if value = ascii "true" ∨ value = ascii "1" then .ok (.boolean true)
    else if value = ascii "false" ∨ value = ascii "0" then .ok (.boolean false)
    else .error .invalidToken
  | .sint => numberToken scalarCapacity value fun scratch =>
      converted .invalidToken .sint (strtoll scratch)
  | .uint => numberToken scalarCapacity value fun scratch =>
      if value.head? = some 45 then .error .invalidToken
      else converted .invalidToken .uint (strtoull scratch)
  | .float => numberToken scalarCapacity value fun scratch =>
      converted .invalidToken .floating (strtod scratch)
  | .string => .ok (.string (.request value))
  | .enum => .ok (.string (.request value))
  | .bytes => .ok (.bytes (.request value))
  | .other => .error .unsupported

variable {scalarCapacity strtod} {value : Bytes} {kind : DataKind}
  {token : BindToken Real}

/-- A number within the storage becomes the token the conversion makes of it. -/
theorem formPlanScalarToken_eq_ok (numeric : kind = .sint ∨ kind = .uint)
    (fits : value.length < scalarCapacity) :
    formPlanScalarToken scalarCapacity strtod kind value = .ok token ↔
      0 ∉ value ∧ Converts kind value token := by
  have stored (convert : Bytes → Except TokenRefusal (BindToken Real)) :
      numberToken scalarCapacity value convert = .ok token ↔
        value ≠ [] ∧ 0 ∉ value ∧ convert value = .ok token := by
    rw [numberToken]
    split_ifs with refused full
    · simp only [false_iff]
      tauto
    · exact absurd full (Nat.not_le_of_lt fits)
    · rw [not_or] at refused
      simp [refused]
  rcases numeric with rfl | rfl
  · rw [formPlanScalarToken, stored]
    constructor
    · rintro ⟨-, whole, taken⟩
      rw [← takeWhile_ne_zero whole] at taken
      exact ⟨whole, converts_sint_iff.mp taken⟩
    · rintro ⟨whole, converts⟩
      refine ⟨converts.filled, whole, ?_⟩
      nth_rewrite 1 [← takeWhile_ne_zero whole]
      exact converts_sint_iff.mpr converts
  rw [formPlanScalarToken, stored]
  constructor
  · rintro ⟨-, whole, taken⟩
    split_ifs at taken with minus
    rw [← takeWhile_ne_zero whole] at taken
    exact ⟨whole, (converts_uint_iff minus).mp taken⟩
  · rintro ⟨whole, converts⟩
    have guarded : value.head? ≠ some 45 := by
      rcases converts with _ | ⟨guarded, -⟩
      exact guarded
    refine ⟨converts.filled, whole, ?_⟩
    rw [if_neg guarded]
    nth_rewrite 1 [← takeWhile_ne_zero whole]
    exact (converts_uint_iff guarded).mpr converts

/-- Integers of a form are exact where no value of theirs has white space in
front of what the conversion takes. -/
theorem form_scalar_exact_iff (strtod : Bytes → Option (Real × Bytes))
    (numeric : kind = .sint ∨ kind = .uint)
    (fits : value.length < scalarCapacity) :
    (∀ token, formPlanScalarToken scalarCapacity strtod kind value = .ok token ↔
      Denotes kind value token) ↔
    ((∃ token : BindToken Real, Converts kind value token) → 0 ∉ value →
      value.dropWhile isSpace = value) := by
  constructor
  · rintro exactly ⟨token, converts⟩ whole
    exact ((exactly token).mp
      ((formPlanScalarToken_eq_ok numeric fits).mpr ⟨whole, converts⟩)).plain.1
  intro unblanked token
  rw [formPlanScalarToken_eq_ok numeric fits]
  constructor
  · rintro ⟨whole, converts⟩
    exact (converts_iff_denotes (unblanked ⟨token, converts⟩ whole) whole).mp
      converts
  · intro denotes
    obtain ⟨plain, whole⟩ := denotes.plain
    exact ⟨whole, (converts_iff_denotes plain whole).mpr denotes⟩

end

theorem form_scalar_exact_plus_seven :
    formPlanScalarToken 8 (fun _ => (none : Option (Unit × Bytes))) .uint
      (ascii "+7") =
      .ok (.uint 7) := by
  refine ((form_scalar_exact_iff _ (.inr rfl) (by decide)).mpr ?_ _).mpr
    (.uint ⟨ascii "7", ?_⟩ (by decide))
  · intro _ _
    decide
  · decide +kernel

/-- A minus sign behind a blank is negated modulo the range. -/
theorem form_scalar_negated :
    formPlanScalarToken 8 (fun _ => (none : Option (Unit × Bytes))) .uint
      (ascii " -5") =
        .ok (.uint 18446744073709551611) ∧
      ¬∃ token : BindToken Unit, Denotes .uint (ascii " -5") token := by
  refine ⟨by decide +kernel, ?_⟩
  rintro ⟨token, denotes⟩
  exact absurd denotes.plain.1 (by decide)

end Chttp.App
