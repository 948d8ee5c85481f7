import Mathlib.Logic.Basic

/-!
# Computations which may fail

How a computation in steps succeeds: the steps succeed one after the other.
-/

namespace Chttp.Lib

theorem bind_eq_ok {Error Start Result : Type} {first : Except Error Start}
    {next : Start → Except Error Result} {result : Result} :
    (first >>= next) = .ok result ↔
      ∃ value, first = .ok value ∧ next value = .ok result := by
  cases first with
  | error error =>
    constructor
    · exact nofun
    · rintro ⟨_, equal, -⟩
      cases equal
  | ok value =>
    constructor
    · exact fun equal => ⟨value, rfl, equal⟩
    · rintro ⟨other, equal, behind⟩
      cases equal
      exact behind

theorem bind_ok {Error Start Result : Type} (value : Start)
    (next : Start → Except Error Result) :
    ((.ok value : Except Error Start) >>= next) = next value := rfl

end Chttp.Lib
