import Mathlib.Logic.Basic

/-!
Computations that may fail.
-/

namespace DosWeb

variable {ε α β : Type} {first : Except ε α} {next : α → Except ε β} {result : β}

theorem bind_ok :
    (first >>= next) = .ok result ↔ ∃ value, first = .ok value ∧ next value = .ok result := by
  cases first <;> simp [bind, Except.bind]

end DosWeb
