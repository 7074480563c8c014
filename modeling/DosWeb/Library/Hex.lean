import Mathlib.Data.List.Basic

namespace DosWeb.Library

/-- The digit of a value below 16. -/
def hexDigit (value : Nat) : Char :=
  if value < 10 then Char.ofNat (48 + value) else Char.ofNat (87 + value)

end DosWeb.Library
