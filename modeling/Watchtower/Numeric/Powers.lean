/-!
Powers of two and of ten.
-/

namespace Watchtower.Numeric

/-- The number of words of so many bits. -/
abbrev pow2 (bits : Nat) : Nat := Nat.pow 2 bits

/-- The number of texts of so many decimal digits. -/
abbrev pow10 (digits : Nat) : Nat := Nat.pow 10 digits

end Watchtower.Numeric
