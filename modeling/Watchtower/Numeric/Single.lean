import Watchtower.Numeric.Binary

/-!
Single-precision numbers as bit patterns.

Two patterns may be the same number (the two zeros) and a pattern may be no number at all, so
equality of numbers is a relation of its own beside equality of patterns.
-/

namespace Watchtower.Numeric

/-- A single-precision number, given by its bits. -/
structure Single where
  bits : UInt32
  deriving DecidableEq

namespace Single

def isNegative (x : Single) : Bool := pow2 31 ≤ x.bits.toNat

/-- The pattern without its sign. -/
def magnitude (x : Single) : Nat := x.bits.toNat % pow2 31

/-- A pattern beyond infinity is no number. -/
def isNaN (x : Single) : Bool := Format.single.infinity < x.magnitude

/-- The number with this sign and magnitude. -/
def ofMagnitude (negative : Bool) (magnitude : Nat) : Single :=
  ⟨UInt32.ofNat (magnitude % pow2 31 + if negative then pow2 31 else 0)⟩

/-- The place of a number on the line; both zeros are at the origin. -/
def place (x : Single) : Int := if x.isNegative then -x.magnitude else x.magnitude

/-- Equality of numbers: no number equals what is none. -/
def equals (x y : Single) : Bool := !x.isNaN && !y.isNaN && x.place == y.place

/-- Strictly above zero. -/
def isPositive (x : Single) : Bool := !x.isNaN && 0 < x.place

/-- At most `y`. -/
def atMost (x y : Single) : Bool := !x.isNaN && !y.isNaN && x.place ≤ y.place

/-- The number one. -/
def one : Single := ⟨0x3f800000⟩

/-- The pattern used where a computation yields no number. -/
def notANumber : Single := ⟨0x7fc00000⟩

/-- Infinity with a sign. -/
def infinite (negative : Bool) : Single := ofMagnitude negative Format.single.infinity

/-- The nearest number to an integer. -/
def ofInt (n : Int) : Single := ofMagnitude (n < 0) (Format.single.nearest ⟨n.natAbs, 1⟩)

/-- The nearest number to a double-precision one. -/
def ofDouble (negative : Bool) (magnitude : Nat) : Single :=
  ofMagnitude negative (Format.double.convert .single magnitude)

end Single

end Watchtower.Numeric
