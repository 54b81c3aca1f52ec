import Watchtower.Numeric.Shortest

/-!
Double-precision numbers by sign and magnitude.
-/

namespace Watchtower.Numeric

/-- A double-precision number: its sign, and its bits without the sign. -/
structure Double where
  negative : Bool
  magnitude : Nat
  deriving DecidableEq

namespace Double

def infinite (negative : Bool) : Double := ⟨negative, Format.double.infinity⟩

/-- What is no number, with a sign all the same. -/
def notANumber (negative : Bool) : Double := ⟨negative, Format.double.infinity + pow2 51⟩

/-- The nearest number to an integer. -/
def ofInt (n : Int) : Double := ⟨n < 0, Format.double.nearest ⟨n.natAbs, 1⟩⟩

/-- The same number in double precision. -/
def ofSingle (x : Single) : Double := ⟨x.isNegative, Format.single.convert .double x.magnitude⟩

/-- The nearest number in single precision. -/
def toSingle (x : Double) : Single := .ofDouble x.negative x.magnitude

def isNaN (x : Double) : Bool := Format.double.infinity < x.magnitude

/-- Either of the two zeros. -/
def isZero (x : Double) : Bool := x.magnitude = 0

/-- The nearest of the numbers below `limit`, of two the greater. What is no number counts as
zero. -/
def toNat (x : Double) (limit : Nat) : Nat :=
  if x.isNaN || x.negative then 0
  else if x.magnitude = Format.double.infinity then limit - 1
  else
    let r := Format.double.value x.magnitude
    min ((2 * r.num + r.den) / (2 * r.den)) (limit - 1)

/-- The text of the number, never with a power of ten. -/
def plainText (x : Double) : String :=
  Layout.writeSigned ⟨-1000, 1000, false, false⟩ .double x.negative x.magnitude

end Double

end Watchtower.Numeric
