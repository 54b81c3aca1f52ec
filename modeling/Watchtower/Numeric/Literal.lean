import Watchtower.Numeric.Single
import Watchtower.Text.Digits

/-!
What the number literals of JSON mean.

A literal without point and exponent is an integer if it fits sixty-four bits, unsigned or, behind
a minus sign, signed. Every other literal is a double: its leading digits, as many as fit
sixty-four bits, are rounded to a double and then multiplied or divided by a power of ten, which
rounds again. A literal beyond the range of doubles means nothing.
-/

namespace Watchtower.Numeric

open Watchtower.Text (digit natOfDigits)

/-- The meaning of a number literal: an integer or a double with its sign and magnitude. -/
inductive Number where
  | int (n : Int)
  | double (negative : Bool) (magnitude : Nat)

/-- Digits read so far: the significand, the power of ten it is to be scaled by, and whether a
digit has been left out. -/
structure Significand where
  value : Nat
  exponent : Int
  full : Bool

namespace Significand

/-- The greatest significand. -/
def limit : Nat := pow2 64 - 1

/-- A digit of the whole part: taken while it fits, and counted from then on. -/
def pushWhole (s : Significand) (c : Char) : Significand :=
  if !s.full && s.value * 10 + digit c ≤ limit then { s with value := s.value * 10 + digit c }
  else { s with exponent := s.exponent + 1, full := true }

/-- A digit of the fraction: taken while it fits, and left out from then on. -/
def pushFraction (s : Significand) (c : Char) : Significand :=
  if !s.full && s.value * 10 + digit c ≤ limit then
    { s with value := s.value * 10 + digit c, exponent := s.exponent - 1 }
  else { s with full := true }

/-- The significand of the digits before and behind the point. -/
def ofDigits (whole fraction : List Char) : Significand :=
  fraction.foldl pushFraction { whole.foldl pushWhole ⟨0, 0, false⟩ with full := false }

end Significand

/-- The double nearest to a power of ten. -/
def powerOfTen (k : Nat) : Ratio := Format.double.value (Format.double.nearest ⟨pow10 k, 1⟩)

/-- Doubles have no power of ten beyond this one. -/
def greatestPower : Nat := 308

/-- A double scaled down by powers of ten beyond the greatest: first by the greatest, rounding,
then by what is left. Four steps take every double to zero. -/
def scaleDown : Nat → Nat → Nat → Nat
  | 0, _, _ => 0
  | steps + 1, magnitude, k =>
    if k ≤ greatestPower then
      Format.double.nearest ((Format.double.value magnitude).div (powerOfTen k))
    else
      scaleDown steps
        (Format.double.nearest ((Format.double.value magnitude).div (powerOfTen greatestPower)))
        (k - greatestPower)

/-- A significand as a double, scaled by a power of ten; none beyond the greatest double. -/
def scaled? (significand : Nat) (exponent : Int) : Option Nat :=
  let m := Format.double.nearest ⟨significand, 1⟩
  if exponent < 0 then some (scaleDown 4 m (-exponent).toNat)
  else if m = 0 then some 0
  else if (greatestPower : Int) < exponent then none
  else
    let product := Format.double.nearest ((Format.double.value m).mul (powerOfTen exponent.toNat))
    if product < Format.double.infinity then some product else none

/-- The integer behind the mark of an exponent. -/
def exponentOf : List Char → Int
  | '-' :: ds => -natOfDigits ds
  | '+' :: ds => natOfDigits ds
  | ds => natOfDigits ds

/-- The meaning of a literal of the JSON grammar. -/
def Number.ofLiteral? (literal : String) : Option Number :=
  let (negative, cs) := match literal.toList with
    | '-' :: cs => (true, cs)
    | cs => (false, cs)
  let (whole, rest) := cs.span Char.isDigit
  let double (fraction : List Char) (exponent : Int) : Option Number :=
    let s := Significand.ofDigits whole fraction
    (scaled? s.value (s.exponent + exponent)).map (.double negative)
  match rest with
  | [] =>
    let n := natOfDigits whole
    if !negative && n ≤ Significand.limit then some (.int n)
    else if negative && 0 < n && n ≤ pow2 63 then some (.int (-n))
    else double [] 0
  | '.' :: rest =>
    let (fraction, rest) := rest.span Char.isDigit
    match rest with
    | [] => double fraction 0
    | _ :: exponent => double fraction (exponentOf exponent)
  | _ :: exponent => double [] (exponentOf exponent)

namespace Number

/-- The integer, if the number is one within bounds. -/
def inRange? (low high : Int) : Number → Option Int
  | .int n => if low ≤ n ∧ n ≤ high then some n else none
  | .double .. => none

/-- The nearest single-precision number. -/
def toSingle : Number → Single
  | .int n => .ofInt n
  | .double negative magnitude => .ofDouble negative magnitude

/-- The nearest double-precision number, as sign and magnitude. -/
def toDouble : Number → Bool × Nat
  | .int n => (n < 0, Format.double.nearest ⟨n.natAbs, 1⟩)
  | .double negative magnitude => (negative, magnitude)

end Number

end Watchtower.Numeric
