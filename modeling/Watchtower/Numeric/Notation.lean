import Watchtower.Numeric.Double
import Watchtower.Numeric.Literal

/-!
Numbers in everyday notation.

A sign of either kind may stand before a number, the point may be the first or the last character,
and infinity and what is no number are spelled as words. A number is rounded once.
-/

namespace Watchtower.Numeric

open Watchtower.Text (natOfDigits)

/-- The letters of a text in lower case; only the English alphabet has two cases here. -/
def lower (cs : List Char) : List Char := cs.map Char.toLower

/-- The number that digits spell, if there are digits and nothing else. -/
def natural? (cs : List Char) : Option Nat :=
  if cs.isEmpty || !cs.all Char.isDigit then none else some (natOfDigits cs)

/-- A sign, if there is one, and the rest: whether the sign is a minus. -/
def takeSign : List Char → Bool × List Char
  | '-' :: r => (true, r)
  | '+' :: r => (false, r)
  | r => (false, r)

/-- The integer that a text spells. -/
def integer? (cs : List Char) : Option Int :=
  let (negative, ds) := takeSign cs
  (natural? ds).map fun n => if negative then -n else n

/-- An integer that fits sixty-four bits with a sign. -/
def isSigned64 (n : Int) : Bool := -(pow2 63 : Int) ≤ n && n < (pow2 63 : Int)

/-- The magnitude of the double nearest to a decimal. Beyond four hundred places before or behind
the point every decimal is infinite or zero. -/
def magnitudeOf (digits : List Char) (exponent : Int) : Nat :=
  let digits := digits.dropWhile (· = '0')
  let places := exponent + digits.length
  if digits.isEmpty || places < -400 then 0
  else if 400 < places then Format.double.infinity
  else Format.double.ofDecimal (natOfDigits digits) exponent

/-- The magnitude that a text without a sign spells. -/
def magnitude? (cs : List Char) : Option Nat :=
  let word := String.ofList (lower cs)
  if word = "inf" ∨ word = "infinity" then some (Double.infinite false).magnitude
  else if word = "nan" then some (Double.notANumber false).magnitude
  else
    let (whole, rest) := cs.span Char.isDigit
    let (fraction, rest) := match rest with
      | '.' :: r => r.span Char.isDigit
      | r => ([], r)
    if whole.isEmpty && fraction.isEmpty then none
    else match rest with
      | [] => some (magnitudeOf (whole ++ fraction) (-fraction.length))
      | mark :: exponent =>
        if mark = 'e' ∨ mark = 'E' then
          (integer? exponent).map fun e => magnitudeOf (whole ++ fraction) (e - fraction.length)
        else none

/-- The double that a text spells. -/
def double? (cs : List Char) : Option Double :=
  let (negative, r) := takeSign cs
  (magnitude? r).map (Double.mk negative)

end Watchtower.Numeric
