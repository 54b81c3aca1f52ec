import Watchtower.Numeric.Powers

/-!
Binary floating point as arithmetic on natural numbers.

The magnitude of a finite number is `m * 2 ^ q`. Magnitudes are handled as bit patterns, so that
the pattern after the greatest finite one is infinity and every pattern after that is no number.
Rounding is to the nearest pattern, and of two nearest ones to the even one.
-/

namespace Watchtower.Numeric

/-- A binary format: how many bits a significand has, the leading one included, and how many bits
the exponent field has. -/
structure Format where
  precision : Nat
  exponentBits : Nat

/-- A nonnegative ratio of natural numbers; the denominator is positive. -/
structure Ratio where
  num : Nat
  den : Nat

namespace Ratio

/-- The ratio scaled by a power of two. -/
def scale (r : Ratio) (q : Int) : Ratio :=
  if 0 ≤ q then ⟨r.num * pow2 q.toNat, r.den⟩ else ⟨r.num, r.den * pow2 (-q).toNat⟩

def mul (r s : Ratio) : Ratio := ⟨r.num * s.num, r.den * s.den⟩

def div (r s : Ratio) : Ratio := ⟨r.num * s.den, r.den * s.num⟩

/-- The nearest natural number, the even one of two. -/
def round (r : Ratio) : Nat :=
  let floor := r.num / r.den
  let twice := 2 * (r.num % r.den)
  if twice < r.den then floor
  else if twice = r.den then floor + floor % 2
  else floor + 1

end Ratio

namespace Format

/-- Four bytes. -/
def single : Format := ⟨24, 8⟩

/-- Eight bytes. -/
def double : Format := ⟨53, 11⟩

/-- The least exponent `q` of a magnitude `m * 2 ^ q`. -/
def leastExponent (f : Format) : Int := 3 - (pow2 (f.exponentBits - 1) : Int) - f.precision

/-- The pattern of infinity. -/
def infinity (f : Format) : Nat := (pow2 f.exponentBits - 1) * pow2 (f.precision - 1)

/-- The significand and exponent of a finite pattern. -/
def parts (f : Format) (magnitude : Nat) : Nat × Int :=
  let leading := pow2 (f.precision - 1)
  let field := magnitude / leading
  if field = 0 then (magnitude, f.leastExponent)
  else (magnitude % leading + leading, f.leastExponent + field - 1)

/-- The value of a finite pattern. -/
def value (f : Format) (magnitude : Nat) : Ratio :=
  let (m, q) := f.parts magnitude
  Ratio.scale ⟨m, 1⟩ q

/-- The pattern nearest to a ratio. -/
def nearest (f : Format) (r : Ratio) : Nat :=
  if r.num = 0 then 0
  else
    let guess : Int := max f.leastExponent (r.num.log2 - r.den.log2 - f.precision)
    let scaled := r.scale (-guess)
    let q := if pow2 f.precision ≤ scaled.num / scaled.den then guess + 1 else guess
    let m := (r.scale (-q)).round
    min f.infinity ((q - f.leastExponent).toNat * pow2 (f.precision - 1) + m)

/-- The value of a decimal significand and exponent, rounded once. -/
def ofDecimal (f : Format) (significand : Nat) (exponent : Int) : Nat :=
  f.nearest <|
    if 0 ≤ exponent then ⟨significand * pow10 exponent.toNat, 1⟩
    else ⟨significand, pow10 (-exponent).toNat⟩

/-- A pattern of one format rounded to another; what is no number stays none. -/
def convert (source target : Format) (magnitude : Nat) : Nat :=
  if magnitude < source.infinity then target.nearest (source.value magnitude)
  else if magnitude = source.infinity then target.infinity
  else target.infinity + pow2 (target.precision - 2)

end Format

end Watchtower.Numeric
