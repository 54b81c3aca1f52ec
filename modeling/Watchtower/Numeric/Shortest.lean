import Watchtower.Numeric.Single

/-!
The shortest decimal text of a binary number.

Of all decimals that round to the number, those with the fewest digits are the candidates, and the
one nearest to the number is written. A decimal rounds to the number if it lies between the
midpoints to the two neighbours; a midpoint itself counts if the number's significand is even.
-/

namespace Watchtower.Numeric

/-- A decimal: its digits and the power of ten of its last digit. -/
structure Decimal where
  digits : Nat
  exponent : Int

namespace Decimal

/-- The value as a ratio. -/
def ratio (d : Decimal) : Ratio :=
  if 0 ≤ d.exponent then ⟨d.digits * pow10 d.exponent.toNat, 1⟩
  else ⟨d.digits, pow10 (-d.exponent).toNat⟩

/-- The same value without zeros at the end, of which at most so many are dropped. -/
def trim : Nat → Decimal → Decimal
  | 0, d => d
  | steps + 1, d =>
    if d.digits ≠ 0 ∧ d.digits % 10 = 0 then trim steps ⟨d.digits / 10, d.exponent + 1⟩ else d

/-- The power of ten of the first digit. -/
def leadingExponent (d : Decimal) : Int := d.exponent + ((toString d.digits).length - 1 : Nat)

end Decimal

namespace Ratio

def lt (r s : Ratio) : Bool := r.num * s.den < s.num * r.den

def le (r s : Ratio) : Bool := r.num * s.den ≤ s.num * r.den

end Ratio

/-- The decimals that round to a number: bounds, and whether the bounds belong to them. -/
structure Interval where
  low : Ratio
  high : Ratio
  closed : Bool

/-- The interval of a positive finite pattern. Below a power of two the neighbour is twice as
near. -/
def Format.interval (f : Format) (magnitude : Nat) : Interval :=
  let (m, q) := f.parts magnitude
  let nearer := m = pow2 (f.precision - 1) ∧ f.leastExponent < q
  { low := if nearer then Ratio.scale ⟨4 * m - 1, 1⟩ (q - 2) else Ratio.scale ⟨2 * m - 1, 1⟩ (q - 1)
    high := Ratio.scale ⟨2 * m + 1, 1⟩ (q - 1)
    closed := m % 2 = 0 }

/-- Whether a ratio rounds to the number of the interval. -/
def Interval.contains (i : Interval) (r : Ratio) : Bool :=
  if i.closed then i.low.le r && r.le i.high else i.low.lt r && r.lt i.high

/-- The power of ten of the first digit of a positive ratio. The search starts at an estimate from
the binary logarithms, which is never too great. -/
def firstExponent (r : Ratio) : Int :=
  let estimate : Int := ((r.num.log2 : Int) - r.den.log2 - 1) * 30103 / 100000 - 1
  let climb (e : Int) : Int := if (Decimal.ratio ⟨1, e + 1⟩).le r then e + 1 else e
  climb (climb (climb (climb estimate)))

/-- The candidates with their last digit at one power of ten: the two neighbours of the number,
nearest first. -/
def candidates (r : Ratio) (exponent : Int) : List Decimal :=
  let grid := r.div (Decimal.ratio ⟨1, exponent⟩)
  let below := grid.num / grid.den
  let nearest := grid.round
  let other := if nearest = below then below + 1 else below
  [⟨nearest, exponent⟩, ⟨other, exponent⟩]

/-- The first candidate that rounds to the number, from few digits to many. -/
def search (i : Interval) (r : Ratio) : Nat → Int → Decimal
  | 0, exponent => ⟨(r.div (Decimal.ratio ⟨1, exponent⟩)).round, exponent⟩
  | steps + 1, exponent =>
    match (candidates r exponent).find? fun d => d.digits ≠ 0 && i.contains d.ratio with
    | some d => d
    | none => search i r steps (exponent - 1)

/-- The shortest decimal of a positive finite pattern. Seventeen digits are always enough. -/
def Format.shortest (f : Format) (magnitude : Nat) : Decimal :=
  let r := f.value magnitude
  (search (f.interval magnitude) r 17 (firstExponent r)).trim 17

/-- The digits with a point among or around them. A whole number ends in `.0` if `pointed`. -/
def positional (d : Decimal) (pointed : Bool) : String :=
  let ds := (toString d.digits).toList
  String.ofList <|
    if 0 ≤ d.exponent then
      ds ++ List.replicate d.exponent.toNat '0' ++ if pointed then ['.', '0'] else []
    else
      let behind := (-d.exponent).toNat
      if behind < ds.length then ds.take (ds.length - behind) ++ '.' :: ds.drop (ds.length - behind)
      else '0' :: '.' :: (List.replicate (behind - ds.length) '0' ++ ds)

/-- One digit before the point, and the power of ten behind the letter `e`. -/
def scientific (d : Decimal) (plus : Bool) : String :=
  let ds := (toString d.digits).toList
  let fraction := match ds.drop 1 with
    | [] => []
    | r => '.' :: r
  let e := d.leadingExponent
  String.ofList (ds.take 1 ++ fraction) ++ (if plus && 0 ≤ e then "e+" else "e") ++ toString e

/-- How a number is laid out as text. -/
structure Layout where
  /-- The least power of ten of the first digit that is written positionally. -/
  least : Int
  /-- The greatest one. -/
  greatest : Int
  /-- Whether a whole number keeps a point and a zero. -/
  pointed : Bool
  /-- Whether a positive power of ten has a sign. -/
  plus : Bool

/-- The text of a finite magnitude. -/
def Layout.write (l : Layout) (f : Format) (magnitude : Nat) : String :=
  if magnitude = 0 then if l.pointed then "0.0" else "0"
  else
    let d := f.shortest magnitude
    if l.least ≤ d.leadingExponent && d.leadingExponent ≤ l.greatest then positional d l.pointed
    else scientific d l.plus

/-- The text of a signed magnitude, with words for infinity and for what is no number. -/
def Layout.writeSigned (l : Layout) (f : Format) (negative : Bool) (magnitude : Nat) : String :=
  if f.infinity < magnitude then "NaN"
  else
    let text := if magnitude = f.infinity then "inf" else l.write f magnitude
    if negative then "-" ++ text else text

namespace Single

/-- The text of a single in a message: never with a power of ten. -/
def plainText (x : Single) : String :=
  Layout.writeSigned ⟨-1000, 1000, false, false⟩ .single x.isNegative x.magnitude

/-- The text of a single in a listing of fields. -/
def listedText (x : Single) : String :=
  Layout.writeSigned ⟨-4, 15, true, false⟩ .single x.isNegative x.magnitude

end Single

end Watchtower.Numeric
