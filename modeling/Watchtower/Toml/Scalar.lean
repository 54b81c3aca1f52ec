import Watchtower.Config.Setting
import Watchtower.Moment.Calendar
import Watchtower.Numeric.Notation
import Watchtower.Toml.Text

/-!
The values of TOML that are neither strings nor made of other values.

Dates and times become text: a capital `T` between date and time, a capital `Z` for universal time,
and a fraction of at most nine digits without zeros at its end.
-/

namespace Watchtower.Toml

open Watchtower.Text (natOfDigits padded)

/-! ### Numbers -/

/-- Digits with single underscores between them, behind a digit that has been read. -/
def moreDigits (isDigit : Char → Bool) : List Char → Option (List Char × List Char)
  | '_' :: c :: r =>
    if isDigit c then (moreDigits isDigit r).map fun (ds, r) => (c :: ds, r) else none
  | ['_'] => none
  | c :: r =>
    if isDigit c then (moreDigits isDigit r).map fun (ds, r) => (c :: ds, r) else some ([], c :: r)
  | [] => some ([], [])

/-- At least one digit, with single underscores between them. -/
def digits? (isDigit : Char → Bool) : List Char → Option (List Char × List Char)
  | c :: r =>
    if isDigit c then (moreDigits isDigit r).map fun (ds, r) => (c :: ds, r) else none
  | [] => none

/-- The digits of a whole number: a zero alone, or digits that do not begin with zero. -/
def whole? : List Char → Option (List Char × List Char)
  | '0' :: r => some (['0'], r)
  | r => digits? Char.isDigit r

/-- The sign before a number, with the rest. -/
def sign : List Char → List Char × List Char
  | '-' :: r => (['-'], r)
  | '+' :: r => (['+'], r)
  | r => ([], r)

/-- A fraction behind its point, if there is one. -/
def fraction? : List Char → Option (List Char × List Char)
  | '.' :: r => (digits? Char.isDigit r).map fun (ds, r) => ('.' :: ds, r)
  | r => some ([], r)

/-- A power of ten behind its mark, if there is one. -/
def exponent? : List Char → Option (List Char × List Char)
  | c :: r =>
    if c = 'e' ∨ c = 'E' then
      let (s, r) := sign r
      (digits? Char.isDigit r).map fun (ds, r) => ('e' :: s ++ ds, r)
    else some ([], c :: r)
  | [] => some ([], [])

/-- An integer, if it fits sixty-four bits. -/
def bounded? (n : Int) : Option Setting :=
  if Numeric.isSigned64 n then some (.int n) else none

/-- The digits of a base of some power of two. -/
def isDigitOf (base : Nat) (c : Char) : Bool :=
  match Text.hexValue? c with
  | some n => n < base
  | none => false

/-- An integer in a base of its own; its prefix has been read. -/
def based? (base : Nat) (cs : List Char) : Option (Setting × List Char) := do
  let (ds, r) ← digits? (isDigitOf base) cs
  let n ← ds.foldlM (fun n d => (Text.hexValue? d).map (n * base + ·)) 0
  some (← bounded? n, r)

/-- A decimal number. With a fraction or a power of ten it is a double, and must not be beyond the
greatest one. -/
def decimal? (cs : List Char) : Option (Setting × List Char) := do
  let (s, r) := sign cs
  let (whole, r) ← whole? r
  let (fraction, r) ← fraction? r
  let (exponent, r) ← exponent? r
  if fraction.isEmpty && exponent.isEmpty then
    some (← bounded? (← Numeric.integer? (s ++ whole)), r)
  else
    let x ← Numeric.double? (s ++ whole ++ fraction ++ exponent)
    if x = .infinite false then none else some (.double x, r)

def number? : List Char → Option (Setting × List Char)
  | '0' :: 'x' :: r => based? 16 r
  | '0' :: 'o' :: r => based? 8 r
  | '0' :: 'b' :: r => based? 2 r
  | cs =>
    match sign cs with
    | (s, 'i' :: 'n' :: 'f' :: r) => some (.double (.infinite (s = ['-'])), r)
    | (s, 'n' :: 'a' :: 'n' :: r) => some (.double (.notANumber (s = ['-'])), r)
    | _ => decimal? cs

/-! ### Dates and times -/

/-- So many digits and what is behind them. -/
def take? (count : Nat) (cs : List Char) : Option (List Char × List Char) :=
  let ds := cs.take count
  if ds.length = count ∧ ds.all Char.isDigit then some (ds, cs.drop count) else none

/-- Two digits with a number in bounds. -/
def pair? (least greatest : Nat) (cs : List Char) : Option (List Char × List Char) := do
  let (ds, r) ← take? 2 cs
  if least ≤ natOfDigits ds ∧ natOfDigits ds ≤ greatest then some (ds, r) else none

/-- What is behind a mark. -/
def mark? (mark : Char) : List Char → Option (List Char)
  | c :: r => if c = mark then some r else none
  | [] => none

/-- A date of the calendar. -/
def date? (cs : List Char) : Option (List Char × List Char) := do
  let (year, r) ← take? 4 cs
  let (month, r) ← pair? 1 12 (← mark? '-' r)
  let (day, r) ← pair? 1 31 (← mark? '-' r)
  if natOfDigits day ≤ Calendar.daysIn (natOfDigits year) (natOfDigits month) then
    some (year ++ '-' :: month ++ '-' :: day, r)
  else none

/-- A fraction of a second as it is kept. -/
def keptFraction (ds : List Char) : List Char :=
  let kept := ((ds.take 9).reverse.dropWhile (· = '0')).reverse
  if kept.isEmpty then [] else '.' :: kept

/-- A time of day up to some hour, in which a leap second may stand. -/
def time? (lastHour : Nat) (cs : List Char) : Option (List Char × List Char) := do
  let (hour, r) ← pair? 0 lastHour cs
  let (minute, r) ← pair? 0 59 (← mark? ':' r)
  let (second, r) ← pair? 0 60 (← mark? ':' r)
  let time := hour ++ ':' :: minute ++ ':' :: second
  match r with
  | '.' :: f =>
    let (ds, r) := f.span Char.isDigit
    some (if ds.isEmpty then (time, '.' :: f) else (time ++ keptFraction ds, r))
  | r => some (time, r)

/-- An offset from universal time, if there is one. -/
def offset (cs : List Char) : List Char × List Char :=
  match cs with
  | 'Z' :: r => (['Z'], r)
  | 'z' :: r => (['Z'], r)
  | s :: r =>
    if s = '+' ∨ s = '-' then
      match (do
        let (hour, r) ← pair? 0 23 r
        let (minute, r) ← pair? 0 59 (← mark? ':' r)
        some (hour, minute, r)) with
      | some (hour, minute, rest) =>
        let s := if natOfDigits (hour ++ minute) = 0 then '+' else s
        (s :: hour ++ ':' :: minute, rest)
      | none => ([], cs)
    else ([], cs)
  | [] => ([], [])

/-- The time of day and the offset behind a date, if they are there. -/
def timeBehind (cs : List Char) : List Char × List Char :=
  match cs with
  | c :: r =>
    if c = 'T' ∨ c = 't' ∨ c = ' ' then
      match time? 23 r with
      | some (time, r) =>
        let (o, r) := offset r
        ('T' :: time ++ o, r)
      | none => ([], cs)
    else ([], cs)
  | [] => ([], [])

/-- A date, a time of day, or both with an offset or without. -/
def moment? (cs : List Char) : Option (String × List Char) :=
  match date? cs with
  | some (date, r) =>
    let (time, r) := timeBehind r
    some (String.ofList (date ++ time), r)
  | none => (time? 23 cs).map fun (time, r) => (String.ofList time, r)

/-! ### Dates and times in strings

A string that stands for a date or time is read more freely: midnight may be called 24 hours, an
offset may be as long as a day and have any number of minutes, and a date alone may have one.
-/

/-- An offset that ends a text, if there is one. -/
def freeOffset? : List Char → Option (List Char)
  | [] => some []
  | ['Z'] => some ['Z']
  | ['z'] => some ['Z']
  | s :: r => do
    if s ≠ '+' ∧ s ≠ '-' then none
    let (hours, r) ← take? 2 r
    let (minutes, r) ← take? 2 (← mark? ':' r)
    let total := natOfDigits hours * 60 + natOfDigits minutes
    if !r.isEmpty ∨ 1440 < total then none
    let shown := padded 2 (total / 60) ++ ":" ++ padded 2 (total % 60)
    some ((if total = 0 then '+' else s) :: shown.toList)

/-- The date or time that a text spells, in the form in which it is kept. -/
def momentText? (text : String) : Option String :=
  match date? text.toList with
  | some (date, r) => do
    let (time, r) ← match r with
      | c :: r =>
        if c = 'T' ∨ c = 't' ∨ c = ' ' then (time? 24 r).map fun (time, r) => ('T' :: time, r)
        else some ([], c :: r)
      | [] => some ([], [])
    some (String.ofList (date ++ time ++ (← freeOffset? r)))
  | none =>
    match time? 24 text.toList with
    | some (time, []) => some (String.ofList time)
    | _ => none

/-! ### All of them -/

/-- A value that is neither a string nor a date or time nor made of other values. -/
def scalar? : List Char → Option (Setting × List Char)
  | 't' :: 'r' :: 'u' :: 'e' :: r => some (.flag true, r)
  | 'f' :: 'a' :: 'l' :: 's' :: 'e' :: r => some (.flag false, r)
  | cs => number? cs

end Watchtower.Toml
