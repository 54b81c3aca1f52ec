import Watchtower.Moment
import Watchtower.Moment.Calendar
import Watchtower.Numeric.Powers
import Watchtower.Text.Blank
import Watchtower.Text.Digits

/-!
Moments as text: date, time of day and offset from universal time.

Reading is lenient: blanks may stand before a number or a separator, numbers may be short, a year
with a sign may be long, digits of a fraction beyond the ninth are dropped, and second 60 is a leap
second. Writing is strict: universal time, four digits for the years 0 to 9999 and a sign for all
others, and a fraction of three, six or nine digits, the fewest that are exact.
-/

namespace Watchtower.Moment

open Watchtower.Text (isBlank natOfDigits padded trimStart)

/-- A number of at least one and at most so many digits. -/
def scanDigits (most : Nat) (cs : List Char) : Option (Nat × List Char) :=
  let ds := (cs.take most).takeWhile Char.isDigit
  if ds.isEmpty then none else some (natOfDigits ds, cs.drop ds.length)

/-- A number behind blanks. -/
def scanNumber (most : Nat) (cs : List Char) : Option (Nat × List Char) :=
  scanDigits most (trimStart cs)

/-- A year: four digits at most, or any number of them behind a sign. -/
def scanYear (cs : List Char) : Option (Int × List Char) :=
  match trimStart cs with
  | '-' :: r => (scanDigits r.length r).map fun (n, r) => (-n, r)
  | '+' :: r => (scanDigits r.length r).map fun (n, r) => (n, r)
  | r => (scanDigits 4 r).map fun (n, r) => (n, r)

/-- A separator behind blanks. -/
def scanMark (mark : Char) (cs : List Char) : Option (List Char) :=
  match trimStart cs with
  | c :: r => if c = mark then some r else none
  | [] => none

/-- The nanoseconds behind a point, if there is one. -/
def scanFraction : List Char → Option (Nat × List Char)
  | '.' :: r =>
    let ds := r.takeWhile Char.isDigit
    if ds.isEmpty then none
    else
      let kept := ds.take 9
      some (natOfDigits kept * Numeric.pow10 (9 - kept.length), r.drop ds.length)
  | r => some (0, r)

/-- Two digits of a number whose first digit is below a limit. -/
def twoDigits (tens : Nat) : List Char → Option (Nat × List Char)
  | a :: b :: r =>
    if a.isDigit && b.isDigit && a.toNat - 48 < tens then some (natOfDigits [a, b], r) else none
  | _ => none

/-- An offset in seconds: the letter `Z`, the letters `UTC`, or a sign, hours and minutes, with
colons or blanks between them or nothing. -/
def scanOffset (cs : List Char) : Option (Int × List Char) :=
  if (cs.take 3).map Char.toUpper = ['U', 'T', 'C'] then some (0, cs.drop 3)
  else match cs with
    | 'Z' :: r | 'z' :: r => some (0, r)
    | c :: r => do
      let sign ← if c = '+' then some 1 else if c = '-' ∨ c = '−' then some (-1) else none
      let (hours, r) ← twoDigits 10 r
      let (minutes, r) ← twoDigits 6 (r.dropWhile fun c => c = ':' || isBlank c)
      let offset : Int := hours * 3600 + minutes * 60
      if offset < 86400 then some (sign * offset, r) else none
    | [] => none

/-- The moment of a date and a time of day in universal time, if the calendar is kept for it. -/
def ofDaySeconds? (seconds : Int) (nanos : Nat) : Option Moment :=
  let day := seconds / 86400
  if Calendar.firstDay ≤ day ∧ day ≤ Calendar.lastDay then some ⟨seconds, nanos⟩ else none

/-- Reads a moment. -/
def parse? (text : String) : Option Moment := do
  let (year, r) ← scanYear text.toList
  let r ← scanMark '-' r
  let (month, r) ← scanNumber 2 r
  let r ← scanMark '-' r
  let (day, r) ← scanNumber 2 r
  let r ← match r with
    | 'T' :: r | 't' :: r | ' ' :: r => some r
    | _ => none
  let (hour, r) ← scanNumber 2 r
  let r ← scanMark ':' r
  let (minute, r) ← scanNumber 2 r
  let r ← scanMark ':' r
  let (sec, r) ← scanNumber 2 r
  let (fraction, r) ← scanFraction r
  let (offset, r) ← scanOffset (trimStart r)
  let date : Calendar.Date := ⟨year, month, day⟩
  if (trimStart r).isEmpty && date.isValid && hour < 24 && minute < 60 && sec ≤ 60 then
    let carried : Nat := if sec = 60 then 1 else 0
    ofDaySeconds? (date.toDays * 86400 + hour * 3600 + minute * 60 + (sec - carried) - offset)
      (fraction + carried * second)
  else none

/-- A year: four digits, or a sign and at least four digits. -/
def yearText (year : Int) : String :=
  if 0 ≤ year ∧ year ≤ 9999 then padded 4 year.toNat
  else (if year < 0 then "-" else "+") ++ padded 4 year.natAbs

/-- The fraction of a second: the fewest of three, six or nine digits that are exact, or none. -/
def fractionText (nanos : Nat) : String :=
  if nanos = 0 then ""
  else if nanos % 1000000 = 0 then "." ++ padded 3 (nanos / 1000000)
  else if nanos % 1000 = 0 then "." ++ padded 6 (nanos / 1000)
  else "." ++ padded 9 nanos

/-- Writes a moment. -/
def render (m : Moment) : String :=
  let date := Calendar.Date.ofDays (m.seconds / 86400)
  let time := (m.seconds % 86400).toNat
  let leap := if second ≤ m.nanos then 1 else 0
  yearText date.year ++ "-" ++ padded 2 date.month ++ "-" ++ padded 2 date.day ++ "T"
    ++ padded 2 (time / 3600) ++ ":" ++ padded 2 (time / 60 % 60) ++ ":"
    ++ padded 2 (time % 60 + leap) ++ fractionText (m.nanos - leap * second) ++ "Z"

end Watchtower.Moment
