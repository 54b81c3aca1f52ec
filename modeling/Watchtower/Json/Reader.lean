import Watchtower.Json
import Watchtower.Text.Digits

/-!
Reading JSON text.

The reader accepts exactly the JSON grammar and interprets nothing that it need not: number
literals are kept, repeated members are kept, and nesting has no limit of its own. A string may
spell a character beyond the basic plane as two `\u` halves; a half on its own makes the string
(or the object, if it is a key) `unreadable`.
-/

namespace Watchtower.Json

open Watchtower.Text (hexValue?)

/-- Blanks between tokens. -/
def isBlank (c : Char) : Bool := c = ' ' || c = '\n' || c = '\t' || c = '\r'

/-- The text from its first character that is not a blank. -/
def skipBlanks : List Char → List Char
  | c :: r => if isBlank c then skipBlanks r else c :: r
  | [] => []

/-- What one step through a string literal finds: a character, or half of a surrogate pair. -/
inductive Piece where
  | char (c : Char)
  | half (unit : Nat)

namespace Piece

/-- The piece that a sixteen-bit unit stands for. -/
def ofUnit (unit : Nat) : Piece :=
  if 0xD800 ≤ unit ∧ unit < 0xE000 then .half unit else .char (Char.ofNat unit)

/-- The pieces of a string literal after its opening quotation mark, and the text behind its
closing one. -/
def scan : List Char → Option (List Piece × List Char)
  | [] => none
  | '"' :: r => some ([], r)
  | '\\' :: 'u' :: a :: b :: c :: d :: r => do
    let a ← hexValue? a
    let b ← hexValue? b
    let c ← hexValue? c
    let d ← hexValue? d
    let (ps, r) ← scan r
    some (ofUnit (((a * 16 + b) * 16 + c) * 16 + d) :: ps, r)
  | '\\' :: e :: r => do
    let c ← match e with
      | '"' => some '"'
      | '\\' => some '\\'
      | '/' => some '/'
      | 'b' => some '\x08'
      | 'f' => some '\x0c'
      | 'n' => some '\n'
      | 'r' => some '\r'
      | 't' => some '\t'
      | _ => none
    let (ps, r) ← scan r
    some (.char c :: ps, r)
  | c :: r =>
    if c.toNat < 32 || c = '\\' then none
    else do
      let (ps, r) ← scan r
      some (.char c :: ps, r)

/-- The characters that pieces spell; none if a half is not followed by its other half. -/
def assemble : List Piece → Option (List Char)
  | [] => some []
  | .char c :: ps => (assemble ps).map (c :: ·)
  | .half u :: .half v :: ps =>
    if u < 0xDC00 ∧ 0xDC00 ≤ v then
      (assemble ps).map (Char.ofNat (0x10000 + (u - 0xD800) * 1024 + (v - 0xDC00)) :: ·)
    else none
  | .half _ :: _ => none

end Piece

/-- The leading decimal digits and the rest. -/
def spanDigits (cs : List Char) : List Char × List Char := cs.span Char.isDigit

/-- A whole part: a zero alone, or digits that do not begin with zero. -/
def scanWhole : List Char → Option (List Char × List Char)
  | '0' :: r => some (['0'], r)
  | cs =>
    match spanDigits cs with
    | ([], _) => none
    | (ds, r) => some (ds, r)

/-- A fraction, if a point follows; the point needs a digit behind it. -/
def scanFraction : List Char → Option (List Char × List Char)
  | '.' :: r =>
    match spanDigits r with
    | ([], _) => none
    | (ds, r) => some ('.' :: ds, r)
  | r => some ([], r)

/-- The sign of an exponent, if there is one. -/
def scanSign : List Char → List Char × List Char
  | '+' :: r => (['+'], r)
  | '-' :: r => (['-'], r)
  | r => ([], r)

/-- An exponent, if its mark follows; the mark needs a digit behind it and its sign. -/
def scanExponent (cs : List Char) : Option (List Char × List Char) :=
  match cs with
  | e :: r =>
    if e = 'e' ∨ e = 'E' then
      match scanSign r with
      | (sign, r) =>
        match spanDigits r with
        | ([], _) => none
        | (ds, r) => some (e :: sign ++ ds, r)
    else some ([], e :: r)
  | [] => some ([], [])

/-- A number literal and the text behind it. -/
def scanNumber (cs : List Char) : Option (String × List Char) := do
  let (sign, r) := match cs with
    | '-' :: r => (['-'], r)
    | r => ([], r)
  let (whole, r) ← scanWhole r
  let (fraction, r) ← scanFraction r
  let (exponent, r) ← scanExponent r
  some (String.ofList (sign ++ whole ++ fraction ++ exponent), r)

/-- The object of these members, if each key can be read. -/
def ofMembers (ms : List (Option (List Char) × Json)) : Json :=
  match ms.mapM fun (k, v) => k.map fun k => (String.ofList k, v) with
  | some ms => .object ms
  | none => .unreadable

mutual

/-- A value and the text behind it. The fuel bounds the steps; twice the text's length is enough. -/
def scanValue : Nat → List Char → Option (Json × List Char)
  | 0, _ => none
  | fuel + 1, cs =>
    match skipBlanks cs with
    | 'n' :: 'u' :: 'l' :: 'l' :: r => some (.null, r)
    | 't' :: 'r' :: 'u' :: 'e' :: r => some (.bool true, r)
    | 'f' :: 'a' :: 'l' :: 's' :: 'e' :: r => some (.bool false, r)
    | '"' :: r => do
      let (ps, r) ← Piece.scan r
      match Piece.assemble ps with
      | some s => some (.string (String.ofList s), r)
      | none => some (.unreadable, r)
    | '[' :: r =>
      match skipBlanks r with
      | ']' :: r => some (.array [], r)
      | r => do
        let (vs, r) ← scanItems fuel r
        some (.array vs, r)
    | '{' :: r =>
      match skipBlanks r with
      | '}' :: r => some (.object [], r)
      | r => do
        let (ms, r) ← scanMembers fuel r
        some (ofMembers ms, r)
    | r => do
      let (literal, r) ← scanNumber r
      some (.number literal, r)

/-- The items of an array from one item on, up to the closing bracket. -/
def scanItems : Nat → List Char → Option (List Json × List Char)
  | 0, _ => none
  | fuel + 1, cs => do
    let (v, r) ← scanValue fuel cs
    match skipBlanks r with
    | ',' :: r =>
      let (vs, r) ← scanItems fuel r
      some (v :: vs, r)
    | ']' :: r => some ([v], r)
    | _ => none

/-- The members of an object from one member on, up to the closing brace. -/
def scanMembers : Nat → List Char → Option (List (Option (List Char) × Json) × List Char)
  | 0, _ => none
  | fuel + 1, cs =>
    match skipBlanks cs with
    | '"' :: r => do
      let (ps, r) ← Piece.scan r
      match skipBlanks r with
      | ':' :: r =>
        let (v, r) ← scanValue fuel r
        match skipBlanks r with
        | ',' :: r =>
          let (ms, r) ← scanMembers fuel r
          some ((Piece.assemble ps, v) :: ms, r)
        | '}' :: r => some ([(Piece.assemble ps, v)], r)
        | _ => none
      | _ => none
    | _ => none

end

/-- The value that a text spells, with nothing but blanks around it. -/
def parse? (text : String) : Option Json :=
  let cs := text.toList
  match scanValue (2 * cs.length + 2) cs with
  | some (v, r) => if (skipBlanks r).isEmpty then some v else none
  | none => none

end Watchtower.Json
