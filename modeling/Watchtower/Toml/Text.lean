import Watchtower.Text.Digits

/-!
The texts of TOML: blanks, comments, strings and keys.

Every reader takes the characters from where it stands and gives what it has read and the characters
behind it, or nothing if the text is not well formed.
-/

namespace Watchtower.Toml

/-- Blanks within a line. -/
def isBlank (c : Char) : Bool := c = ' ' || c = '\t'

def skipBlanks (cs : List Char) : List Char := cs.dropWhile isBlank

/-- Characters that stand for themselves in comments and strings: all but the control characters,
of which only the tab is admitted. -/
def isPrintable (c : Char) : Bool := c = '\t' || (32 ≤ c.toNat && c.toNat != 127)

/-- What is behind a line break. -/
def newline? : List Char → Option (List Char)
  | '\n' :: r => some r
  | '\r' :: '\n' :: r => some r
  | _ => none

/-- The text from the end of a comment, if one begins here. -/
def skipComment : List Char → List Char
  | '#' :: r => r.dropWhile isPrintable
  | r => r

/-- What is behind the rest of a line that holds nothing but blanks and a comment. -/
def endOfLine? (cs : List Char) : Option (List Char) :=
  match skipComment (skipBlanks cs) with
  | [] => some []
  | r => newline? r

/-- The text from its first character that belongs to no blank, comment or line break. A comment
has to end in a line break. The fuel bounds the number of lines. -/
def skipLines : Nat → List Char → Option (List Char)
  | 0, cs => some cs
  | fuel + 1, cs =>
    match skipBlanks cs with
    | '#' :: r => do skipLines fuel (← newline? (skipComment ('#' :: r)))
    | r =>
      match newline? r with
      | some r => skipLines fuel r
      | none => some r

/-! ### Strings -/

/-- The character that hexadecimal digits give the number of. -/
def codePoint? (ds : List Char) : Option Char := do
  let n ← ds.foldlM (fun n d => (Text.hexValue? d).map (n * 16 + ·)) 0
  if n < 0xd800 ∨ (0xdfff < n ∧ n < 0x110000) then some (Char.ofNat n) else none

/-- The character given by so many hexadecimal digits. -/
def numbered? (count : Nat) (cs : List Char) : Option (Char × List Char) :=
  if cs.length < count then none
  else (codePoint? (cs.take count)).map fun c => (c, cs.drop count)

/-- The character that an escape stands for; the backslash has been read. -/
def escape? : List Char → Option (Char × List Char)
  | '"' :: r => some ('"', r)
  | '\\' :: r => some ('\\', r)
  | 'b' :: r => some ('\x08', r)
  | 'f' :: r => some ('\x0c', r)
  | 'n' :: r => some ('\n', r)
  | 'r' :: r => some ('\r', r)
  | 't' :: r => some ('\t', r)
  | 'u' :: r => numbered? 4 r
  | 'U' :: r => numbered? 8 r
  | _ => none

/-- The kinds of string: whether backslashes escape, and the quotation mark. -/
structure Quoting where
  escapes : Bool
  mark : Char

def basic : Quoting := ⟨true, '"'⟩

def literal : Quoting := ⟨false, '\''⟩

/-- The rest of a string within one line. The fuel bounds the number of characters. -/
def scanLine (q : Quoting) : Nat → List Char → Option (List Char × List Char)
  | 0, _ => none
  | _, [] => none
  | fuel + 1, c :: r =>
    if c = q.mark then some ([], r)
    else if q.escapes && c = '\\' then do
      let (c, r) ← escape? r
      let (cs, r) ← scanLine q fuel r
      some (c :: cs, r)
    else if isPrintable c then do
      let (cs, r) ← scanLine q fuel r
      some (c :: cs, r)
    else none

/-- The text from its first character that belongs to no blank or line break. -/
def skipBreaks : List Char → List Char
  | '\r' :: '\n' :: r => skipBreaks r
  | c :: r => if isBlank c || c = '\n' then skipBreaks r else c :: r
  | [] => []

/-- What is behind a line break that is escaped, and behind all blanks and line breaks that
follow; the backslash has been read. -/
def joined? (cs : List Char) : Option (List Char) := (newline? (skipBlanks cs)).map skipBreaks

/-- The rest of a string over several lines. Up to two quotation marks may stand anywhere, also
before the three at the end. The fuel bounds the number of characters. -/
def scanLines (q : Quoting) : Nat → List Char → Option (List Char × List Char)
  | 0, _ => none
  | _, [] => none
  | fuel + 1, c :: r =>
    if c = q.mark then
      let run := (r.takeWhile (· = q.mark)).length + 1
      if run < 3 then do
        let (cs, r) ← scanLines q fuel (r.drop (run - 1))
        some (List.replicate run q.mark ++ cs, r)
      else
        let own := min (run - 3) 2
        some (List.replicate own q.mark, r.drop (own + 2))
    else match newline? (c :: r) with
      | some r => do
        let (cs, r) ← scanLines q fuel r
        some ('\n' :: cs, r)
      | none =>
        if q.escapes && c = '\\' then
          match joined? r with
          | some r => scanLines q fuel r
          | none => do
            let (c, r) ← escape? r
            let (cs, r) ← scanLines q fuel r
            some (c :: cs, r)
        else if isPrintable c then do
          let (cs, r) ← scanLines q fuel r
          some (c :: cs, r)
        else none

/-- A string of some kind; its first quotation mark has been read. A line break right behind three
quotation marks does not count. -/
def string? (q : Quoting) (cs : List Char) : Option (String × List Char) :=
  let made := fun (r : List Char × List Char) => (String.ofList r.1, r.2)
  match cs with
  | a :: b :: r =>
    if a = q.mark ∧ b = q.mark then
      let r := (newline? r).getD r
      (scanLines q (r.length + 1) r).map made
    else (scanLine q (cs.length + 1) cs).map made
  | _ => (scanLine q (cs.length + 1) cs).map made

/-! ### Keys -/

/-- Characters of a key without quotation marks. -/
def isBare (c : Char) : Bool := c.isAlphanum || c = '_' || c = '-'

/-- One part of a key. -/
def simpleKey? : List Char → Option (String × List Char)
  | '"' :: r => (scanLine basic (r.length + 1) r).map fun (cs, r) => (String.ofList cs, r)
  | '\'' :: r => (scanLine literal (r.length + 1) r).map fun (cs, r) => (String.ofList cs, r)
  | cs =>
    let (name, r) := cs.span isBare
    if name.isEmpty then none else some (String.ofList name, r)

/-- The parts of a key, with blanks around each; there may be no more than the fuel. -/
def key? : Nat → List Char → Option (List String × List Char)
  | 0, _ => none
  | fuel + 1, cs => do
    let (name, r) ← simpleKey? (skipBlanks cs)
    match skipBlanks r with
    | '.' :: r => do
      let (names, r) ← key? fuel r
      some (name :: names, r)
    | r => some ([name], r)

end Watchtower.Toml
