import Watchtower.Text.Visibility

/-!
Text quoted for a reader of messages.

A quoted text stands between quotation marks. Quotation marks and backslashes inside it are
escaped, the four common controls have short names, and every other character that does not show
is written by its code point, so that two different texts never look alike.
-/

namespace Watchtower.Text

/-- The lower-case hexadecimal digits of a number, without leading zeros. -/
def hexDigits (n : Nat) : List Char := Nat.toDigits 16 n

/-- One character inside quotation marks. -/
def quoteChar (c : Char) : List Char :=
  if c = '\x00' then ['\\', '0']
  else if c = '\t' then ['\\', 't']
  else if c = '\r' then ['\\', 'r']
  else if c = '\n' then ['\\', 'n']
  else if c = '"' then ['\\', '"']
  else if c = '\\' then ['\\', '\\']
  else if shows c then [c]
  else ['\\', 'u', '{'] ++ hexDigits c.toNat ++ ['}']

/-- A text between quotation marks. -/
def quote (s : String) : String :=
  String.ofList ('"' :: (s.toList.flatMap quoteChar ++ ['"']))

/-- A path between quotation marks. Apostrophes in paths are escaped too. -/
def quotePath (s : String) : String :=
  let inside := s.toList.flatMap fun c => if c = '\'' then ['\\', c] else quoteChar c
  String.ofList ('"' :: (inside ++ ['"']))

end Watchtower.Text
