/-!
JSON values and their compact text.

A value keeps what its text said: number literals stay literals and members stay in the order
written, repeats included. What a literal or a repeated member means is decided where a value is
read as something else, so that values which are only passed over are never interpreted.
-/

namespace Watchtower

/-- A JSON value as written. -/
inductive Json where
  | null
  | bool (b : Bool)
  /-- A number, kept as its literal. -/
  | number (literal : String)
  | string (text : String)
  | array (items : List Json)
  | object (members : List (String × Json))
  /-- A string that holds half of a surrogate pair, or an object with such a key: it is well formed
  and can be passed over, but it stands for no value. -/
  | unreadable
  deriving Inhabited

namespace Json

/-- The number literal of a natural number. -/
def ofNat (n : Nat) : Json := .number (toString n)

/-- The number literal of an integer. -/
def ofInt (n : Int) : Json := .number (toString n)

/-- The string if there is one, else `null`. -/
def ofString? : Option String → Json
  | some s => .string s
  | none => .null

/-- An array of strings. -/
def ofStrings (ss : List String) : Json := .array (ss.map .string)

/-- The value of the last member of that name, if the value is an object that has one. -/
def get? (v : Json) (name : String) : Option Json :=
  match v with
  | .object ms => (ms.findRev? (·.1 == name)).map (·.2)
  | _ => none

/-- The text of a string value. -/
def asString? : Json → Option String
  | .string s => some s
  | _ => none

/-- The lower-case hexadecimal digit of a number below sixteen. -/
def hexDigit (n : Nat) : Char := if n < 10 then Char.ofNat (48 + n) else Char.ofNat (87 + n)

/-- Quotation marks, backslashes and control characters are escaped, all else stands for itself. -/
def escapeChar (c : Char) : List Char :=
  if c = '"' then ['\\', '"']
  else if c = '\\' then ['\\', '\\']
  else if c = '\n' then ['\\', 'n']
  else if c = '\r' then ['\\', 'r']
  else if c = '\t' then ['\\', 't']
  else if c = '\x08' then ['\\', 'b']
  else if c = '\x0c' then ['\\', 'f']
  else if c.toNat < 32 then ['\\', 'u', '0', '0', hexDigit (c.toNat / 16), hexDigit (c.toNat % 16)]
  else [c]

/-- The characters of a string literal, quotation marks included. -/
def quoted (s : List Char) : List Char := '"' :: (s.flatMap escapeChar ++ ['"'])

mutual

/-- The characters of a value without any blanks. -/
def chars : Json → List Char
  | .null => ['n', 'u', 'l', 'l']
  | .bool true => ['t', 'r', 'u', 'e']
  | .bool false => ['f', 'a', 'l', 's', 'e']
  | .number literal => literal.toList
  | .string s => quoted s.toList
  | .array [] => ['[', ']']
  | .array (v :: vs) => '[' :: (chars v ++ itemsTail vs)
  | .object [] => ['{', '}']
  | .object ((k, v) :: ms) => '{' :: (quoted k.toList ++ ':' :: (chars v ++ membersTail ms))
  | .unreadable => []

/-- The items after the first, each behind a comma, and the closing bracket. -/
def itemsTail : List Json → List Char
  | [] => [']']
  | v :: vs => ',' :: (chars v ++ itemsTail vs)

/-- The members after the first, each behind a comma, and the closing brace. -/
def membersTail : List (String × Json) → List Char
  | [] => ['}']
  | (k, v) :: ms => ',' :: (quoted k.toList ++ ':' :: (chars v ++ membersTail ms))

end

/-- The compact text of a value. -/
def render (v : Json) : String := String.ofList v.chars

mutual

/-- How many arrays and objects are nested inside each other. -/
def depth : Json → Nat
  | .array items => depthOfItems items + 1
  | .object members => depthOfMembers members + 1
  | _ => 0

/-- The greatest depth among items. -/
def depthOfItems : List Json → Nat
  | [] => 0
  | v :: vs => max (depth v) (depthOfItems vs)

/-- The greatest depth among the values of members. -/
def depthOfMembers : List (String × Json) → Nat
  | [] => 0
  | (_, v) :: ms => max (depth v) (depthOfMembers ms)

end

end Json

end Watchtower
