import Watchtower.Toml.Scalar

/-!
The documents of TOML: how keys, tables and values build a tree of settings.

A table is defined once, by a header or by the dotted keys that name it, and a key is given a value
once. A header may come after headers of tables within its table. An array of tables grows by one
table with each of its headers, and everything that names it means its last table. A table whose
first key is the reserved one stands for the date or time that the key is set to.
-/

namespace Watchtower.Toml

/-- How a table came to be. -/
inductive Origin where
  /-- By a header of its own. -/
  | header
  /-- As a table around one with a header. -/
  | implied
  /-- By dotted keys. -/
  | dotted
  deriving DecidableEq

/-- What a document has built so far. -/
inductive Node where
  /-- A value, which nothing can be added to. -/
  | value (s : Setting)
  /-- A date or time, which is a value too. -/
  | moment (text : String)
  | table (origin : Origin) (rows : List (String × Node))
  /-- An array of tables, the first table first. -/
  | tables (elements : List Node)

/-- The rows of a table under construction, in the order in which they were made. -/
abbrev Rows := List (String × Node)

/-- The key that marks a table as a date or time. -/
def reservedKey : String := "$__toml_private_datetime"

namespace Node

/-- The date or time that a text spells. -/
def spelled? : Node → Option String
  | .value (.text s) => momentText? s
  | _ => none

mutual

/-- The finished tree, if every date or time by its key is one. -/
def close? : Node → Option Setting
  | .value s => some s
  | .moment text => some (.text text)
  | .table _ rows =>
    match rows with
    | (name, n) :: rest =>
      if name = reservedKey then n.spelled?.map Setting.text
      else do
        let s ← close? n
        some (.table (Table.place name s (← closeRows? rest)))
    | [] => some .empty
  | .tables elements => (closeAll? elements).map .list

def closeRows? : List (String × Node) → Option (List (String × Setting))
  | [] => some []
  | (name, n) :: rows => do
    let s ← close? n
    some (Table.place name s (← closeRows? rows))

def closeAll? : List Node → Option (List Setting)
  | [] => some []
  | n :: ns => do
    let s ← close? n
    some (s :: (← closeAll? ns))

end

/-- A table that is a value. -/
def ofInline? (rows : Rows) : Option Node :=
  match rows with
  | (name, n) :: _ =>
    if name = reservedKey then n.spelled?.map moment else (table .header rows).close?.map value
  | [] => some (.value .empty)

end Node

namespace Rows

/-- The rows with one under a name, in place of a row that is there or behind all others. -/
def put (name : String) (n : Node) : Rows → Rows
  | [] => [(name, n)]
  | (other, m) :: rows =>
    if other = name then (name, n) :: rows else (other, m) :: put name n rows

/-- Changes the table at the end of a path. Tables on the way that are missing are made, and those
that cannot be gone through refuse: values, and for dotted keys tables with a header. -/
def within (made : Origin) (change : Origin → Rows → Option Rows) :
    List String → Origin → Rows → Option Rows
  | [], origin, rows => change origin rows
  | name :: path, _, rows =>
    match Table.find name rows with
    | none => do
      let inner ← within made change path made []
      some (put name (.table made inner) rows)
    | some (.table origin inner) =>
      if made = .dotted ∧ origin = .header then none
      else do
        let inner ← within made change path origin inner
        some (put name (.table origin inner) rows)
    | some (.tables elements) =>
      match elements.getLast? with
      | some (.table origin inner) => do
        let inner ← within made change path origin inner
        some (put name (.tables (elements.dropLast ++ [.table origin inner])) rows)
      | _ => none
    | some _ => none

/-- Gives a value to a key, which may be dotted. A table made by dotted keys takes values from
dotted keys only, and any other table takes none from them. -/
def assign (path : List String) (name : String) (n : Node) (origin : Origin) (rows : Rows) :
    Option Rows :=
  let add (origin : Origin) (rows : Rows) : Option Rows :=
    if (origin = .dotted) = path.isEmpty then none
    else match Table.find name rows with
      | none => some (put name n rows)
      | some _ => none
  within .dotted add path origin rows

/-- Opens the table of a header. -/
def openTable (path : List String) (name : String) (rows : Rows) : Option Rows :=
  let add (_ : Origin) (rows : Rows) : Option Rows :=
    match Table.find name rows with
    | none => some (put name (.table .header []) rows)
    | some (.table .implied inner) => some (put name (.table .header inner) rows)
    | some _ => none
  within .implied add path .header rows

/-- Opens the next table of an array of tables. -/
def openElement (path : List String) (name : String) (rows : Rows) : Option Rows :=
  let add (_ : Origin) (rows : Rows) : Option Rows :=
    match Table.find name rows with
    | none => some (put name (.tables [.table .header []]) rows)
    | some (.tables elements) =>
      some (put name (.tables (elements ++ [.table .header []])) rows)
    | some _ => none
  within .implied add path .header rows

end Rows

/-! ### Values -/

/-- How many arrays and inline tables may stand inside each other, and how many parts a key may
have. -/
def deepest : Nat := 79

/-- A key split into the names before its last and the last. -/
def splitLast (names : List String) : Option (List String × String) :=
  names.getLast?.map fun name => (names.dropLast, name)

mutual

/-- A value. Both the fuel and the levels bound how deep values stand inside each other; the fuel
also bounds the number of steps. -/
def value? : Nat → Nat → List Char → Option (Node × List Char)
  | 0, _, _ => none
  | fuel + 1, levels, cs =>
    match cs with
    | '"' :: r => (string? basic r).map fun (s, r) => (.value (.text s), r)
    | '\'' :: r => (string? literal r).map fun (s, r) => (.value (.text s), r)
    | '[' :: r =>
      match levels with
      | 0 => none
      | levels + 1 => (items? fuel levels r).map fun (ss, r) => (.value (.list ss), r)
    | '{' :: r =>
      match levels with
      | 0 => none
      | levels + 1 =>
        match skipBlanks r with
        | '}' :: r => some (.value .empty, r)
        | r => do
          let (rows, r) ← members? fuel levels [] r
          some (← Node.ofInline? rows, r)
    | cs =>
      match moment? cs with
      | some (text, r) => some (.moment text, r)
      | none => (scalar? cs).map fun (s, r) => (.value s, r)

/-- The items of an array up to its closing bracket; a comma may stand behind the last. -/
def items? : Nat → Nat → List Char → Option (List Setting × List Char)
  | 0, _, _ => none
  | fuel + 1, levels, cs => do
    match ← skipLines fuel cs with
    | ']' :: r => some ([], r)
    | r => do
      let (n, r) ← value? fuel levels r
      let s ← n.close?
      match ← skipLines fuel r with
      | ',' :: r => do
        let (ss, r) ← items? fuel levels r
        some (s :: ss, r)
      | ']' :: r => some ([s], r)
      | _ => none

/-- The members of an inline table from one on up to the closing brace, added to those before. -/
def members? : Nat → Nat → Rows → List Char → Option (Rows × List Char)
  | 0, _, _, _ => none
  | fuel + 1, levels, rows, cs => do
    let (names, r) ← key? deepest cs
    let (path, name) ← splitLast names
    let r ← mark? '=' r
    let (n, r) ← value? fuel levels (skipBlanks r)
    let rows ← rows.assign path name n .header
    match skipBlanks r with
    | ',' :: r => members? fuel levels rows r
    | '}' :: r => some (rows, r)
    | _ => none

end

/-! ### Lines -/

/-- A document read up to some line: the header in force, and what has been built. -/
structure Progress where
  header : List String
  rows : Rows

namespace Progress

/-- Takes a header of either kind; its brackets before the key have been read. -/
def takeHeader (p : Progress) (isElement : Bool) (cs : List Char) :
    Option (Progress × List Char) := do
  let (names, r) ← key? deepest cs
  let (path, name) ← splitLast names
  let r ← mark? ']' r
  let r ← if isElement then mark? ']' r else some r
  let rows ← if isElement then p.rows.openElement path name else p.rows.openTable path name
  some (⟨names, rows⟩, r)

/-- Takes a key and its value, which belong to the table of the header in force. -/
def takeValue (p : Progress) (cs : List Char) : Option (Progress × List Char) := do
  let (names, r) ← key? deepest cs
  let (path, name) ← splitLast names
  let r ← mark? '=' r
  let r := skipBlanks r
  let (n, r) ← value? (2 * r.length + 2) deepest r
  let rows ← p.rows.within .implied (fun origin rows => rows.assign path name n origin) p.header
    .header
  some ({ p with rows }, r)

/-- Takes lines up to the end of the text. The fuel bounds their number. -/
def takeLines : Nat → Progress → List Char → Option Progress
  | 0, p, cs => if cs.isEmpty then some p else none
  | fuel + 1, p, cs =>
    match skipBlanks cs with
    | [] => some p
    | r => do
      let (p, r) ← match r with
        | '#' :: _ => some (p, r)
        | '\n' :: _ => some (p, r)
        | '\r' :: _ => some (p, r)
        | '[' :: '[' :: r => p.takeHeader true r
        | '[' :: r => p.takeHeader false r
        | r => p.takeValue r
      takeLines fuel p (← endOfLine? r)

end Progress

/-- The settings that a document spells, which are a table. A byte order mark may stand
before it. -/
def parse? (text : String) : Option Setting := do
  let cs := match text.toList with
    | '\ufeff' :: r => r
    | r => r
  let p ← Progress.takeLines (cs.length + 1) ⟨[], []⟩ cs
  match ← (Node.table .header p.rows).close? with
  | .table rows => some (.table rows)
  | _ => none

end Watchtower.Toml
