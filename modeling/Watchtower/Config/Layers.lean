import Watchtower.Config.Reading
import Watchtower.FileTree
import Watchtower.Toml.Document

/-!
The layers of a configuration: a base, a file over it, and the environment over both.

A layer sets values at paths. A variable names a field by the words `meld`, the section and the
field with two underscores between them, in any case. What it says counts for that field alone.
-/

namespace Watchtower

open Setting (Selector)

/-- Settings at paths, the later ones over the earlier ones. -/
abbrev Layer := List (List Selector × Setting)

namespace Layer

/-- What is in force once the layer is laid over what is below it. None if it sets an item that a
list cannot have. -/
def onto? (layer : Layer) (below : Setting) : Option Setting :=
  layer.foldlM (fun below (path, s) => s.place path (some below)) below

/-! ### Paths as text -/

/-- Characters of the names in a path. -/
def isPathChar (c : Char) : Bool := c.isAlphanum || c = '_' || c = '-' || c = ' '

/-- A name at the start of a text, and the rest. -/
def name? (cs : List Char) : Option (Selector × List Char) :=
  let (name, r) := cs.span isPathChar
  if name.isEmpty then none else some (.name (String.ofList name), r)

def isBlank (c : Char) : Bool := c = ' ' || c = '\t'

/-- An index up to its closing bracket, and the rest. Blanks may stand around the number. -/
def index? (cs : List Char) : Option (Selector × List Char) := do
  let r := cs.dropWhile isBlank
  let (negative, r) := match r with
    | '-' :: r => (true, r)
    | r => (false, r)
  let (ds, r) := r.span Char.isDigit
  let n ← Numeric.natural? ds
  let i : Int := if negative then -n else n
  match r.dropWhile isBlank with
  | ']' :: r => if Numeric.isSigned64 i then some (.index i, r) else none
  | _ => none

/-- The steps behind the first one: names behind points, and indices in brackets. The fuel bounds
their number. -/
def selectors? : Nat → List Char → Option (List Selector)
  | _, [] => some []
  | fuel + 1, '.' :: r => do
    let (s, r) ← name? r
    some (s :: (← selectors? fuel r))
  | fuel + 1, '[' :: r => do
    let (s, r) ← index? r
    some (s :: (← selectors? fuel r))
  | _, _ => none

/-- The path that a text spells, if it spells one. It begins with a name. -/
def path? (text : String) : Option (List Selector) := do
  let (s, r) ← name? text.toList
  some (s :: (← selectors? r.length r))

/-- The rows of a table as a layer, with all names in lower case. A name that spells a path is
one. -/
def ofRows (rows : List (String × Setting)) : Layer :=
  rows.map fun (name, s) =>
    let name := name.toLower
    ((path? name).getD [.name name], s.lowerNames)

end Layer

namespace Setting

/-- The setting that the text of a variable stands for: what reads as a truth value, an integer of
sixty-four bits or a double is one, and everything else is text. -/
def ofText (text : String) : Setting :=
  let word := String.ofList (Numeric.lower text.toList)
  if word = "true" then .flag true
  else if word = "false" then .flag false
  else match (Numeric.integer? text.toList).filter Numeric.isSigned64 with
    | some n => .int n
    | none =>
      match Numeric.double? text.toList with
      | some x => .double x
      | none => .text text

end Setting

/-- Variables with their texts. -/
abbrev Environment := List (String × String)

namespace Environment

/-- A process can have these variables: a name is there and holds no equals sign, and neither names
nor texts hold a NUL. -/
def isPossible (env : Environment) : Bool :=
  env.all fun (name, text) => !name.isEmpty && !name.toList.contains '='
    && !(name.toList ++ text.toList).contains '\x00'

/-- The letters before the names of variables that matter. -/
def stem : List Char := "meld__".toList

/-- Two underscores are read as a point. -/
def pointed : List Char → List Char
  | '_' :: '_' :: r => '.' :: pointed r
  | c :: r => c :: pointed r
  | [] => []

/-- The path that the name of a variable spells, if it spells one. -/
def path? (name : String) : Option (List Selector) :=
  let cs := Numeric.lower name.toList
  if stem.isPrefixOf cs then Layer.path? (String.ofList (pointed (cs.drop stem.length))) else none

/-- What a variable sets. Empty variables set nothing. -/
def entry? : String × String → Option (List Selector × Setting)
  | (name, text) => if text.isEmpty then none else (path? name).map fun p => (p, .ofText text)

/-- The variables as a layer. -/
def layer (env : Environment) : Layer := env.filterMap entry?

end Environment

namespace FileTree

/-- What files with settings have behind their names. -/
def ending : String := ".toml"

/-- The text of the file that a name means: the file of that name, which needs the right ending, or
else the one with the ending behind its name. -/
def settingsText? (t : FileTree) (name : String) : Option String :=
  let path := t.absolute name
  let steps := (Steps.ofPath path).moving
  let last := steps.getLastD ".."
  match (t.entry? path).bind Entry.text? with
  | some text => if last.endsWith ending && last ≠ ending then some text else none
  | none =>
    if last = ".." ∨ (refused? path).isSome then none
    else match (t.start path).bind (walk · (steps.dropLast ++ [last ++ ending])) with
      | .ok trail => trail.here.bind Entry.text?
      | .error _ => none

/-- The layer in the file that a name means. Names in files are read without regard to case. -/
def layer? (t : FileTree) (name : String) : Option Layer := do
  let s ← Toml.parse? (← t.settingsText? name)
  some (.ofRows s.rows)

end FileTree

/-- Why a configuration cannot be loaded. -/
inductive LoadFault where
  /-- Some part cannot be found, or be read as what it has to be. -/
  | unreadable
  /-- An item is to be set that a list cannot have. -/
  | impossibleItem
  deriving DecidableEq

namespace LoadFault

/-- What there is, or else this fault. -/
def need {α : Type} (fault : LoadFault) : Option α → Except LoadFault α
  | some a => .ok a
  | none => .error fault

end LoadFault

namespace Config

/-- The configuration in force with a file and the environment over a base. -/
def layered (base : Config) (file : Option Layer) (env : Environment) :
    Except LoadFault Config := do
  let below ← LoadFault.unreadable.need base.toSetting?
  let file ← LoadFault.unreadable.need file
  let below ← LoadFault.impossibleItem.need (file.onto? below)
  let below ← LoadFault.impossibleItem.need (env.layer.onto? below)
  LoadFault.unreadable.need (ofSetting? below)

/-- The configuration of a process: the file that the variable `CONFIG_PATH` names and the
environment, over the defaults. -/
def load (t : FileTree) (env : Environment) : Except LoadFault Config :=
  match env.findRev? (·.1 == "CONFIG_PATH") with
  | some (_, name) => default.layered (t.layer? name) env
  | none => default.layered (some []) env

/-- A configuration with a further file laid over it, and the environment over both. -/
def override (c : Config) (t : FileTree) (env : Environment) (name : String) :
    Except LoadFault Config :=
  c.layered (t.layer? name) env

end Config

end Watchtower
