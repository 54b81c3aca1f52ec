import Watchtower.Numeric.Double
import Watchtower.Table

/-!
Settings as they come from files, variables and other configurations: trees of tables.

A layer is laid over what is in force row by row: a row of the layer replaces the row below it,
except that a table is laid over the row below it in the same way, so that it changes only what it
names. What is to be set may also be chosen by a path of names and indices; whatever the path goes
through becomes a table or a list if it is none.
-/

namespace Watchtower

open Numeric (Double)

/-- A setting or a group of settings. -/
inductive Setting where
  /-- A place in a list that has been made but not set. -/
  | unset
  | flag (b : Bool)
  | int (n : Int)
  | double (x : Double)
  | text (s : String)
  | list (items : List Setting)
  | table (rows : List (String × Setting))

namespace Setting

/-- No settings. -/
def empty : Setting := .table []

/-- The rows of a table; nothing else has rows. -/
def rows : Setting → List (String × Setting)
  | .table rs => rs
  | _ => []

/-- The items of a list; nothing else has items. -/
def items : Setting → List Setting
  | .list ss => ss
  | _ => []

/-- The setting at the end of a path of names. -/
def at? : List String → Setting → Option Setting
  | [], s => some s
  | name :: path, s => (Table.find name s.rows).bind (at? path)

mutual

/-- What is in force once a setting is laid over what is below it, if there is something. -/
def onto : Setting → Option Setting → Setting
  | .table rs, below => ontoAll rs (below.getD empty)
  | s, _ => s

/-- Rows laid over what is below them. What is no table gives way to the first row. -/
def ontoAll : List (String × Setting) → Setting → Setting
  | [], below => below
  | (name, s) :: rs, below =>
    ontoAll rs (.table (Table.place name (s.onto (Table.find name below.rows)) below.rows))

end

/-! ### Paths -/

/-- A step from a setting to one within it. -/
inductive Selector where
  | name (name : String)
  /-- An index counts from the end if it is negative. -/
  | index (index : Int)
  deriving DecidableEq

/-- The most items of a list that is made by setting one of them. -/
def longestList : Nat := Numeric.pow2 27

/-- The position that an index means in a list of some length. A position behind the end is one too,
as the list can be made longer. -/
def position? (length : Nat) : Int → Option Nat
  | .ofNat n => if n < longestList then some n else none
  | .negSucc n => if n < length then some (length - 1 - n) else none

/-- Items with enough behind them for there to be one at a position. -/
def reaching (position : Nat) (items : List Setting) : List Setting :=
  items ++ List.replicate (position + 1 - items.length) .unset

/-- What is in force once a setting is set at the end of a path. An item of a list is replaced. None
if an index lies before the first item or is too great. -/
def place (s : Setting) : List Selector → Option Setting → Option Setting
  | [], below => some (s.onto below)
  | .name name :: path, below => do
    let rows := (below.getD empty).rows
    let inner ← place s path (Table.find name rows)
    some (.table (Table.place name inner rows))
  | .index i :: path, below => do
    let items := (below.getD empty).items
    let k ← position? items.length i
    let items := reaching k items
    let inner ← if path.isEmpty then some s else place s path items[k]?
    some (.list (items.set k inner))

mutual

/-- All names in lower case. -/
def lowerNames : Setting → Setting
  | .list items => .list (lowerItems items)
  | .table rs => .table (lowerRows rs)
  | s => s

def lowerItems : List Setting → List Setting
  | [] => []
  | s :: ss => lowerNames s :: lowerItems ss

def lowerRows : List (String × Setting) → List (String × Setting)
  | [] => []
  | (name, s) :: rs => Table.place name.toLower (lowerNames s) (lowerRows rs)

end

/-- What the fields of a record are set to: a table has them by name, a list in order, and nothing
else is a record. What a record has beyond its fields is passed over. -/
def slots? (names : List String) : Setting → Option (List (Option Setting))
  | .table rs => some (names.map fun name => Table.find name rs)
  | .list items => some ((List.range names.length).map fun i => items[i]?)
  | _ => none

end Setting

end Watchtower
