import Watchtower.Table

/-!
File trees: directories and files under names.

A path is walked step by step from the root or from the tree's working place. Whoever goes through
a file meets no directory, and whoever goes through nothing finds nothing. A directory is made
together with the directories around it, the innermost one that can be made first.
-/

namespace Watchtower

/-- Names of directories on the way from the root, and a name of its own. -/
abbrev Place := List String

/-- A file, or a directory with what it holds. -/
inductive Entry where
  | directory (rows : List (String × Entry))
  /-- A directory that shows nothing and has no room for more. -/
  | sealed
  | file (text : String)

namespace Entry

def isDirectory : Entry → Bool
  | file _ => false
  | _ => true

def text? : Entry → Option String
  | file text => some text
  | _ => none

/-- What a directory holds under a name. -/
def child? (name : String) : Entry → Option Entry
  | directory rows => Table.find name rows
  | _ => none

/-- The entry with something put at a place within it; directories on the way are made. -/
def put (e : Entry) : Place → Entry → Entry
  | [], _ => e
  | name :: place, directory rows =>
    directory (Table.place name (put e place ((Table.find name rows).getD (directory []))) rows)
  | _ :: _, other => other

end Entry

/-- Why something at a path cannot be had. -/
inductive PathTrouble where
  | missing
  /-- A directory is to be made where something stands. -/
  | taken
  /-- Something on the way is a file. -/
  | notDirectory
  | nameTooLong
  | holdsNul
  deriving DecidableEq

namespace PathTrouble

def message : PathTrouble → String
  | missing => "No such file or directory (os error 2)"
  | taken => "File exists (os error 17)"
  | notDirectory => "Not a directory (os error 20)"
  | nameTooLong => "File name too long (os error 36)"
  | holdsNul => "file name contained an unexpected NUL byte"

end PathTrouble

/-- The steps of a path in their order. -/
abbrev Steps := List String

namespace Steps

/-- The names between the slashes of a path; a slash at the end adds none. -/
def ofPath (path : String) : Steps := (path.splitOn "/").filter (· ≠ "")

/-- The steps without those that stay where they are. -/
def moving (steps : Steps) : Steps := steps.filter (· ≠ ".")

/-- The steps to the directory around the end of a path. -/
def parent (steps : Steps) : Steps := steps.moving.dropLast

theorem length_parent_lt {steps : Steps} (h : steps ≠ []) : steps.parent.length < steps.length := by
  have := List.length_filter_le (· ≠ ".") steps
  have := List.length_pos_iff.2 h
  simp only [parent, moving, List.length_dropLast]
  omega

end Steps

/-- The directories and files at hand. -/
structure FileTree where
  /-- Where paths start that do not start at the root. -/
  workingPlace : Place
  root : Entry

/-- A way from the root: what stands where it has come to, under its name, with what it has come
through behind it. Nothing may stand at its end. -/
abbrev Trail := List (String × Option Entry)

namespace Trail

/-- What stands at the end of the way. -/
def here : Trail → Option Entry
  | (_, e) :: _ => e
  | [] => none

/-- The place at the end of the way. The root has no name. -/
def place (trail : Trail) : Place := (trail.dropLast.map (·.1)).reverse

end Trail

namespace FileTree

/-- The tree with something more in it. -/
def add (t : FileTree) (place : Place) (e : Entry) : FileTree :=
  { t with root := e.put place t.root }

/-! ### Paths -/

/-- The most bytes of a path. -/
def longestPath : Nat := 4095

/-- The most bytes of a name. -/
def longestName : Nat := 255

/-- The path from the root. -/
def absolute (t : FileTree) (path : String) : String :=
  if path.startsWith "/" then path
  else String.join (t.workingPlace.map fun name => "/" ++ name) ++ "/" ++ path

/-- A path is refused, before it is walked, for what it is made of. -/
def refused? (path : String) : Option PathTrouble :=
  if path.toList.contains '\x00' then some .holdsNul
  else if longestPath < path.utf8ByteSize then some .nameTooLong
  else none

/-- One step further; two points lead back. -/
def step (trail : Trail) (name : String) : Except PathTrouble Trail :=
  match trail.here with
  | none => .error .missing
  | some (.file _) => .error .notDirectory
  | some e =>
    if name = "." then .ok trail
    else if name = ".." then .ok (if trail.length = 1 then trail else trail.drop 1)
    else if longestName < name.utf8ByteSize then .error .nameTooLong
    else .ok ((name, e.child? name) :: trail)

/-- The way along some steps. -/
def walk (trail : Trail) (steps : Steps) : Except PathTrouble Trail := steps.foldlM step trail

/-- The way to where a path starts. -/
def start (t : FileTree) (path : String) : Except PathTrouble Trail :=
  let root := [("", some t.root)]
  if path.startsWith "/" then .ok root else walk root t.workingPlace

/-- What stands at the end of a path. Behind a slash at the end there has to be a directory. -/
def entry? (t : FileTree) (path : String) : Option Entry :=
  let steps := Steps.ofPath path ++ if path.endsWith "/" then ["."] else []
  match refused? path, (t.start path).bind (walk · steps) with
  | none, .ok trail => trail.here
  | _, _ => none

/-! ### Directories -/

/-- The tree with a directory at the end of some steps from a place; nothing may stand there yet. -/
def makeDirectory (t : FileTree) (path : String) (steps : Steps) : Except PathTrouble FileTree := do
  let some name := steps.getLast? | throw .taken
  let around ← walk (← t.start path) steps.dropLast
  let trail ← step around name
  if name = "." ∨ name = ".." ∨ trail.here.isSome then throw .taken
  else match around.here with
    | some .sealed => throw .missing
    | _ => return t.add trail.place (.directory [])

/-- A directory stands at the end of some steps. -/
def hasDirectory (t : FileTree) (path : String) (steps : Steps) : Bool :=
  match (t.start path).bind (walk · steps) with
  | .ok trail => trail.here.any Entry.isDirectory
  | .error _ => false

/-- What an attempt to make a directory comes to: that there is one already does no harm. -/
def settle (t : FileTree) (path : String) (steps : Steps) : FileTree × Except PathTrouble Unit :=
  match t.makeDirectory path steps with
  | .ok t => (t, .ok ())
  | .error trouble => (t, if t.hasDirectory path steps then .ok () else .error trouble)

/-- Makes the directory at the end of some steps from where a path starts, and those around it where
they are missing. -/
def makeAll (t : FileTree) (path : String) (steps : Steps) : FileTree × Except PathTrouble Unit :=
  if _h : steps = [] then (t, .ok ())
  else if t.makeDirectory path steps matches .error .missing then
    match t.makeAll path steps.parent with
    | (t, .ok ()) => t.settle path steps
    | failed => failed
  else t.settle path steps
termination_by steps.length
decreasing_by exact Steps.length_parent_lt _h

/-- Makes the directory at a path with all around it. -/
def makeDirectories (t : FileTree) (path : String) : FileTree × Except PathTrouble Unit :=
  match refused? path with
  | some trouble => (t, .error trouble)
  | none => t.makeAll path (Steps.ofPath path)

/-- A path extended by one more name. -/
def within (path name : String) : String :=
  if path.endsWith "/" then path ++ name else path ++ "/" ++ name

/-- What hinders a file of some name in the directory at a path. -/
def obstacle? (t : FileTree) (path name : String) : Option PathTrouble :=
  match refused? (within path name) with
  | some trouble => some trouble
  | none =>
    match (t.start path).bind (walk · (Steps.ofPath path)) with
    | .error trouble => some trouble
    | .ok around =>
      match step around name, around.here with
      | .error trouble, _ => some trouble
      | .ok _, some .sealed => some .missing
      | .ok _, _ => none

end FileTree

end Watchtower
