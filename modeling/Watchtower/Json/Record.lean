import Watchtower.Json.Reader
import Watchtower.Moment.Text
import Watchtower.Numeric.Literal
import Watchtower.Numeric.Shortest
import Watchtower.Table

/-!
Reading and writing records as JSON.

A record is an object of its fields or an array of them in order. A field may be required, optional
or have a default. In an object unknown members are passed over and a known one must not be
repeated; an array may end early only before fields with a default.
-/

namespace Watchtower.Json

/-- What a record says about one of its fields. -/
inductive Slot where
  /-- The field is there. -/
  | written (v : Json)
  /-- The object has no such member. -/
  | omitted
  /-- The array ends before the field. -/
  | cutOff

/-- What a record says about the fields of these names. -/
def slots? (names : List String) : Json → Option (List Slot)
  | .object members => names.mapM fun name =>
    match members.filter (·.1 == name) with
    | [] => some .omitted
    | [(_, v)] => some (.written v)
    | _ => none
  | .array items =>
    if items.length ≤ names.length then
      some (items.map .written ++ List.replicate (names.length - items.length) .cutOff)
    else none
  | _ => none

namespace Slot

/-- A field that has to be there. -/
def required {α : Type} (read : Json → Option α) : Slot → Option α
  | written v => read v
  | _ => none

/-- A field that an object may leave out or set to `null`. -/
def optional {α : Type} (read : Json → Option α) : Slot → Option (Option α)
  | written .null => some none
  | written v => (read v).map some
  | omitted => some none
  | cutOff => none

/-- A field that stands for a default where it is left out. -/
def withDefault {α : Type} (default : α) (read : Json → Option α) : Slot → Option α
  | written v => read v
  | _ => some default

end Slot

/-! ### Reading single values -/

def text? : Json → Option String
  | .string s => some s
  | _ => none

def bool? : Json → Option Bool
  | .bool b => some b
  | _ => none

/-- An integer within bounds. -/
def intWithin? (low high : Int) : Json → Option Int
  | .number literal => (Numeric.Number.ofLiteral? literal).bind (·.inRange? low high)
  | _ => none

/-- A natural number of at most so many bits. -/
def unsigned? (bits : Nat) (v : Json) : Option Nat :=
  (v.intWithin? 0 (Numeric.pow2 bits - 1 : Nat)).map Int.toNat

/-- An integer of sixty-four bits. -/
def signed? (v : Json) : Option Int :=
  v.intWithin? (-(Numeric.pow2 63 : Int)) (Numeric.pow2 63 - 1 : Nat)

/-- A number, rounded to single precision. -/
def single? : Json → Option Numeric.Single
  | .number literal => (Numeric.Number.ofLiteral? literal).map (·.toSingle)
  | _ => none

def moment? (v : Json) : Option Moment := v.text?.bind Moment.parse?

/-- An array whose items can all be read. -/
def list? {α : Type} (read : Json → Option α) : Json → Option (List α)
  | .array items => items.mapM read
  | _ => none

/-- An array of strings as a set. -/
def labels? (v : Json) : Option Labels := (v.list? text?).map Labels.ofList

/-! ### Canonical values -/

/-- How doubles are written. -/
def doubleLayout : Numeric.Layout := ⟨-5, 15, true, true⟩

/-- How singles are written. -/
def singleLayout : Numeric.Layout := ⟨-6, 12, true, true⟩

/-- The canonical literal of a number. -/
def canonicalLiteral : Numeric.Number → String
  | .int n => toString n
  | .double negative magnitude => doubleLayout.writeSigned .double negative magnitude

mutual

/-- The value in canonical form: literals say no more than their meaning, and members are in the
order of their keys, the last of equal ones kept. None if some part stands for no value. -/
def canonical? : Json → Option Json
  | .null => some .null
  | .bool b => some (.bool b)
  | .number literal => (Numeric.Number.ofLiteral? literal).map fun n => .number (canonicalLiteral n)
  | .string s => some (.string s)
  | .array items => (canonicalItems? items).map .array
  | .object members => (canonicalMembers? members).map fun ms => .object (Table.ofList ms).rows
  | .unreadable => none

/-- Items in canonical form. -/
def canonicalItems? : List Json → Option (List Json)
  | [] => some []
  | v :: vs => do
    let v ← canonical? v
    let vs ← canonicalItems? vs
    some (v :: vs)

/-- Members with their values in canonical form. -/
def canonicalMembers? : List (String × Json) → Option (List (String × Json))
  | [] => some []
  | (k, v) :: ms => do
    let v ← canonical? v
    let ms ← canonicalMembers? ms
    some ((k, v) :: ms)

end

/-! ### Writing single values -/

/-- A single in its own shortest text; what is no finite number is `null`. -/
def ofSingle (x : Numeric.Single) : Json :=
  if x.magnitude < Numeric.Format.single.infinity then
    .number (singleLayout.writeSigned .single x.isNegative x.magnitude)
  else .null

def ofMoment (m : Moment) : Json := .string m.render

/-- The value if there is one, else `null`. -/
def ofOption {α : Type} (write : α → Json) : Option α → Json
  | some a => write a
  | none => .null

def ofLabels (s : Labels) : Json := ofStrings s.keys

end Watchtower.Json
