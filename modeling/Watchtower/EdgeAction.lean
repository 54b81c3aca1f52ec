import Watchtower.Json.Record

/-!
The payload by which a compiled watcher remembers its edge.
-/

namespace Watchtower

/-- The coordinates of an edge, and the tag of its target if the target is to be run. -/
structure EdgeAction where
  target : String
  targetTag : Option String
  composition : String
  source : String
  deriving DecidableEq

namespace EdgeAction

/-- The JSON form; a missing tag is left out. -/
def toJson (a : EdgeAction) : Json :=
  .object <|
    ("target_glyph_id", .string a.target)
      :: ((a.targetTag.map fun t => ("target_glyph_type", Json.string t)).toList
        ++ [("composition_id", .string a.composition), ("source_glyph_id", .string a.source)])

/-- The names of the fields in order. -/
def fields : List String :=
  ["target_glyph_id", "target_glyph_type", "composition_id", "source_glyph_id"]

/-- Reads the JSON form. -/
def ofJson? (v : Json) : Option EdgeAction := do
  match ← v.slots? fields with
  | [target, tag, composition, source] =>
    some {
      target := ← target.required Json.text?
      targetTag := ← tag.optional Json.text?
      composition := ← composition.required Json.text?
      source := ← source.required Json.text? }
  | _ => none

/-- All three ids are there. -/
def isComplete (a : EdgeAction) : Bool := a.composition ≠ "" && a.source ≠ "" && a.target ≠ ""

/-- The payload text. -/
def toPayload (a : EdgeAction) : String := a.toJson.render

/-- The coordinates that a payload gives, if it gives all of them. -/
def ofPayload? (payload : String) : Option EdgeAction := do
  let a ← ofJson? (← Json.parse? payload)
  if a.isComplete then some a else none

end EdgeAction

end Watchtower
