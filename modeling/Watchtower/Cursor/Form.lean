import Watchtower.Cursor
import Watchtower.Json.Record

/-!
The JSON form of cursors.
-/

namespace Watchtower.Cursor

def toJson (c : Cursor) : Json :=
  .object [("composition_id", .string c.composition), ("from_glyph_id", .string c.source),
    ("to_glyph_id", .string c.target), ("last_processed_id", .string c.lastId),
    ("last_processed_at", .ofMoment c.lastAt)]

def ofJson? (v : Json) : Option Cursor := do
  let names := ["composition_id", "from_glyph_id", "to_glyph_id", "last_processed_id",
    "last_processed_at"]
  match ← v.slots? names with
  | [composition, source, target, lastId, lastAt] =>
    some {
      composition := ← composition.required Json.text?
      source := ← source.required Json.text?
      target := ← target.required Json.text?
      lastId := ← lastId.required Json.text?
      lastAt := ← lastAt.required Json.moment? }
  | _ => none

end Watchtower.Cursor
