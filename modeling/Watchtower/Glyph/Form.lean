import Watchtower.Glyph
import Watchtower.Json.Record

/-!
The JSON form of glyphs, edges and compositions.
-/

namespace Watchtower

namespace GlyphKind

/-- The kinds with a fixed name, by name. -/
def named : List (String × GlyphKind) :=
  [("query", .query), ("semantic", .semantic), ("python", .python), ("prompt", .prompt),
    ("ingest", .ingest), ("note", .note), ("document", .document), ("sub_canvas", .subCanvas),
    ("attestation_display", .attestationDisplay)]

/-- A kind is its name or, for any other symbol, an object that holds the symbol. -/
def toJson (k : GlyphKind) : Json :=
  match k with
  | .other symbol => .object [("other", .string symbol)]
  | k => .string (((named.find? (·.2 == k)).map (·.1)).getD "")

/-- Reads a kind; a named one may also be an object that holds nothing under the name. -/
def ofJson? : Json → Option GlyphKind
  | .string name => named.lookup name
  | .object [("other", .string symbol)] => some (.other symbol)
  | .object [(name, .null)] => named.lookup name
  | _ => none

end GlyphKind

namespace Glyph

def toJson (g : Glyph) : Json :=
  .object [("id", .string g.id), ("kind", g.kind.toJson), ("content", .string g.content)]

def ofJson? (v : Json) : Option Glyph := do
  match ← v.slots? ["id", "kind", "content"] with
  | [id, kind, content] =>
    some {
      id := ← id.required Json.text?
      kind := ← kind.required GlyphKind.ofJson?
      content := ← content.withDefault "" Json.text? }
  | _ => none

end Glyph

namespace Edge

def toJson (e : Edge) : Json :=
  .object [("from", .string e.source), ("to", .string e.target),
    ("direction", .string e.direction), ("position", .ofNat e.position)]

def ofJson? (v : Json) : Option Edge := do
  match ← v.slots? ["from", "to", "direction", "position"] with
  | [source, target, direction, position] =>
    some {
      source := ← source.required Json.text?
      target := ← target.required Json.text?
      direction := ← direction.required Json.text?
      position := ← position.withDefault 0 (Json.unsigned? 32) }
  | _ => none

end Edge

namespace Composition

def toJson (c : Composition) : Json :=
  .object [("id", .string c.id), ("edges", .array (c.edges.map Edge.toJson))]

def ofJson? (v : Json) : Option Composition := do
  match ← v.slots? ["id", "edges"] with
  | [id, edges] =>
    some {
      id := ← id.required Json.text?
      edges := ← edges.withDefault [] (Json.list? Edge.ofJson?) }
  | _ => none

end Composition

end Watchtower
