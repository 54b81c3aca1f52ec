/-!
Glyphs, the nodes of a composition, and the compositions that connect them.
-/

namespace Watchtower

/-- What a glyph does. -/
inductive GlyphKind where
  | query
  | semantic
  | python
  | prompt
  | ingest
  | note
  | document
  | subCanvas
  | attestationDisplay
  | other (symbol : String)
  deriving DecidableEq, Inhabited

namespace GlyphKind

/-- The kind that a symbol, a short tag or a long name stands for. -/
def ofSymbol (symbol : String) : GlyphKind :=
  if symbol ∈ ["⋈", "ax", "query"] then .query
  else if symbol ∈ ["⊨", "se", "semantic"] then .semantic
  else if symbol ∈ ["py", "python"] then .python
  else if symbol ∈ ["⟶", "prompt"] then .prompt
  else if symbol = "ingest" then .ingest
  else if symbol = "note" then .note
  else if symbol ∈ ["doc", "document"] then .document
  else if symbol ∈ ["canvas", "subcanvas", "sub_canvas"] then .subCanvas
  else if symbol ∈ ["as", "attestation", "attestation_display"] then .attestationDisplay
  else .other symbol

/-- The short tag of a kind. -/
def tag : GlyphKind → String
  | .query => "ax"
  | .semantic => "semantic"
  | .python => "py"
  | .prompt => "prompt"
  | .ingest => "ingest"
  | .note => "note"
  | .document => "doc"
  | .subCanvas => "canvas"
  | .attestationDisplay => "as"
  | .other symbol => symbol

/-- Kinds that a watcher can run. -/
def isExecutable : GlyphKind → Bool
  | .python | .prompt => true
  | _ => false

/-- Kinds whose output is attested under an actor of their own. -/
def isProducer (k : GlyphKind) : Bool := k.isExecutable

end GlyphKind

/-- A node of a composition. -/
structure Glyph where
  id : String
  kind : GlyphKind
  content : String

/-- A connection between two glyphs. -/
structure Edge where
  source : String
  target : String
  direction : String
  position : Nat
  deriving DecidableEq

namespace Edge

/-- Only edges to the right carry data. -/
def isDataFlow (e : Edge) : Bool := e.direction == "right"

end Edge

/-- Glyphs connected by edges. -/
structure Composition where
  id : String
  edges : List Edge
  deriving DecidableEq

namespace Composition

/-- One more edge, at the next position. -/
def withEdge (c : Composition) (source target direction : String) : Composition :=
  { c with edges := c.edges ++ [⟨source, target, direction, c.edges.length⟩] }

end Composition

end Watchtower
