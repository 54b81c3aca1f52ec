/-!
Names that tie watchers to glyphs and compositions.

A composition compiles its edges into watchers whose ids start with the composition's own stem.
Standalone watchers are named after their glyph. Compositions and glyphs take part only if their id
is a segment, a nonempty text without the separator, which keeps all these names apart.
-/

namespace Watchtower

namespace Naming

/-- What separates the parts of a compiled watcher's id. -/
def separator : Char := '/'

/-- `s` starts with `stem`. -/
def startsWith (s stem : String) : Bool := stem.toList.isPrefixOf s.toList

/-- What follows a stem, if the text starts with it. -/
def after? (stem s : String) : Option String :=
  if startsWith s stem then some (String.ofList (s.toList.drop stem.toList.length)) else none

/-- Ids that may stand between separators. -/
def isSegment (s : String) : Bool := !s.toList.isEmpty && !s.toList.contains separator

/-- How the ids of a composition's compiled watchers start. -/
def edgeStem (composition : String) : String := "meld-edge/" ++ composition ++ "/"

/-- The id of the watcher compiled for an edge. -/
def edgeWatcher (composition source target : String) : String :=
  edgeStem composition ++ source ++ "/" ++ target

/-- How the ids of standalone watchers of semantic glyphs start. -/
def semanticStem : String := "se-glyph-"

/-- The id of a semantic glyph's standalone watcher. -/
def semanticWatcher (glyph : String) : String := semanticStem ++ glyph

/-- The id of a query glyph's standalone watcher. -/
def queryWatcher (glyph : String) : String := "ax-glyph-" ++ glyph

/-- The actor under which a glyph's own output is attested. -/
def producer (glyph : String) : String := "producer:" ++ glyph

end Naming

end Watchtower
