import Watchtower.Moment

/-!
Cursors: how far the watcher of an edge has come.
-/

namespace Watchtower

/-- The last attestation processed for an edge. -/
structure Cursor where
  composition : String
  source : String
  target : String
  lastId : String
  lastAt : Moment
  deriving DecidableEq

namespace Cursor

/-- How the keys of a composition's cursors start. -/
def stem (composition : String) : String := composition ++ "\x00"

/-- The key of an edge's cursor. -/
def keyOf (composition source target : String) : String :=
  stem composition ++ source ++ "\x00" ++ target

def key (c : Cursor) : String := keyOf c.composition c.source c.target

end Cursor

end Watchtower
