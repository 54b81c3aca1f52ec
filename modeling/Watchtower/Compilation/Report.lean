import Watchtower.Numeric.Powers
import Watchtower.Text.Quoted

/-!
What a compilation and a clean-up report.
-/

namespace Watchtower

/-- Why a data-flow edge became no watcher. -/
inductive SkipReason where
  /-- The glyph id is no segment. -/
  | invalidGlyphId (id : String)
  /-- The glyph cannot be resolved. -/
  | missingGlyph (id : String)
  /-- The standalone watcher to copy a predicate from is not there or has none. -/
  | missingWatcher (id : String)
  /-- A semantic target is fed by another kind of source. -/
  | unsupportedTarget (tag : String)
  /-- There is no rule for this kind of source. -/
  | unsupportedSource (tag : String)
  deriving DecidableEq

namespace SkipReason

def message : SkipReason → String
  | .invalidGlyphId id => "invalid glyph id " ++ Text.quote id
  | .missingGlyph id => "glyph " ++ id ++ " not found"
  | .missingWatcher id => "no usable watcher " ++ id
  | .unsupportedTarget tag => "unsupported target type " ++ tag
  | .unsupportedSource tag => "unsupported source type " ++ tag

end SkipReason

/-- An edge that became no watcher. -/
structure SkippedEdge where
  source : String
  target : String
  reason : SkipReason
  deriving DecidableEq

/-- The outcome of one compilation. -/
structure CompileReport where
  created : Nat
  replaced : Nat
  unchanged : Nat
  deleted : Nat
  skipped : List SkippedEdge
  /-- Glyphs whose standalone watcher is no longer covered by a compound one. -/
  restored : List String
  /-- The engine has reloaded; it does not try if nothing changed. -/
  reloaded : Bool
  deriving DecidableEq

namespace CompileReport

def empty : CompileReport := ⟨0, 0, 0, 0, [], [], false⟩

/-- How many watchers were written or removed. -/
def touched (r : CompileReport) : Nat := r.created + r.replaced + r.deleted

/-- Some watcher was written or removed. -/
def changed (r : CompileReport) : Bool := 0 < r.touched

/-- What was written or removed can be counted in sixty-four bits. -/
def isCountable (r : CompileReport) : Bool := r.touched < Numeric.pow2 64

end CompileReport

/-- The outcome of deleting what a composition left in the store. -/
structure CleanupReport where
  watchersRemoved : Nat
  cursorsRemoved : Nat
  reloaded : Bool
  deriving DecidableEq

end Watchtower
