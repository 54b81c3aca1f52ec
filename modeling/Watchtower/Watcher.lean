import Watchtower.Attestation
import Watchtower.EdgeAction
import Watchtower.Naming
import Watchtower.Numeric.Single

/-!
Watchers: standing rules that match attestations and fire an action.

A watcher is its rule, which is what a user or the compiler wrote, and its statistics, which only
running it changes. Two watchers state the same rule if every rule field agrees; thresholds are
compared as numbers, so a threshold that is no number never agrees, not even with itself.
-/

namespace Watchtower

open Numeric (Single)

/-- The side effect of a watcher that fires. -/
inductive ActionKind where
  | executeGlyph
  | runPython
  | semanticMatch
  | webhook
  deriving DecidableEq, Inhabited

namespace ActionKind

/-- The name of a kind in records and messages. -/
def name : ActionKind → String
  | .executeGlyph => "execute_glyph"
  | .runPython => "run_python"
  | .semanticMatch => "semantic_match"
  | .webhook => "webhook"

def all : List ActionKind := [.executeGlyph, .runPython, .semanticMatch, .webhook]

/-- The kind of a name. -/
def ofName? (s : String) : Option ActionKind := all.find? fun k => k.name = s

end ActionKind

/-- Structural constraints, checked before any predicate. -/
structure Filter where
  /-- The attestation must carry one of these actors; none means any. -/
  actors : Labels
  timeStart : Option Moment
  timeEnd : Option Moment
  deriving DecidableEq

namespace Filter

/-- No constraint. -/
def any : Filter := ⟨.empty, none, none⟩

/-- The moment is neither before the start nor after the end. -/
def admits (f : Filter) (at_ : Moment) : Bool :=
  !(f.timeStart.any fun start => at_.Before start) && !(f.timeEnd.any fun stop => stop.Before at_)

end Filter

/-- A similarity predicate. -/
structure Similarity where
  query : String
  threshold : Single
  cluster : Option Int
  deriving DecidableEq

/-- What an attestation has to be similar to as well, for a compound watcher. -/
structure Antecedent where
  query : String
  threshold : Single
  deriving DecidableEq

namespace Similarity

/-- The same predicate, its threshold compared as a number. -/
def same (s t : Similarity) : Bool :=
  s.query == t.query && s.threshold.equals t.threshold && s.cluster == t.cluster

end Similarity

namespace Antecedent

/-- The same predicate, its threshold compared as a number. -/
def same (s t : Antecedent) : Bool := s.query == t.query && s.threshold.equals t.threshold

end Antecedent

/-- Agreement of optional values. -/
def sameOption {α : Type} (same : α → α → Bool) : Option α → Option α → Bool
  | none, none => true
  | some a, some b => same a b
  | _, _ => false

/-- What a watcher is to match and to do. -/
structure Rule where
  name : String
  enabled : Bool
  action : ActionKind
  /-- A text that the action interprets. -/
  payload : String
  filter : Filter
  query : Option String
  similarity : Option Similarity
  antecedent : Option Antecedent
  /-- How often the watcher may fire in a rate window; never if zero. -/
  maxFires : Nat
  deriving DecidableEq

/-- What running a watcher has led to. -/
structure Statistics where
  fires : Nat
  lastFiredAt : Option Moment
  errors : Nat
  lastError : Option String
  deriving DecidableEq

namespace Statistics

/-- Nothing has happened yet. -/
def none : Statistics := ⟨0, .none, 0, .none⟩

/-- The greatest count. -/
def limit : Nat := Numeric.pow2 64 - 1

end Statistics

/-- A stored rule. -/
structure Watcher where
  id : String
  rule : Rule
  stats : Statistics
  createdAt : Moment
  updatedAt : Moment
  deriving DecidableEq

namespace Rule

/-- The three primary predicates of which a rule may have one. -/
def primaries (r : Rule) : List Bool :=
  [!r.filter.actors.isEmpty, r.query.isSome, r.similarity.isSome]

/-- A compound rule matches where a semantic predicate and its antecedent both do. -/
def isCompound (r : Rule) : Bool := r.action == .semanticMatch && r.antecedent.isSome

/-- The coordinates of the edge that the rule was compiled for. -/
def edge? (r : Rule) : Option EdgeAction := EdgeAction.ofPayload? r.payload

/-- Every field agrees. -/
def same (r s : Rule) : Bool :=
  r.name == s.name && r.enabled == s.enabled && r.action == s.action && r.payload == s.payload
    && r.filter == s.filter && r.query == s.query
    && sameOption Similarity.same r.similarity s.similarity
    && sameOption Antecedent.same r.antecedent s.antecedent && r.maxFires == s.maxFires

end Rule

/-- Why a watcher must not be stored. -/
inductive WatcherDefect where
  | noId
  | noName
  | severalPrimaries
  | antecedentAlone
  deriving DecidableEq

namespace WatcherDefect

def message : WatcherDefect → String
  | .noId => "id must not be empty"
  | .noName => "name must not be empty"
  | .severalPrimaries => "actor filter, query and similarity predicates are mutually exclusive"
  | .antecedentAlone => "upstream similarity requires a similarity predicate"

end WatcherDefect

namespace Watcher

/-- The first defect, in the order in which they are reported. -/
def defect? (w : Watcher) : Option WatcherDefect :=
  if w.id = "" then some .noId
  else if w.rule.name = "" then some .noName
  else if 1 < w.rule.primaries.count true then some .severalPrimaries
  else if w.rule.antecedent.isSome && w.rule.similarity.isNone then some .antecedentAlone
  else none

/-- The glyph that owns the watcher, if it is a semantic glyph's standalone watcher. -/
def standaloneGlyph? (w : Watcher) : Option String :=
  if w.rule.isCompound then none else Naming.after? Naming.semanticStem w.id

/-- The glyph that a compound watcher covers: the target of its edge. -/
def covers? (w : Watcher) : Option String :=
  if w.rule.isCompound then w.rule.edge?.map (·.target) else none

/-- The same watcher with the same rule; statistics and dates are left aside. -/
def sameRule (v w : Watcher) : Bool := v.id == w.id && v.rule.same w.rule

end Watcher

end Watchtower
