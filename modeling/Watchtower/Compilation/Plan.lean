import Watchtower.Compilation.Report
import Watchtower.Config
import Watchtower.Glyph
import Watchtower.Store.Access

/-!
What a composition should be compiled to.

A plan is made from the composition, the glyphs' kinds and standalone watchers in the store, and
writes nothing. Edges whose glyphs can be resolved fall into two groups. Edges between semantic
glyphs become compound watchers and come first; all others come after them, so that a chain through
the target of a compound watcher sees it wherever its edges stand in the list.
-/

namespace Watchtower

/-- The kind of a glyph, if there is such a glyph. -/
abbrev Resolver := String → Except Fault (Option GlyphKind)

/-- A data-flow edge whose glyphs are known. -/
structure KnownEdge where
  edge : Edge
  sourceKind : GlyphKind
  targetKind : GlyphKind

namespace KnownEdge

/-- An edge between semantic glyphs. -/
def isCompound (e : KnownEdge) : Bool := e.sourceKind == .semantic && e.targetKind == .semantic

end KnownEdge

/-- What an edge is resolved to. -/
inductive Resolution where
  | compiled (w : Watcher)
  | skipped (reason : SkipReason)
  /-- The target is nothing that a watcher can trigger. -/
  | notActionable

/-- What a composition should be compiled to. -/
structure Plan where
  /-- Watchers by id. -/
  desired : Table Watcher
  skipped : List SkippedEdge
  /-- The glyphs asked for, each once, in the order of first need. -/
  lookups : List String

namespace Plan

/-- The surroundings of a compilation: the composition's id, the settings, and the time. -/
structure Context where
  composition : String
  config : CompilerConfig
  now : Moment

/-! ### Resolving glyphs -/

/-- The kind of a glyph; a look-up that fails finds none. -/
def kind? (resolver : Resolver) (id : String) : Option GlyphKind :=
  match resolver id with
  | .ok kind => kind
  | .error _ => none

/-- The first end of an edge that is no segment. -/
def badEnd? (e : Edge) : Option String := [e.source, e.target].find? fun id => !Naming.isSegment id

/-- An edge with its kinds, or why it has none. -/
def examine (resolver : Resolver) (e : Edge) : Except SkipReason KnownEdge :=
  match badEnd? e with
  | some id => .error (.invalidGlyphId id)
  | none =>
    match kind? resolver e.source, kind? resolver e.target with
    | some source, some target => .ok ⟨e, source, target⟩
    | none, _ => .error (.missingGlyph e.source)
    | _, none => .error (.missingGlyph e.target)

/-- The data-flow edges of a composition. -/
def dataFlow (c : Composition) : List Edge := c.edges.filter Edge.isDataFlow

/-- The glyphs that edges ask for, each once. -/
def needed (edges : List Edge) : List String :=
  ((edges.filter fun e => (badEnd? e).isNone).flatMap fun e => [e.source, e.target]).eraseDups

/-- An edge that is skipped, with the event that says so. -/
def skip (e : Edge) (reason : SkipReason) : Traced SkippedEdge := do
  .say (.skippedEdge e.source e.target)
  return ⟨e.source, e.target, reason⟩

/-! ### Predicates of standalone watchers -/

/-- The similarity predicate of a semantic glyph's standalone watcher. -/
def standaloneSimilarity (a : Access) (glyph : String) : Traced (Option Similarity) := do
  let w ← a.get? (Naming.semanticWatcher glyph)
  return w.bind fun w => w.rule.similarity

/-- The query of a query glyph's standalone watcher. -/
def standaloneQuery (a : Access) (glyph : String) : Traced (Option String) := do
  let w ← a.get? (Naming.queryWatcher glyph)
  return w.bind fun w => w.rule.query

/-- The antecedents of the compound watchers planned so far, by target. -/
abbrev Compounds := Table Antecedent

/-- The antecedent of a compound watcher that covers a glyph. One planned in this run comes first;
stored ones of the same composition are about to be replaced and do not count. -/
def antecedentFor (a : Access) (composition : String) (compounds : Compounds) (glyph : String) :
    Traced (Option Antecedent) :=
  match compounds.get? glyph with
  | some u => pure (some u)
  | none => do
    let found ← a.compoundsFor glyph
    return (found.filter fun w => !Naming.startsWith w.id (Naming.edgeStem composition)).findSome?
      fun w => w.rule.antecedent

/-! ### Watchers of edges -/

/-- At most so many characters. -/
def abbreviate (s : String) (most : Nat) : String := String.ofList (s.toList.take most)

/-- The watcher of an edge, without any predicate. -/
def edgeWatcher (x : Context) (e : Edge) (action : ActionKind) (targetTag : Option String) :
    Watcher where
  id := Naming.edgeWatcher x.composition e.source e.target
  rule := {
    name := "Meld: " ++ abbreviate e.source 8 ++ " → " ++ abbreviate e.target 8
    enabled := true
    action
    payload := EdgeAction.toPayload ⟨e.target, targetTag, x.composition, e.source⟩
    filter := .any
    query := none
    similarity := none
    antecedent := none
    maxFires := x.config.maxFires }
  stats := .none
  createdAt := x.now
  updatedAt := x.now

/-- An edge between semantic glyphs: the target's predicate, with the source's as its antecedent. -/
def resolveCompound (a : Access) (x : Context) (e : KnownEdge) : Traced Resolution := do
  let some source ← standaloneSimilarity a e.edge.source
    | return .skipped (.missingWatcher (Naming.semanticWatcher e.edge.source))
  let some target ← standaloneSimilarity a e.edge.target
    | return .skipped (.missingWatcher (Naming.semanticWatcher e.edge.target))
  let w := edgeWatcher x e.edge .semanticMatch none
  return .compiled { w with rule := { w.rule with
    similarity := some target
    antecedent := some ⟨source.query, source.threshold⟩ } }

/-- Any other edge: its watcher runs the target where the source matches. -/
def resolveOther (a : Access) (x : Context) (compounds : Compounds) (e : KnownEdge) :
    Traced Resolution := do
  if e.targetKind = .semantic then return .skipped (.unsupportedTarget e.targetKind.tag)
  if !e.targetKind.isExecutable then return .notActionable
  let w := edgeWatcher x e.edge .executeGlyph (some e.targetKind.tag)
  match e.sourceKind with
  | .query =>
    let some query ← standaloneQuery a e.edge.source
      | return .skipped (.missingWatcher (Naming.queryWatcher e.edge.source))
    return .compiled { w with rule := { w.rule with query := some query } }
  | .semantic =>
    let some similarity ← standaloneSimilarity a e.edge.source
      | return .skipped (.missingWatcher (Naming.semanticWatcher e.edge.source))
    let antecedent ← antecedentFor a x.composition compounds e.edge.source
    return .compiled { w with rule := { w.rule with
      similarity := some { similarity with cluster := none }, antecedent } }
  | kind =>
    if kind.isProducer then
      let actors := Labels.ofList [Naming.producer e.edge.source]
      return .compiled { w with rule := { w.rule with filter := { w.rule.filter with actors } } }
    else return .skipped (.unsupportedSource kind.tag)

/-! ### The plan -/

/-- What resolved edges come to: watchers by id, and edges that are skipped. -/
structure Outcome where
  desired : Table Watcher
  compounds : Compounds
  skipped : List SkippedEdge

namespace Outcome

/-- Adds the resolution of an edge. Of a target's compound watchers the first provides the
antecedent. -/
def add (o : Outcome) (e : KnownEdge) (r : Resolution) : Traced Outcome :=
  match r with
  | .compiled w =>
    let compounds := match e.isCompound, w.rule.antecedent with
      | true, some u =>
        if o.compounds.contains e.edge.target then o.compounds else o.compounds.put e.edge.target u
      | _, _ => o.compounds
    pure { o with desired := o.desired.put w.id w, compounds }
  | .skipped reason => do
    let s ← skip e.edge reason
    return { o with skipped := o.skipped ++ [s] }
  | .notActionable => do
    .say (.notActionable e.edge.source e.edge.target e.targetKind.tag)
    return o

/-- Resolves one edge between semantic glyphs. -/
def addCompound (a : Access) (x : Context) (o : Outcome) (e : KnownEdge) : Traced Outcome := do
  o.add e (← resolveCompound a x e)

/-- Resolves one other edge. -/
def addOther (a : Access) (x : Context) (o : Outcome) (e : KnownEdge) : Traced Outcome := do
  o.add e (← resolveOther a x o.compounds e)

end Outcome

/-- Examines one more edge. -/
def examineOne (resolver : Resolver) : List KnownEdge × List SkippedEdge → Edge →
    Traced (List KnownEdge × List SkippedEdge)
  | (known, skipped), e =>
    match examine resolver e with
    | .ok k => pure (known ++ [k], skipped)
    | .error reason => do
      let s ← skip e reason
      return (known, skipped ++ [s])

/-- Examines edges: those with known kinds, and those that are skipped. -/
def examineAll (resolver : Resolver) (edges : List Edge) :
    Traced (List KnownEdge × List SkippedEdge) := edges.foldlM (examineOne resolver) ([], [])

/-- The events of look-ups that fail. -/
def lookupEvents (resolver : Resolver) (ids : List String) : List Event :=
  ids.filterMap fun id => match resolver id with
    | .ok _ => none
    | .error _ => some (.lookupFailed id)

/-- The plan of a composition. -/
def make (a : Access) (resolver : Resolver) (x : Context) (c : Composition) : Traced Plan := do
  let edges := dataFlow c
  let lookups := needed edges
  .sayAll (lookupEvents resolver lookups)
  let (known, skipped) ← examineAll resolver edges
  let (compound, other) := known.partition KnownEdge.isCompound
  let o ← compound.foldlM (Outcome.addCompound a x) ⟨.empty, .empty, skipped⟩
  let o ← other.foldlM (Outcome.addOther a x) o
  return ⟨o.desired, o.skipped, lookups⟩

end Plan

end Watchtower
