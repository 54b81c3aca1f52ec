import Watchtower.Compilation.Diff
import Watchtower.System

/-!
Compiling compositions into watchers, and cleaning up after them.

Compiling brings the stored watchers of a composition in line with its edges and reloads the engine
if it wrote anything. Edges that cannot be resolved are reported and hurt nothing else; a failure of
the store ends the compilation where it stands. Cleaning up does as much as it can.
-/

namespace Watchtower

/-- A compilation that ended well: its report, and the glyphs asked for. -/
structure Compiled where
  report : CompileReport
  lookups : List String

namespace System

/-- Why an id cannot own compiled watchers. -/
def unfit (id : String) : Fault :=
  .invalidComposition id "must be non-empty and must not contain '/'"

/-- What a completed commit adds to the metrics; every outcome is touched. -/
def countCompiled (m : Metrics) (r : CompileReport) : Metrics :=
  { m with compiled := (((m.compiled.add "created" r.created).add "replaced" r.replaced).add
      "deleted" r.deleted).add "skipped" r.skipped.length }

/-- Reloads after a commit that changed something. -/
def reloadIfChanged (s : System) (outage : Outage) (r : CompileReport) : System × CompileReport :=
  if r.changed then
    match s.reload outage with
    | (s, .ok ()) => (s, { r with reloaded := true })
    | (s, .error _) => (s.note [.reloadFailedAfterCompile], r)
  else (s, r)

/-- Stored watchers by id. -/
def byId (ws : List Watcher) : Table Watcher := Table.ofList (ws.map fun w => (w.id, w))

/-- The report of a commit. -/
def reportOf (existing : List Watcher) (plan : Plan) (now : Moment) (c : Commit) :
    CompileReport where
  created := c.created
  replaced := c.replaced
  unchanged := plan.desired.values.countP fun w => (Write.of? (byId existing) now w).isNone
  deleted := c.deleted
  skipped := plan.skipped
  restored := restoredTargets existing plan.desired.values
  reloaded := false

/-- What is stored for a composition, and what it should be compiled to. -/
def prepare (s : System) (outage : Outage) (resolver : Resolver) (x : Plan.Context)
    (c : Composition) : Traced (List Watcher × Plan) := do
  let existing ← (s.access outage).listByStem (Naming.edgeStem c.id)
  let plan ← Plan.make (s.access outage) resolver x c
  .sayAll <| (restoredTargets existing plan.desired.values).map fun glyph =>
    .restores (Naming.semanticWatcher glyph)
  return (existing, plan)

/-- Compiles a composition. -/
def compile (s : System) (outage : Outage) (resolver : Resolver) (config : CompilerConfig)
    (now : Moment) (c : Composition) : System × Except Fault Compiled :=
  if !Naming.isSegment c.id then (s, .error (unfit c.id))
  else
    let prepared := s.prepare outage resolver ⟨c.id, config, now⟩ c
    let s := s.note prepared.events
    match prepared.result with
    | .error f => (s, .error (.store f))
    | .ok (existing, plan) =>
      let commit := Commit.run outage s.store (Write.plan (byId existing) plan.desired now)
      let s := { s with store := commit.store, journal := s.journal ++ commit.events }
      match commit.fault with
      | some f => (s, .error (.store f))
      | none =>
        let report := reportOf existing plan now commit
        let s := { s with metrics := countCompiled s.metrics report }
        let (s, report) := s.reloadIfChanged outage report
        (s.note [.compiled report.created report.replaced report.unchanged report.deleted
          report.skipped.length], .ok ⟨report, plan.lookups⟩)

/-! ### Cleaning up -/

/-- Removes the watchers of a composition, and says how many there were. -/
def removeWatchers (s : System) (outage : Outage) (composition : String) : System × Nat :=
  if Naming.isSegment composition then
    let done := (s.access outage).deleteByStem (Naming.edgeStem composition)
    match done.result with
    | .ok (store, n) => ({ s with store, journal := s.journal ++ done.events }, n)
    | .error _ => (s.note (done.events ++ [Event.watcherCleanupFailed]), 0)
  else (s.note [.ownsNoWatchers], 0)

/-- Removes the cursors of a composition, and says how many there were. -/
def removeCursors (s : System) (outage : Outage) (composition : String) : System × Nat :=
  let done := (s.access outage).deleteCursors composition
  match done.result with
  | .ok (store, n) => ({ s with store, journal := s.journal ++ done.events }, n)
  | .error _ => (s.note (done.events ++ [Event.cursorCleanupFailed]), 0)

/-- Reloads, and says whether that succeeded. -/
def reloadAfterCleanUp (s : System) (outage : Outage) : System × Bool :=
  match s.reload outage with
  | (s, .ok ()) => (s, true)
  | (s, .error _) => (s.note [.reloadFailedAfterCleanup], false)

/-- Removes what a composition left in the store, and reloads. No stage waits for the success of
another one. -/
def cleanUp (s : System) (outage : Outage) (composition : String) : System × CleanupReport :=
  let (s, watchersRemoved) := s.removeWatchers outage composition
  let (s, cursorsRemoved) := s.removeCursors outage composition
  let (s, reloaded) := s.reloadAfterCleanUp outage
  (s.note [.cleanedUp watchersRemoved cursorsRemoved], ⟨watchersRemoved, cursorsRemoved, reloaded⟩)

end System

end Watchtower
