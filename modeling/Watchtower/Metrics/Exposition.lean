import Watchtower.Metrics

/-!
Metrics as text: families in the order of their names, each with its help, its type and its samples.
-/

namespace Watchtower

/-- The samples of a family: one value, or values by label. -/
inductive Samples where
  | single (value : Nat)
  | labelled (label : String) (values : Tally)

/-- A family of samples. -/
structure Family where
  name : String
  help : String
  kind : String
  samples : Samples

namespace Family

/-- The lines of a family; one without samples has none. -/
def lines (f : Family) : List String :=
  let samples := match f.samples with
    | .single value => [f.name ++ " " ++ toString value]
    | .labelled label values => values.rows.map fun (l, value) =>
      f.name ++ "\x7b" ++ label ++ "=\"" ++ l ++ "\"\x7d " ++ toString value
  if samples.isEmpty then []
  else ("# HELP " ++ f.name ++ " " ++ f.help) :: ("# TYPE " ++ f.name ++ " " ++ f.kind) :: samples

end Family

namespace Metrics

/-- All families in the order of their names. -/
def families (m : Metrics) : List Family :=
  [⟨"meld_active_watchers", "Watchers in the active set", "gauge", .single m.active⟩,
    ⟨"meld_attestations_evaluated_total", "Attestations run through the active watcher set",
      "counter", .single m.evaluated⟩,
    ⟨"meld_compiled_subscriptions_total", "Compiler outcomes per edge", "counter",
      .labelled "outcome" m.compiled⟩,
    ⟨"meld_dispatch_failures_total", "Actions that reported failure", "counter",
      .labelled "action" m.failures⟩,
    ⟨"meld_dispatches_dropped_total", "Matches dropped before dispatch", "counter",
      .labelled "reason" m.dropped⟩,
    ⟨"meld_dispatches_total", "Actions completed successfully", "counter",
      .labelled "action" m.dispatches⟩,
    ⟨"meld_rate_limited_fires_total", "Matches skipped by the per-minute fire cap", "counter",
      .single m.rateLimited⟩,
    ⟨"meld_suppressed_watchers", "Standalone watchers hidden by a compound watcher", "gauge",
      .single m.suppressed⟩,
    ⟨"meld_watcher_matches_total", "Watcher matches before rate limiting", "counter",
      .labelled "action" m.matches_⟩]

/-- The lines that the exporter serves. -/
def exposition (m : Metrics) : List String := m.families.flatMap Family.lines

end Metrics

/-- What the exporter answers to a request: a status, and lines if the answer has a body. -/
structure ExporterReply where
  status : Nat
  lines : Option (List String)

namespace Metrics

/-- A path without its query and fragment. -/
def barePath (path : String) : String :=
  String.ofList (path.toList.takeWhile fun c => c ≠ '?' ∧ c ≠ '#')

/-- Answers a request: the metrics are under one path, for every method. -/
def reply (m : Metrics) (method path : String) : ExporterReply :=
  let path := barePath path
  if path = "/metrics" ∨ path = "/metrics/" then
    ⟨200, if method = "HEAD" then some [] else some m.exposition⟩
  else ⟨404, none⟩

end Metrics

end Watchtower
