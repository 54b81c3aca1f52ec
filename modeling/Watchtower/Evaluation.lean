import Watchtower.Attestation
import Watchtower.Fault
import Watchtower.Log
import Watchtower.Watcher

/-!
Whether a watcher matches an attestation.

A watcher matches if its filter admits the attestation, its primary predicate (if it has one)
accepts it, and so does its antecedent (if it has one), in this order. Predicates are put
to evaluators; one that is missing or fails counts as no match.
-/

namespace Watchtower

open Numeric (Single)

/-- What the host process answers about predicates. -/
structure Evaluators where
  query : Option (String → Attestation → Except Fault Bool)
  similarity : Option (String → Single → Option Int → Attestation → Except Fault Bool)

/-- A predicate put to an evaluator. -/
inductive Consultation where
  | query (predicate : String)
  | similarity (query : String) (threshold : Single) (cluster : Option Int)
  deriving DecidableEq

/-- A verdict on an attestation: whether it matched, which predicates were put to evaluators, and
what was said. -/
structure Verdict where
  matched : Bool
  consulted : List Consultation
  events : List Event

namespace Verdict

/-- No predicate had to be asked. -/
def plain (matched : Bool) : Verdict := ⟨matched, [], []⟩

/-- The second verdict counts only if the first is a match. -/
def andThen (v : Verdict) (next : Unit → Verdict) : Verdict :=
  if v.matched then
    let w := next ()
    ⟨w.matched, v.consulted ++ w.consulted, v.events ++ w.events⟩
  else v

/-- An evaluator's answer; a failure is no match. -/
def ofAnswer (asked : Consultation) (failed : Event) : Except Fault Bool → Verdict
  | .ok matched => ⟨matched, [asked], []⟩
  | .error _ => ⟨false, [asked], [failed]⟩

end Verdict

namespace Evaluators

/-- The threshold an evaluator is given: a positive one as it is, else the default. -/
def effective (default threshold : Single) : Single :=
  if threshold.isPositive then threshold else default

/-- The verdict of a query. -/
def askQuery (es : Evaluators) (w : Watcher) (a : Attestation) (predicate : String) : Verdict :=
  match es.query with
  | none => ⟨false, [], [.noEvaluator "query" w.id]⟩
  | some evaluate => .ofAnswer (.query predicate) (.queryFailed w.id) (evaluate predicate a)

/-- The verdict of a similarity predicate. -/
def askSimilarity (es : Evaluators) (default : Single) (w : Watcher) (a : Attestation)
    (query : String) (threshold : Single) (cluster : Option Int) : Verdict :=
  match es.similarity with
  | none => ⟨false, [], [.noEvaluator "similarity" w.id]⟩
  | some evaluate =>
    let threshold := effective default threshold
    .ofAnswer (.similarity query threshold cluster) (.similarityFailed w.id)
      (evaluate query threshold cluster a)

/-- The verdict of the filter. -/
def askFilter (w : Watcher) (a : Attestation) : Verdict :=
  let f := w.rule.filter
  if !f.actors.isEmpty && !a.hasAnyActor f.actors.keys then .plain false
  else if f.admits a.timestamp then .plain true
  else ⟨false, [], [.outsideTimeGate w.id a.id]⟩

/-- The verdict of the primary predicate: the query if there is one, else the similarity. -/
def askPrimary (es : Evaluators) (default : Single) (w : Watcher) (a : Attestation) : Verdict :=
  match w.rule.query, w.rule.similarity with
  | some predicate, _ => es.askQuery w a predicate
  | none, some s => es.askSimilarity default w a s.query s.threshold s.cluster
  | none, none => .plain true

/-- The verdict of the antecedent, which knows no cluster. -/
def askAntecedent (es : Evaluators) (default : Single) (w : Watcher) (a : Attestation) : Verdict :=
  match w.rule.antecedent with
  | some u => es.askSimilarity default w a u.query u.threshold none
  | none => .plain true

/-- The verdict of a watcher. -/
def judge (es : Evaluators) (default : Single) (w : Watcher) (a : Attestation) : Verdict :=
  (askFilter w a).andThen fun _ =>
    (es.askPrimary default w a).andThen fun _ => es.askAntecedent default w a

end Evaluators

end Watchtower
