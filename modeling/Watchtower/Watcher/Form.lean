import Watchtower.Json.Record
import Watchtower.Watcher

/-!
The JSON form of watchers: one flat record of the rule, the statistics and the dates.
-/

namespace Watchtower

namespace ActionKind

/-- A kind is its name, or an object that holds nothing under the name. -/
def ofJson? : Json → Option ActionKind
  | .string name => ofName? name
  | .object [(name, .null)] => ofName? name
  | _ => none

end ActionKind

namespace Filter

def toJson (f : Filter) : Json :=
  .object [("actors", .ofLabels f.actors), ("time_start", .ofOption .ofMoment f.timeStart),
    ("time_end", .ofOption .ofMoment f.timeEnd)]

def ofJson? (v : Json) : Option Filter := do
  match ← v.slots? ["actors", "time_start", "time_end"] with
  | [actors, start, stop] =>
    some {
      actors := ← actors.required Json.labels?
      timeStart := ← start.optional Json.moment?
      timeEnd := ← stop.optional Json.moment? }
  | _ => none

end Filter

namespace Similarity

def toJson (s : Similarity) : Json :=
  .object [("query", .string s.query), ("threshold", .ofSingle s.threshold),
    ("cluster_id", .ofOption .ofInt s.cluster)]

def ofJson? (v : Json) : Option Similarity := do
  match ← v.slots? ["query", "threshold", "cluster_id"] with
  | [query, threshold, cluster] =>
    some {
      query := ← query.required Json.text?
      threshold := ← threshold.required Json.single?
      cluster := ← cluster.optional Json.signed? }
  | _ => none

end Similarity

namespace Antecedent

def toJson (s : Antecedent) : Json :=
  .object [("query", .string s.query), ("threshold", .ofSingle s.threshold)]

def ofJson? (v : Json) : Option Antecedent := do
  match ← v.slots? ["query", "threshold"] with
  | [query, threshold] =>
    some {
      query := ← query.required Json.text?
      threshold := ← threshold.required Json.single? }
  | _ => none

end Antecedent

namespace Watcher

def toJson (w : Watcher) : Json :=
  .object [("id", .string w.id), ("name", .string w.rule.name), ("enabled", .bool w.rule.enabled),
    ("action_kind", .string w.rule.action.name), ("action_data", .string w.rule.payload),
    ("filter", w.rule.filter.toJson), ("query", .ofString? w.rule.query),
    ("similarity", .ofOption Similarity.toJson w.rule.similarity),
    ("upstream_similarity", .ofOption Antecedent.toJson w.rule.antecedent),
    ("max_fires_per_minute", .ofNat w.rule.maxFires), ("fire_count", .ofNat w.stats.fires),
    ("last_fired_at", .ofOption .ofMoment w.stats.lastFiredAt),
    ("error_count", .ofNat w.stats.errors), ("last_error", .ofString? w.stats.lastError),
    ("created_at", .ofMoment w.createdAt), ("updated_at", .ofMoment w.updatedAt)]

/-- The names of the fields in order. -/
def fields : List String :=
  ["id", "name", "enabled", "action_kind", "action_data", "filter", "query", "similarity",
    "upstream_similarity", "max_fires_per_minute", "fire_count", "last_fired_at", "error_count",
    "last_error", "created_at", "updated_at"]

def ofJson? (v : Json) : Option Watcher := do
  match ← v.slots? fields with
  | [id, name, enabled, action, payload, filter, query, similarity, antecedent, maxFires, fires,
      lastFiredAt, errors, lastError, createdAt, updatedAt] =>
    some {
      id := ← id.required Json.text?
      rule := {
        name := ← name.required Json.text?
        enabled := ← enabled.required Json.bool?
        action := ← action.required ActionKind.ofJson?
        payload := ← payload.required Json.text?
        filter := ← filter.required Filter.ofJson?
        query := ← query.optional Json.text?
        similarity := ← similarity.optional Similarity.ofJson?
        antecedent := ← antecedent.optional Antecedent.ofJson?
        maxFires := ← maxFires.required (Json.unsigned? 32) }
      stats := {
        fires := ← fires.required (Json.unsigned? 64)
        lastFiredAt := ← lastFiredAt.optional Json.moment?
        errors := ← errors.required (Json.unsigned? 64)
        lastError := ← lastError.optional Json.text? }
      createdAt := ← createdAt.required Json.moment?
      updatedAt := ← updatedAt.required Json.moment? }
  | _ => none

end Watcher

end Watchtower
