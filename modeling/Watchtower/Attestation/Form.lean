import Watchtower.Attestation
import Watchtower.Json.Record

/-!
The JSON form of attestations.
-/

namespace Watchtower.Attestation

/-- How deep the values of attributes may be nested: a text may open at most this many arrays and
objects inside each other, of which the record and its attributes are two. -/
def deepestText : Nat := 127

/-- Attributes are the members of an object, in canonical form. -/
def attributes? : Json → Option (Table Json)
  | .object members =>
    if Json.depth (.object members) + 1 ≤ deepestText then
      (Json.canonicalMembers? members).map Table.ofList
    else none
  | _ => none

def toJson (a : Attestation) : Json :=
  .object [("id", .string a.id), ("subjects", .ofLabels a.subjects),
    ("predicates", .ofLabels a.predicates), ("contexts", .ofLabels a.contexts),
    ("actors", .ofLabels a.actors), ("timestamp", .ofMoment a.timestamp),
    ("source", .string a.source), ("attributes", .object a.attributes.rows)]

def ofJson? (v : Json) : Option Attestation := do
  let names := ["id", "subjects", "predicates", "contexts", "actors", "timestamp", "source",
    "attributes"]
  match ← v.slots? names with
  | [id, subjects, predicates, contexts, actors, timestamp, source, attributes] =>
    some {
      id := ← id.required Json.text?
      subjects := ← subjects.withDefault .empty Json.labels?
      predicates := ← predicates.withDefault .empty Json.labels?
      contexts := ← contexts.withDefault .empty Json.labels?
      actors := ← actors.withDefault .empty Json.labels?
      timestamp := ← timestamp.required Json.moment?
      source := ← source.withDefault "" Json.text?
      attributes := ← attributes.withDefault .empty attributes? }
  | _ => none

end Watchtower.Attestation
