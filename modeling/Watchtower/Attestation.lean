import Watchtower.Json
import Watchtower.Moment
import Watchtower.Table

/-!
Attestations: immutable records of something that was observed, and the text that similarity
predicates see of them.
-/

namespace Watchtower

/-- An attested fact. Attribute values are canonical JSON. -/
structure Attestation where
  id : String
  subjects : Labels
  predicates : Labels
  contexts : Labels
  actors : Labels
  timestamp : Moment
  source : String
  attributes : Table Json

/-- Equality of texts up to the case of the letters `A` to `Z`. -/
def sameActor (a b : String) : Bool := a.toList.map Char.toLower == b.toList.map Char.toLower

/-- The nonempty strings that an attribute value shows: itself, or the items of an array. -/
def Json.visibleTexts : Json → List String
  | .string s => [s].filter fun s => s ≠ ""
  | .array items => (items.filterMap Json.asString?).filter fun s => s ≠ ""
  | _ => []

namespace Attestation

/-- An attestation of nothing yet. -/
def bare (id : String) (timestamp : Moment) : Attestation :=
  ⟨id, .empty, .empty, .empty, .empty, timestamp, "", .empty⟩

/-- One of the wanted actors is among the attestation's, up to the case of ASCII letters. -/
def hasAnyActor (a : Attestation) (wanted : List String) : Bool :=
  wanted.any fun w => a.actors.keys.any fun x => sameActor x w

/-- The text that similarity is measured against: what the attributes show in the order of their
keys or, if they show nothing, the predicates, subjects and contexts. -/
def text (a : Attestation) : String :=
  let shown := a.attributes.values.flatMap Json.visibleTexts
  " ".intercalate <|
    if shown.isEmpty then a.predicates.keys ++ a.subjects.keys ++ a.contexts.keys else shown

end Attestation

end Watchtower
