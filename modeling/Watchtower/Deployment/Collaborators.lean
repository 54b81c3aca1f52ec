import Watchtower.Compilation.Plan
import Watchtower.Evaluation

/-!
Simple collaborators of a system: predicates by membership and by substring, glyphs from a table of
symbols, and outages listed by the names of calls.
-/

namespace Watchtower

/-- A list occurs in another one without gaps. -/
def occursIn (needle : List Char) : List Char → Bool
  | [] => needle.isEmpty
  | c :: r => needle.isPrefixOf (c :: r) || occursIn needle r

/-- Queries name a part of the attestation and what it has to hold, with a colon between them. -/
def membershipQuery (predicate : String) (a : Attestation) : Except Fault Bool :=
  let cs := predicate.toList
  let field := String.ofList (cs.takeWhile (· ≠ ':'))
  let value := String.ofList ((cs.dropWhile (· ≠ ':')).drop 1)
  let rejected := .error (.evaluation (.rejected predicate "unknown field"))
  if !cs.contains ':' then rejected
  else match field with
    | "predicate" => .ok (a.predicates.contains value)
    | "subject" => .ok (a.subjects.contains value)
    | "context" => .ok (a.contexts.contains value)
    | "source" => .ok (a.source == value)
    | _ => rejected

/-- A text is similar to what it holds; queries that start with an exclamation mark are refused. -/
def substringSimilarity (query : String) (_ : Numeric.Single) (_ : Option Int) (a : Attestation) :
    Except Fault Bool :=
  match query.toList with
  | '!' :: _ => .error (.evaluation (.rejected query "refused"))
  | cs => .ok (occursIn cs a.text.toList)

/-- The kinds of glyphs by their symbols; one symbol stands for a look-up that fails. -/
def Resolver.ofSymbols (symbols : Table String) : Resolver := fun id =>
  match symbols.get? id with
  | some "!error" => .error (.fatal "glyph store unavailable")
  | some symbol => .ok (some (.ofSymbol symbol))
  | none => .ok none

namespace StoreCall

/-- The name of a call and what it is about. -/
def describe : StoreCall → String × Option String
  | get id => ("get", some id)
  | create id => ("create", some id)
  | createOrReplace id => ("create_or_replace", some id)
  | update id => ("update", some id)
  | delete id => ("delete", some id)
  | deleteByStem stem => ("delete_by_prefix", some stem)
  | list => ("list", none)
  | listByStem stem => ("list_by_prefix", some stem)
  | compoundsFor glyph => ("find_compound", some glyph)
  | recordFire id => ("record_fire", some id)
  | recordError id => ("record_error", some id)
  | cursor composition _ _ => ("get_cursor", some composition)
  | upsertCursor composition _ _ => ("upsert_cursor", some composition)
  | deleteCursors composition => ("delete_cursors", some composition)
  | flush => ("flush", none)

end StoreCall

/-- The outage in which the calls listed fail, by name or by name and subject. -/
def Outage.ofEntries (entries : List String) : Outage := fun call =>
  let (name, subject) := call.describe
  let hit := entries.contains name
    || subject.any fun subject => entries.contains (name ++ ":" ++ subject)
  if hit then some (.conflict ("injected " ++ name)) else .none

end Watchtower
