import Mathlib.Tactic.Common
import Watchtower.Watcher

/-!
A payload gives back the coordinates it was written from.

What the printer escapes, the reader's scanner takes for the same characters again, so a string of
any characters survives being written and read (`Json.Piece.scan_escaped`). From this an object of
strings can be read member by member, and then the payload of an edge (`EdgeAction.read_toPayload`).
A watcher that carries the payload therefore knows its edge, unless an id is empty, and no two edges
share a payload.
-/

namespace Watchtower

namespace Json

/-! ### Strings -/

/-- The escapes of control characters are read digit by digit. -/
theorem hexValue?_hexDigit {n : Nat} (h : n < 16) : Text.hexValue? (hexDigit n) = some n := by
  have hall : ∀ n : Fin 16, Text.hexValue? (hexDigit n.val) = some n.val := by decide
  exact hall ⟨n, h⟩

namespace Piece

/-- A control character is no half of a surrogate pair. -/
theorem ofUnit_toNat (c : Char) (h : c.toNat < 32) : ofUnit c.toNat = .char c := by
  unfold ofUnit
  rw [if_neg (by omega), Char.ofNat_toNat]

/-- One character is read from its escape. -/
theorem scan_escapeChar (c : Char) (r : List Char) :
    scan (escapeChar c ++ r) = (scan r).map fun (ps, rest) => (.char c :: ps, rest) := by
  have hbind : ∀ p : Piece, (do let (ps, rest) ← scan r; some (p :: ps, rest)) =
      (scan r).map fun (ps, rest) => (p :: ps, rest) := by
    intro p
    cases scan r <;> rfl
  -- the characters that have an escape of their own
  by_cases hown : c ∈ ['"', '\\', '\n', '\r', '\t', '\x08', '\x0c']
  · simp only [List.mem_cons, List.not_mem_nil, or_false] at hown
    rcases hown with rfl | rfl | rfl | rfl | rfl | rfl | rfl <;> exact hbind _
  simp only [List.mem_cons, List.not_mem_nil, or_false, not_or] at hown
  obtain ⟨hquote, hback, hnl, hcr, htab, hbs, hff⟩ := hown
  by_cases hcontrol : c.toNat < 32
  · have hunit : ((0 * 16 + 0) * 16 + c.toNat / 16) * 16 + c.toNat % 16 = c.toNat := by omega
    have hzero : Text.hexValue? '0' = some 0 := rfl
    simp only [escapeChar, hquote, hback, hnl, hcr, htab, hbs, hff, hcontrol, if_true, if_false,
      List.cons_append, List.nil_append]
    rw [scan, hzero, hexValue?_hexDigit (by omega), hexValue?_hexDigit (by omega)]
    simp only [Option.bind_eq_bind, Option.bind_some]
    rw [hunit, ofUnit_toNat c hcontrol]
    exact hbind _
  · simp only [escapeChar, hquote, hback, hnl, hcr, htab, hbs, hff, hcontrol, if_false,
      List.cons_append, List.nil_append]
    rw [scan]
    · rw [if_neg (by simp [hcontrol, hback])]
      exact hbind _
    all_goals simp_all

/-- A literal is read as the characters it was written from. -/
theorem scan_escaped (s r : List Char) :
    scan (s.flatMap escapeChar ++ '"' :: r) = some (s.map .char, r) := by
  induction s with
  | nil => rfl
  | cons c s ih => rw [List.flatMap_cons, List.append_assoc, scan_escapeChar, ih]; rfl

theorem assemble_chars (s : List Char) : assemble (s.map .char) = some s := by
  induction s with
  | nil => rfl
  | cons c s ih => rw [List.map_cons, assemble, ih]; rfl

end Piece

theorem skipBlanks_quoted (s r : List Char) : skipBlanks (quoted s ++ r) = quoted s ++ r := rfl

theorem scanValue_quoted (fuel : Nat) (s : String) (r : List Char) :
    scanValue (fuel + 1) (quoted s.toList ++ r) = some (.string s, r) := by
  rw [scanValue, skipBlanks_quoted, quoted, List.cons_append, List.append_assoc,
    List.singleton_append]
  simp only [Piece.scan_escaped, Option.bind_eq_bind, Option.bind_some, Piece.assemble_chars,
    String.ofList_toList]

/-! ### Objects of strings -/

/-- The object of these members. -/
def ofTexts (ms : List (String × String)) : Json := .object (ms.map fun m => (m.1, .string m.2))

/-- What the scanner finds of members whose keys can be read. -/
def scanned (ms : List (String × String)) : List (Option (List Char) × Json) :=
  ms.map fun m => (some m.1.toList, .string m.2)

theorem ofMembers_scanned (ms : List (String × String)) : ofMembers (scanned ms) = ofTexts ms := by
  have hkeys : (scanned ms).mapM (fun m => m.1.map fun k => (String.ofList k, m.2)) =
      some (ms.map fun m => (m.1, Json.string m.2)) := by
    induction ms with
    | nil => rfl
    | cons m ms ih =>
      rw [scanned, List.map_cons, List.mapM_cons, ← scanned, ih]
      simp [String.ofList_toList]
  simp only [ofMembers, hkeys, ofTexts]

/-- What is behind the first member decides whether more are read. -/
theorem scanMembers_text (m : String × String) (fuel : Nat) (r : List Char) :
    scanMembers (fuel + 2) (quoted m.1.toList ++ ':' :: (quoted m.2.toList ++ r)) =
      match skipBlanks r with
      | ',' :: r => do
        let (ms, r) ← scanMembers (fuel + 1) r
        some ((some m.1.toList, .string m.2) :: ms, r)
      | '}' :: r => some ([(some m.1.toList, .string m.2)], r)
      | _ => none := by
  rw [scanMembers, skipBlanks_quoted, quoted, List.cons_append, List.append_assoc,
    List.singleton_append]
  simp only [Piece.scan_escaped, Option.bind_eq_bind, Option.bind_some, Piece.assemble_chars]
  -- what is left to read begins with the colon
  change (scanValue (fuel + 1) (quoted m.2.toList ++ r)).bind _ = _
  rw [scanValue_quoted]
  rfl

/-- Members are read one after the other. The fuel has to last for all of them. -/
theorem scanMembers_texts (m : String × String) (ms : List (String × String)) (fuel : Nat)
    (r : List Char) :
    scanMembers (ms.length + fuel + 2) (quoted m.1.toList ++ ':' :: (quoted m.2.toList ++
        (membersTail (ms.map fun m => (m.1, .string m.2)) ++ r))) =
      some (scanned (m :: ms), r) := by
  induction ms generalizing m with
  | nil => exact scanMembers_text m _ _
  | cons m' ms ih =>
    have hrest := ih m'
    rw [show ms.length + fuel + 2 = (m' :: ms).length + fuel + 1 by
      rw [List.length_cons]; omega] at hrest
    rw [scanMembers_text]
    simp only [List.map_cons, membersTail, chars, List.cons_append, List.append_assoc]
    rw [show ∀ cs, skipBlanks (',' :: cs) = ',' :: cs from fun _ => rfl]
    simp only [hrest]
    rfl

theorem scanValue_object (fuel : Nat) (r : List Char) :
    scanValue (fuel + 1) ('{' :: '"' :: r) =
      (scanMembers fuel ('"' :: r)).map fun (ms, rest) => (ofMembers ms, rest) := by
  rw [scanValue, show skipBlanks ('{' :: '"' :: r) = '{' :: '"' :: r from rfl]
  change (scanMembers fuel ('"' :: r) >>= fun (ms, rest) => some (ofMembers ms, rest)) = _
  cases scanMembers fuel ('"' :: r) <;> rfl

theorem scanValue_ofTexts (m : String × String) (ms : List (String × String)) (fuel : Nat)
    (hfuel : ms.length + 1 < fuel) :
    scanValue (fuel + 1) (ofTexts (m :: ms)).chars = some (ofTexts (m :: ms), []) := by
  have hmembers := scanMembers_texts m ms (fuel - ms.length - 2) []
  rw [show ms.length + (fuel - ms.length - 2) + 2 = fuel by omega] at hmembers
  rw [List.append_nil, quoted, List.cons_append] at hmembers
  conv_lhs => rw [ofTexts, List.map_cons, chars, chars, quoted, List.cons_append]
  rw [scanValue_object, hmembers, ← ofMembers_scanned]
  rfl

/-- Every member takes up some characters. -/
theorem length_le_membersTail (ms : List (String × Json)) :
    ms.length ≤ (membersTail ms).length := by
  induction ms with
  | nil => exact Nat.zero_le _
  | cons m ms ih =>
    simp only [membersTail, List.length_cons, List.length_append]
    omega

theorem length_lt_chars (m : String × String) (ms : List (String × String)) :
    ms.length < (ofTexts (m :: ms)).chars.length := by
  have htail := length_le_membersTail (ms.map fun m => (m.1, .string m.2))
  rw [List.length_map] at htail
  simp only [ofTexts, List.map_cons, chars, List.length_cons, List.length_append]
  omega

/-- An object of strings is read as it was written. -/
theorem parse?_render_ofTexts (m : String × String) (ms : List (String × String)) :
    parse? (ofTexts (m :: ms)).render = some (ofTexts (m :: ms)) := by
  have hlong := length_lt_chars m ms
  rw [parse?, render, String.toList_ofList]
  simp only [scanValue_ofTexts m ms (2 * (ofTexts (m :: ms)).chars.length + 1) (by omega)]
  rfl

end Json

/-! ### Payloads -/

namespace EdgeAction

/-- The fields of the JSON form, a missing tag left out. -/
def texts (a : EdgeAction) : List (String × String) :=
  (a.targetTag.map fun t => ("target_glyph_type", t)).toList
    ++ [("composition_id", a.composition), ("source_glyph_id", a.source)]

theorem toJson_eq_ofTexts (a : EdgeAction) :
    a.toJson = Json.ofTexts (("target_glyph_id", a.target) :: a.texts) := by
  obtain ⟨target, tag, composition, source⟩ := a
  cases tag <;> rfl

theorem ofJson?_toJson (a : EdgeAction) : ofJson? a.toJson = some a := by
  obtain ⟨target, tag, composition, source⟩ := a
  cases tag <;> rfl

/-- What is read from a payload are the coordinates it was written from, whatever characters they
have, and complete or not. -/
theorem read_toPayload (a : EdgeAction) : (Json.parse? a.toPayload).bind ofJson? = some a := by
  have hparse : Json.parse? a.toJson.render = some a.toJson := by
    rw [toJson_eq_ofTexts]
    exact Json.parse?_render_ofTexts _ _
  rw [toPayload, hparse, Option.bind_some, ofJson?_toJson]

/-- Reading undoes writing, so nothing about the coordinates is lost in a payload. -/
theorem toPayload_injective : Function.Injective toPayload := by
  intro a b h
  refine Option.some.inj ?_
  calc
    some a = (Json.parse? a.toPayload).bind ofJson? := (read_toPayload a).symm
    _ = (Json.parse? b.toPayload).bind ofJson? := by rw [h]
    _ = some b := read_toPayload b

theorem isComplete_iff (a : EdgeAction) :
    a.isComplete = true ↔ a.composition ≠ "" ∧ a.source ≠ "" ∧ a.target ≠ "" := by
  simp [isComplete, and_assoc]

/-- A payload gives the coordinates it was written from if they are complete, else nothing. -/
theorem ofPayload?_toPayload_eq_ite (a : EdgeAction) :
    ofPayload? a.toPayload = if a.isComplete then some a else none := by
  obtain ⟨v, hparse, hread⟩ := Option.bind_eq_some_iff.1 (read_toPayload a)
  simp only [ofPayload?, hparse, hread, Option.bind_eq_bind, Option.bind_some]

theorem ofPayload?_toPayload {a : EdgeAction} (h : a.isComplete = true) :
    ofPayload? a.toPayload = some a := by
  rw [ofPayload?_toPayload_eq_ite, if_pos h]

end EdgeAction

namespace Watcher

/-- A watcher that carries the payload of an edge knows exactly this edge, whatever characters its
ids and its tag are made of, with or without a tag. If an id is empty it knows no edge. No two edges
have the same payload. -/
theorem payload_round_trips :
    (∀ (w : Watcher) (a : EdgeAction), w.rule.payload = a.toPayload →
      (a.composition ≠ "" ∧ a.source ≠ "" ∧ a.target ≠ "" → w.rule.edge? = some a) ∧
      (a.composition = "" ∨ a.source = "" ∨ a.target = "" → w.rule.edge? = none)) ∧
    Function.Injective EdgeAction.toPayload := by
  refine ⟨?_, EdgeAction.toPayload_injective⟩
  intro w a hpayload
  have hedge : w.rule.edge? = if a.isComplete then some a else none := by
    rw [Rule.edge?, hpayload, EdgeAction.ofPayload?_toPayload_eq_ite]
  constructor
  · intro hids
    rw [hedge, if_pos (a.isComplete_iff.2 hids)]
  · intro hempty
    have hincomplete : ¬ a.isComplete = true := by
      rw [EdgeAction.isComplete_iff]
      rintro ⟨hcomposition, hsource, htarget⟩
      rcases hempty with h | h | h
      exacts [hcomposition h, hsource h, htarget h]
    rw [hedge, if_neg hincomplete]

end Watcher

namespace Sample

/-- Ids with all that has to be escaped, a quotation mark, a backslash and controls with and without
a short escape, and with characters that are written as they are, one of them beyond the basic plane.
The tag is there but empty. -/
def quaint : EdgeAction where
  target := "\"\\/\x00\x1f\x7f"
  targetTag := some ""
  composition := "\n\r\t\x08\x0c"
  source := "é😀"

/-- A watcher with the payload of an edge. -/
def carrier (a : EdgeAction) : Watcher where
  id := "w"
  rule := ⟨"n", true, .executeGlyph, a.toPayload, .any, none, none, none, 60⟩
  stats := .none
  createdAt := default
  updatedAt := default

end Sample

namespace Watcher

theorem sample_round_trips :
    (Sample.carrier Sample.quaint).rule.edge? = some Sample.quaint ∧
    (Sample.carrier { Sample.quaint with source := "" }).rule.edge? = none ∧
    Sample.quaint.toPayload ≠ { Sample.quaint with targetTag := none }.toPayload := by
  refine ⟨?_, ?_, fun h => ?_⟩
  · exact (payload_round_trips.1 (Sample.carrier Sample.quaint) _ rfl).1 (by decide)
  · exact (payload_round_trips.1 (Sample.carrier { Sample.quaint with source := "" }) _ rfl).2
      (by decide)
  · have htag := congrArg EdgeAction.targetTag (payload_round_trips.2 h)
    cases htag

end Watcher

end Watchtower
