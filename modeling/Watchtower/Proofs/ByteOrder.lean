import Mathlib.Tactic.Common

/-!
Texts in the order of their bytes.

Tables are in the order of their keys as texts, which the first character decides in which two keys
differ. The bytes of characters are in the order of the characters, whatever comes after them, so
texts are in the order of their bytes (`Text.bytes_lt`).
-/

namespace Watchtower

namespace Text

/-- The bytes of a text. -/
def bytes (s : String) : List UInt8 := s.toUTF8.data.toList

/-- A text is written one character after the other. -/
theorem bytes_eq (s : String) : bytes s = s.toList.flatMap String.utf8EncodeChar := by
  conv => lhs; rw [bytes, ← String.ofList_toList (s := s), String.toUTF8_eq_toByteArray]
  rw [String.toByteArray_ofList, List.utf8Encode, List.toList_data_toByteArray]

/-! ### Single characters -/

/-- The bytes of the character with a number, as numbers. -/
def codes (v : Nat) : List Nat :=
  if v ≤ 0x7f then [v]
  else if v ≤ 0x7ff then [v / 64 % 0x20 + 0xc0, v % 0x40 + 0x80]
  else if v ≤ 0xffff then [v / 4096 % 0x10 + 0xe0, v / 64 % 0x40 + 0x80, v % 0x40 + 0x80]
  else [v / 262144 % 0x08 + 0xf0, v / 4096 % 0x40 + 0x80, v / 64 % 0x40 + 0x80, v % 0x40 + 0x80]

theorem utf8EncodeChar_eq (c : Char) :
    String.utf8EncodeChar c = (codes c.val.toNat).map UInt8.ofNat := by
  unfold String.utf8EncodeChar codes
  dsimp only
  split_ifs <;> rfl

theorem cons_lt_of_lt {a b : Nat} {l m : List UInt8} (h : a < b) (hb : b < 256) :
    UInt8.ofNat a :: l < UInt8.ofNat b :: m := by
  refine List.cons_lt_cons_iff.2 (.inl ?_)
  rwa [UInt8.lt_iff_toNat_lt, UInt8.toNat_ofNat_of_lt' (Nat.lt_trans h hb), UInt8.toNat_ofNat_of_lt' hb]

theorem cons_lt_of_le {a b : Nat} {l m : List UInt8} (h : a ≤ b) (hb : b < 256)
    (htail : a = b → l < m) : UInt8.ofNat a :: l < UInt8.ofNat b :: m := by
  rcases Nat.lt_or_eq_of_le h with hlt | rfl
  · exact cons_lt_of_lt hlt hb
  · exact List.cons_lt_cons_iff.2 (.inr ⟨rfl, htail rfl⟩)

/-- Shorter characters come first, as their first byte is smaller. The bytes of two characters that
are equally long are compared like the digits of their numbers. -/
theorem codes_lt {v w : Nat} (h : v < w) (hw : w < 0x110000) (x y : List UInt8) :
    (codes v).map UInt8.ofNat ++ x < (codes w).map UInt8.ofNat ++ y := by
  unfold codes
  split_ifs
  all_goals first
    | omega
    | exact cons_lt_of_lt (by omega) (by omega)
    | skip
  · exact cons_lt_of_le (by omega) (by omega) fun h₁ => cons_lt_of_lt (by omega) (by omega)
  · refine cons_lt_of_le (by omega) (by omega) fun h₁ => ?_
    exact cons_lt_of_le (by omega) (by omega) fun h₂ => cons_lt_of_lt (by omega) (by omega)
  · refine cons_lt_of_le (by omega) (by omega) fun h₁ => ?_
    refine cons_lt_of_le (by omega) (by omega) fun h₂ => ?_
    exact cons_lt_of_le (by omega) (by omega) fun h₃ => cons_lt_of_lt (by omega) (by omega)

/-- The bytes of a character come before those of a later one, whatever follows. -/
theorem encode_lt {c d : Char} (h : c < d) (x y : List UInt8) :
    String.utf8EncodeChar c ++ x < String.utf8EncodeChar d ++ y := by
  have hd : d.val.toNat < 0x110000 := by
    have hvalid := d.valid
    simp only [UInt32.isValidChar, Nat.isValidChar] at hvalid
    omega
  rw [utf8EncodeChar_eq, utf8EncodeChar_eq]
  exact codes_lt h hd x y

/-! ### Texts -/

theorem flatMap_encode_lt {cs ds : List Char} (h : cs < ds) :
    cs.flatMap String.utf8EncodeChar < ds.flatMap String.utf8EncodeChar := by
  induction h with
  | @nil d ds =>
    rw [List.flatMap_nil, List.flatMap_cons]
    cases henc : String.utf8EncodeChar d with
    | nil => exact absurd henc String.utf8EncodeChar_ne_nil
    | cons b bs => exact List.nil_lt_cons ..
  | cons _ ih =>
    rw [List.flatMap_cons, List.flatMap_cons]
    exact List.append_left_lt ih
  | rel hlt =>
    rw [List.flatMap_cons, List.flatMap_cons]
    exact encode_lt hlt ..

/-- Texts are in the order of their bytes. -/
theorem bytes_lt {s t : String} (h : s < t) : bytes s < bytes t := by
  rw [bytes_eq, bytes_eq]
  exact flatMap_encode_lt (String.lt_iff.1 h)

end Text

end Watchtower
