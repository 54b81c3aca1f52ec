/-!
Blanks: the characters that the Unicode standard gives the property `White_Space`.
-/

namespace Watchtower.Text

/-- A character with the property `White_Space`. -/
def isBlank (c : Char) : Bool :=
  let n := c.toNat
  (0x9 ≤ n && n ≤ 0xd) || n == 0x20 || n == 0x85 || n == 0xa0 || n == 0x1680
    || (0x2000 ≤ n && n ≤ 0x200a) || n == 0x2028 || n == 0x2029 || n == 0x202f || n == 0x205f
    || n == 0x3000

/-- The text from its first character that is not a blank. -/
def trimStart (cs : List Char) : List Char := cs.dropWhile isBlank

end Watchtower.Text
