/-
  LineLexer.Text.WhiteSpace
  ─────────────────────────
  **WHITE SPACE.**

  These are the characters with the property White_Space, in Unicode 17.  They
  are more than the blanks between the tokens of a source: a setting or a
  pattern may have any of them around its words.
-/
import LineLexer.Text.Ranges
import LineLexer.Text.Utf8

namespace LineLexer.WhiteSpace

/-- The numbers of the characters with the property. -/
def ranges : Ranges :=
  [(0x9, 0xD), (0x20, 0x20), (0x85, 0x85), (0xA0, 0xA0), (0x1680, 0x1680), (0x2000, 0x200A),
    (0x2028, 0x2029), (0x202F, 0x202F), (0x205F, 0x205F), (0x3000, 0x3000)]

/-- They ascend, so a number can be looked up. -/
def table : Ranges.Table :=
  ⟨ranges, by decide +kernel⟩

/-- Whether a character has the property. -/
def has (c : Char) : Bool :=
  table.has c.toNat

/-- A text without the white space at its two ends. -/
def trim (t : Text) : Text :=
  ((t.dropWhile has).reverse.dropWhile has).reverse

end LineLexer.WhiteSpace
