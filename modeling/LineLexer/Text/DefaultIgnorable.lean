/-
  LineLexer.Text.DefaultIgnorable
  ───────────────────────────────
  **CHARACTERS THAT MAY BE IGNORED.**

  These are the characters with the property Default_Ignorable_Code_Point, in
  Unicode 17.  One that does not know them shows nothing in their place:
  joiners, variation selectors, fillers, and numbers kept free for their like.
-/
import LineLexer.Text.Ranges

namespace LineLexer.DefaultIgnorable

/-- The numbers of the characters with the property. -/
def ranges : Ranges :=
  [(0xAD, 0xAD), (0x34F, 0x34F), (0x61C, 0x61C), (0x115F, 0x1160), (0x17B4, 0x17B5),
    (0x180B, 0x180F), (0x200B, 0x200F), (0x202A, 0x202E), (0x2060, 0x206F),
    (0x3164, 0x3164), (0xFE00, 0xFE0F), (0xFEFF, 0xFEFF), (0xFFA0, 0xFFA0),
    (0xFFF0, 0xFFF8), (0x1BCA0, 0x1BCA3), (0x1D173, 0x1D17A), (0xE0000, 0xE0FFF)]

/-- They ascend, so a number can be looked up. -/
def table : Ranges.Table :=
  ⟨ranges, by decide +kernel⟩

/-- Whether a character has the property. -/
def has (c : Char) : Bool :=
  table.has c.toNat

end LineLexer.DefaultIgnorable
