/-
  LineLexer.Text.GeneralCategory.Separator
  ────────────────────────────────────────
  **SEPARATORS.**

  The numbers of the characters in each general category of separators, in
  Unicode 17.
-/
import LineLexer.Text.Ranges

namespace LineLexer.GeneralCategory.Separator

/-- Spaces of every width (Zs). -/
def space : Ranges :=
  [(0x20, 0x20), (0xA0, 0xA0), (0x1680, 0x1680), (0x2000, 0x200A), (0x202F, 0x202F),
    (0x205F, 0x205F), (0x3000, 0x3000)]

/-- The line separator (Zl). -/
def line : Ranges :=
  [(0x2028, 0x2028)]

/-- The paragraph separator (Zp). -/
def paragraph : Ranges :=
  [(0x2029, 0x2029)]

end LineLexer.GeneralCategory.Separator
