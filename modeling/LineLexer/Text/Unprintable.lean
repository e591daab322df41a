/-
  LineLexer.Text.Unprintable
  ──────────────────────────
  **CHARACTERS THAT SHOW NOTHING.**

  These are the characters of the general categories C and Z: controls,
  format characters, private use, numbers that are not assigned, and all
  separators.  The space is left out, for it is what a reader expects to see
  as a gap.
-/
import LineLexer.Text.GeneralCategory

namespace LineLexer.Unprintable

/-- Whether a character shows nothing. -/
def has (c : Char) : Bool :=
  c != ' ' && (GeneralCategory.separators ++ GeneralCategory.others).any (·.has c)

end LineLexer.Unprintable
