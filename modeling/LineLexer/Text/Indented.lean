/-
  LineLexer.Text.Indented
  ───────────────────────
  **TEXT OF SEVERAL LINES BEHIND A HEADING.**

  Where a text stands behind something else on its line, its further lines
  are moved to the right, so that they are seen to belong to it.
-/
import LineLexer.Text.Utf8

namespace LineLexer

/-- The text with so many spaces in front of each line but the first. -/
def indented (margin : Nat) (t : Text) : Text :=
  t.flatMap (fun c => if c = '\n' then '\n' :: List.replicate margin ' ' else [c])

end LineLexer
