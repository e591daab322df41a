/-
  LineLexer.Pattern
  ─────────────────
  **PATTERNS.**

  A pattern picks texts: it says what must occur somewhere in them.  It is
  written down as `LineLexer.Pattern.Tree` shows.

      Pattern.ofText t    — the pattern that is written so, or what is wrong
      p.occursIn t        — whether the pattern occurs in a text
-/
import LineLexer.Pattern.Machine
import LineLexer.Pattern.Meaning
import LineLexer.Pattern.Places

namespace LineLexer

/-- A pattern that can be looked for. -/
structure Pattern where
  /-- What it stands for. -/
  expr : Pattern.Expr
  deriving Repr

namespace Pattern

/-- The pattern that is written so, or a report on what is wrong with it. -/
def ofText (t : Text) : Except String Pattern :=
  match Tree.ofText t >>= Tree.meaning with
  | .ok e => if Machine.isTooLarge e then .error Machine.tooLarge else .ok ⟨e⟩
  | .error f => .error (f.report t)

/-- Whether the pattern occurs in a text. -/
def occursIn (p : Pattern) (t : Text) : Bool :=
  p.expr.occursIn t

end Pattern

end LineLexer
