/-
  LineLexer.Token
  ───────────────
  **TOKENS.**

  A token is a category, the exact text that was matched, and the span which
  that text has in its source.  Only the end of the source has no text.
-/
import LineLexer.Category
import LineLexer.Position

namespace LineLexer

/-- A classified piece of a source. -/
structure Token where
  /-- What kind of token it is. -/
  category : Category
  /-- The text of the token; `none` for the end of the source. -/
  lexeme? : Option Text
  /-- Where the text stands. -/
  span : Span
  deriving Repr, DecidableEq

namespace Token

/-- The token that marks the end of a source. -/
def endOf (file : String) (offset : Nat) : Token :=
  ⟨.eof, none, .within file offset offset⟩

/-- Whether the token marks the end of its source. -/
def isEnd (t : Token) : Bool :=
  t.category == .eof

/-- The token on one line: its category, and behind it in parentheses the
lexeme if the category leaves it open. -/
def line (t : Token) : Text :=
  match t.category, t.lexeme? with
  | .ident, some l | .numeral, some l | .error, some l =>
      t.category.name.toList ++ [' ', '('] ++ l ++ [')']
  | c, _ => c.name.toList

/-- The token moved `n` bytes further into its source. -/
def shift (n : Nat) (t : Token) : Token :=
  { t with span := t.span.shift n }

@[simp] theorem shift_endOf (file : String) (offset n : Nat) :
    (endOf file offset).shift n = endOf file (offset + n) := rfl

end Token

end LineLexer
