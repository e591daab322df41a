/-
  LineLexer.ErrorOutput
  ─────────────────────
  **WHAT IS WRITTEN TO STANDARD ERROR.**

  Entries of the log and other texts are written one behind the other, each
  in the words that it has alone.
-/
import LineLexer.Text.Utf8

namespace LineLexer.ErrorOutput

/-- What is written at once. -/
inductive Piece where
  /-- An entry of the log. -/
  | entry (text : Text)
  /-- Any other text. -/
  | other (text : Text)
  deriving Repr, DecidableEq

/-- The text of a piece. -/
def Piece.text : Piece → Text
  | entry t | other t => t

/-- What is written. -/
def text (ps : List Piece) : Text :=
  ps.flatMap Piece.text

end LineLexer.ErrorOutput
