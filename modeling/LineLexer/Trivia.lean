/-
  LineLexer.Trivia
  ────────────────
  **TEXT BETWEEN TOKENS.**

  Blanks and comments carry no meaning.  There are six blanks: space, TAB,
  LF, VT, FF and CR.  A comment begins with a number sign and runs up to, but
  not over, the next LF or CR, or to the end of the text.

      piece   — one run of blanks, or one comment, at the front of a text
      skip    — the length of all the trivia at the front, piece by piece
-/
import LineLexer.Text.Utf8

namespace LineLexer

/-- The six characters that separate tokens. -/
def isBlank (c : Char) : Bool :=
  c = ' ' || c = '\t' || c = '\n' || c = '\x0b' || c = '\x0c' || c = '\r'

/-- The characters at which a comment ends. -/
def isLineBreak (c : Char) : Bool :=
  c = '\n' || c = '\r'

namespace Trivia

/-- The run of blanks or the comment at the front of a text; it is empty if
the text begins with neither. -/
def piece : Text → Text
  | [] => []
  | c :: t =>
      if c = '#' then c :: t.takeWhile (fun d => !isLineBreak d)
      else (c :: t).takeWhile isBlank

/-- The number of bytes of one piece of trivia. -/
def pieceLength? (t : Text) : Option Nat :=
  match piece t with
  | [] => none
  | w => some (Utf8.size w)

/-! ## §1. A piece is at the front, and not empty. -/

theorem piece_isPrefix (t : Text) : piece t <+: t := by
  cases t with
  | nil => exact List.nil_prefix
  | cons c t =>
      simp only [piece]
      split
      · exact List.prefix_cons_iff.2 (.inr ⟨_, rfl, List.takeWhile_prefix _⟩)
      · exact List.takeWhile_prefix _

theorem pieceLength?_eq_some_iff {t : Text} {n : Nat} :
    pieceLength? t = some n ↔ piece t ≠ [] ∧ Utf8.size (piece t) = n := by
  simp only [pieceLength?]
  cases piece t <;> simp

/-- Cutting a piece off leaves a shorter text. -/
theorem length_dropBytes_lt {t : Text} {n : Nat} (h : pieceLength? t = some n) :
    (Utf8.dropBytes n t).length < t.length := by
  obtain ⟨hne, rfl⟩ := pieceLength?_eq_some_iff.1 h
  obtain ⟨rest, hrest⟩ := piece_isPrefix t
  have hd : Utf8.dropBytes (Utf8.size (piece t)) t = rest := by
    conv => lhs; arg 2; rw [← hrest]
    simp
  have hl := congrArg List.length hrest
  have hp := List.length_pos_iff.2 hne
  rw [hd]
  simp only [List.length_append] at hl
  omega

/-! ## §2. Skipping. -/

/-- The number of bytes of all the trivia at the front of a text: pieces are
cut off until none is left. -/
def skip (t : Text) : Nat :=
  match _h : pieceLength? t with
  | none => 0
  | some n => n + skip (Utf8.dropBytes n t)
termination_by t.length
decreasing_by exact length_dropBytes_lt (by assumption)

end Trivia

end LineLexer
