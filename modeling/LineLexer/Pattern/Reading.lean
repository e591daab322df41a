/-
  LineLexer.Pattern.Reading
  ─────────────────────────
  **READING A PATTERN.**

  What reads a part of a pattern is given what is left of the pattern, and
  gives the part with what is left behind it, or the flaw that it met.  While
  the flag `x` is on, blanks and comments are skipped between the parts:

      skip x s      — what is left when they are skipped
      peek x s      — the character behind the first one of `s`
      decimal x s   — a number, as it stands in the braces of a repetition

  Skipping never makes a text longer (`skip_length_le`), which is why reading
  ends.
-/
import LineLexer.Pattern.Tree
import LineLexer.Text.WhiteSpace

namespace LineLexer.Pattern

/-- A flaw that is found in one stretch. -/
def flaw {α : Type} (kind : Flaw.Kind) (extent : Extent) : Except Flaw α :=
  .error ⟨kind, extent, none⟩

/-! ## §1. Blanks and comments. -/

/-- What is left when blanks and comments are skipped; a comment runs from `#`
to the end of its line.  The flag says whether a comment has begun. -/
def skipGaps : Bool → Text → Text
  | _, [] => []
  | true, c :: s => skipGaps (c != '\n') s
  | false, c :: s =>
      if WhiteSpace.has c then skipGaps false s
      else if c = '#' then skipGaps true s
      else c :: s

/-- What is left when blanks and comments are skipped, if they do not count. -/
def skip (extended : Bool) (s : Text) : Text :=
  if extended then skipGaps false s else s

theorem skipGaps_length_le (comment : Bool) (s : Text) :
    (skipGaps comment s).length ≤ s.length := by
  fun_induction skipGaps comment s with
  | case1 => exact Nat.le_refl _
  | case2 c s ih => exact Nat.le_succ_of_le ih
  | case3 c s _ ih => exact Nat.le_succ_of_le ih
  | case4 s _ ih => exact Nat.le_succ_of_le ih
  | case5 c s => exact Nat.le_refl _

theorem skip_length_le (extended : Bool) (s : Text) : (skip extended s).length ≤ s.length := by
  unfold skip
  split
  · exact skipGaps_length_le false s
  · exact Nat.le_refl _

/-- The first character that is no blank, and behind a first `#`, which is
passed over, the next one. -/
def glance : Bool → Text → Option Char
  | _, [] => none
  | comment, c :: s =>
      if WhiteSpace.has c then glance comment s
      else if c = '#' && !comment then glance true s
      else some c

/-- The character behind the first one of `s`; if blanks and comments do not
count, the one that `glance` finds. -/
def peek (extended : Bool) (s : Text) : Option Char :=
  if extended then (glance false s.tail).or s.tail.head? else s.tail.head?

/-! ## §2. Numbers. -/

/-- The digits at the front of a text, as a number behind those already read. -/
def digits (extended : Bool) (before? : Option Nat) (s : Text) : Option Nat × Text :=
  match s with
  | [] => (before?, [])
  | c :: r =>
      if c.isDigit then
        digits extended (some (10 * before?.getD 0 + (c.toNat - '0'.toNat))) (skip extended r)
      else (before?, c :: r)
termination_by s.length
decreasing_by
  have := skip_length_le extended r
  simp only [List.length_cons]
  omega

/-- Numbers from here on are too large for a repetition. -/
def decimalBound : Nat := 0x100000000

/-- A number with blanks around it, and what is left behind it. -/
def decimal (extended : Bool) (s : Text) : Except Flaw Nat × Text :=
  let s := s.dropWhile WhiteSpace.has
  let (number?, r) := digits extended none s
  let number := match number? with
    | none => flaw .countEmpty (.between s r)
    | some n => if n < decimalBound then .ok n else flaw .decimalTooLarge (.between s r)
  (number, r.dropWhile WhiteSpace.has)

end LineLexer.Pattern
