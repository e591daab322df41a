/-
  LineLexer.Rule
  ──────────────
  **MATCHING RULES.**

  A rule recognises one form of lexeme at the front of a text:

      fixed c  — the literal of the category `c`
      word     — a letter, and the letters and digits behind it
      numeral  — a run of digits
      any      — one character, whatever it is

  Letters and digits are those of ASCII.  The forms are listed in falling
  precedence; `Rule.rank` refines the precedence to a total order, in which
  fixed rules follow the order of their categories.
-/
import LineLexer.Category

namespace LineLexer

/-- The form of lexeme that is recognised. -/
inductive Rule where
  /-- The literal of a category. -/
  | fixed (category : Category)
  /-- A letter, and the letters and digits behind it. -/
  | word
  /-- A run of digits. -/
  | numeral
  /-- One character. -/
  | any
  deriving Repr, DecidableEq

namespace Rule

/-! ## §1. Order. -/

/-- The level on which the rule competes; a lower level wins. -/
def precedence : Rule → Nat
  | fixed _ => 0
  | word => 1
  | numeral => 2
  | any => 3

/-- The place of a rule in the order of rules. -/
def rank : Rule → Nat
  | fixed c => c.rank
  | word => Category.all.length
  | numeral => Category.all.length + 1
  | any => Category.all.length + 2

instance : Ord Rule where
  compare a b := compare a.rank b.rank

/-- The name of the rule in log records. -/
def label : Rule → String
  | fixed c => "Fixed(" ++ c.label ++ ")"
  | word => "Word"
  | numeral => "Numeral"
  | any => "Any"

/-! ## §2. Matching. -/

/-- The lexeme that the rule finds at the front of a text; it is empty if the
rule does not match. -/
def front : Rule → Text → Text
  | fixed c, t =>
      match c.literal? with
      | some l => if l.isPrefixOf t then l else []
      | none => []
  | word, [] => []
  | word, c :: t => if c.isAlpha then c :: t.takeWhile Char.isAlphanum else []
  | numeral, t => t.takeWhile Char.isDigit
  | any, t => t.take 1

/-- The number of bytes that the rule matches at the front of a text. -/
def matchLength? (r : Rule) (t : Text) : Option Nat :=
  match r.front t with
  | [] => none
  | l => some (Utf8.size l)

/-! ## §3. What a match is. -/

/-- A match stands at the front of the text. -/
theorem front_isPrefix (r : Rule) (t : Text) : r.front t <+: t := by
  cases r with
  | fixed c =>
      simp only [front]
      split
      · split
        next h => exact List.isPrefixOf_iff_prefix.1 h
        next => exact List.nil_prefix
      · exact List.nil_prefix
  | word =>
      cases t with
      | nil => exact List.nil_prefix
      | cons c t =>
          simp only [front]
          split
          · exact List.prefix_cons_iff.2 (.inr ⟨_, rfl, List.takeWhile_prefix _⟩)
          · exact List.nil_prefix
  | numeral => exact List.takeWhile_prefix _
  | any => exact List.take_prefix _ _

theorem matchLength?_eq_some_iff {r : Rule} {t : Text} {n : Nat} :
    r.matchLength? t = some n ↔ r.front t ≠ [] ∧ Utf8.size (r.front t) = n := by
  simp only [matchLength?]
  cases r.front t <;> simp

/-- A match is never empty. -/
theorem matchLength?_pos {r : Rule} {t : Text} {n : Nat}
    (h : r.matchLength? t = some n) : 0 < n := by
  obtain ⟨hne, rfl⟩ := matchLength?_eq_some_iff.1 h
  exact Utf8.size_pos_of_ne_nil hne

end Rule

end LineLexer
