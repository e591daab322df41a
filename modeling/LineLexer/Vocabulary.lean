/-
  LineLexer.Vocabulary
  ────────────────────
  **WHICH LITERAL BELONGS TO WHICH CATEGORY.**

  A vocabulary binds literals to fixed categories.  It is built from a list
  of categories; open ones bind nothing, and a literal that is claimed twice
  is an error.  Looking a lexeme up happens in two steps:

      classify  — exact look-up among the literals
      resolve   — `classify`, and where that fails the shape of the lexeme:
                  a word is an identifier, digits are a numeral, and
                  everything else is an error

  The type keeps what building has checked: every literal stands with its own
  category, and no literal stands twice.
-/
import LineLexer.Error

namespace LineLexer

/-- Literals, each bound to its category. -/
structure Vocabulary where
  /-- The bindings, the latest first. -/
  entries : List (Text × Category)
  /-- Each literal is bound to the category that stands for it. -/
  bound : ∀ e ∈ entries, e.2.literal? = some e.1
  /-- No literal is bound twice. -/
  nodup : (entries.map (·.1)).Nodup

/-- The category of a lexeme that is no literal. -/
def Category.ofShape : Text → Category
  | [] => .error
  | c :: t =>
      if c.isAlpha && t.all Char.isAlphanum then .ident
      else if c.isDigit && t.all Char.isDigit then .numeral
      else .error

namespace Vocabulary

/-! ## §1. Look-up. -/

/-- The category to which a lexeme is bound. -/
def classify (v : Vocabulary) (lexeme : Text) : Option Category :=
  v.entries.lookup lexeme

/-- The category of a lexeme. -/
def resolve (v : Vocabulary) (lexeme : Text) : Category :=
  (v.classify lexeme).getD (.ofShape lexeme)

/-- The bindings in the order of their categories. -/
def literals (v : Vocabulary) : List (Text × Category) :=
  v.entries.mergeSort (fun a b => a.2.rank ≤ b.2.rank)

/-- The number of bindings. -/
def size (v : Vocabulary) : Nat :=
  v.entries.length

/-- Whether nothing is bound. -/
def isEmpty (v : Vocabulary) : Bool :=
  v.entries.isEmpty

/-! ## §2. Building. -/

/-- The vocabulary that binds nothing. -/
def empty : Vocabulary where
  entries := []
  bound := by simp
  nodup := by simp

theorem classify_eq_none_iff {v : Vocabulary} {l : Text} :
    v.classify l = none ↔ l ∉ v.entries.map (·.1) := by
  simp only [classify, List.lookup_eq_none_iff, List.mem_map, not_exists, not_and, bne_iff_ne]
  exact ⟨fun h e he hl => h e he hl.symm, fun h e he hl => h e he hl.symm⟩

/-- Binds the literal of one more category. -/
def extend (v : Vocabulary) (c : Category) : Except Error Vocabulary :=
  match hc : c.literal? with
  | none => .ok v
  | some literal =>
      match hv : v.classify literal with
      | some first => .error ⟨.duplicateLiteral literal first c, .null⟩
      | none =>
          .ok {
            entries := (literal, c) :: v.entries
            bound := by simpa [hc] using v.bound
            nodup := by
              have := classify_eq_none_iff.1 hv
              simpa [this] using v.nodup }

/-- The vocabulary of a list of categories. -/
def ofCategories (cs : List Category) : Except Error Vocabulary :=
  cs.foldlM extend empty

/-- The vocabulary of all fixed categories. -/
def standard : Vocabulary :=
  match ofCategories Category.fixed with
  | .ok v => v
  | .error _ => empty

/-- The fixed categories have distinct literals, so their vocabulary can be
built. -/
theorem ofCategories_fixed : ofCategories Category.fixed = .ok standard := by
  rfl

end Vocabulary

end LineLexer
