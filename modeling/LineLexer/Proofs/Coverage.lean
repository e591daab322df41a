/-
  LineLexer.Proofs.Coverage
  ─────────────────────────
  **TOKENS AND TRIVIA COVER THE LINES.**

  On the way through some lines there is one thing behind the other: trivia,
  which stands on one line and is told from what follows it there, or the
  lexeme of a token.  Such a way has a beginning and an end, so ways can be
  put together, and more lines do not disturb it:

      Covers           — a way through the lines, over the tokens
      Covers.append    — two ways, one behind the other
      Covers.pairwise  — the tokens stand in order, and do not overlap
      Covers.standsIn  — each of them spans its lexeme
-/
import LineLexer.Token
import LineLexer.Proofs.Grammar

namespace LineLexer

/-- The text stands at the offset on one of the lines, and `behind` is the
rest of that line. -/
def StandsAt (lines : List Text) (offset : Nat) (t behind : Text) : Prop :=
  ∃ (front : List Text) (before : Text) (back : List Text),
    lines = front ++ (before ++ (t ++ behind)) :: back
      ∧ offset = Utf8.size front.flatten + Utf8.size before

/-- From one offset to another, the lines hold these tokens and trivia, and
nothing else.  The offsets count the bytes of all the lines. -/
inductive Covers (file : String) (lines : List Text) : Nat → List Token → Nat → Prop where
  /-- There is nothing between an offset and itself. -/
  | nil (offset : Nat) : Covers file lines offset [] offset
  /-- Blanks and comments of one line. -/
  | trivia {start stop : Nat} {ts : List Token} {w behind : Text}
      (hplace : StandsAt lines start w behind) (hw : IsTrivia w behind)
      (h : Covers file lines (start + Utf8.size w) ts stop) : Covers file lines start ts stop
  /-- The token of a lexeme. -/
  | token {start stop : Nat} {ts : List Token} {k : Category} {l behind : Text}
      (hplace : StandsAt lines start l behind) (hl : IsLexeme k l)
      (h : Covers file lines (start + Utf8.size l) ts stop) :
      Covers file lines start
        (⟨k, some l, .within file start (start + Utf8.size l)⟩ :: ts) stop

/-- The token spans its lexeme, which is not empty, in the named source. -/
def Token.StandsIn (file : String) (source : Text) (t : Token) : Prop :=
  ∃ before l behind : Text, source = before ++ (l ++ behind) ∧ l ≠ [] ∧ t.lexeme? = some l
    ∧ t.span = .within file (Utf8.size before) (Utf8.size before + Utf8.size l)

/-! ## §1. More lines. -/

theorem StandsAt.append {lines : List Text} {offset : Nat} {t behind : Text}
    (h : StandsAt lines offset t behind) (more : List Text) :
    StandsAt (lines ++ more) offset t behind := by
  obtain ⟨front, before, back, rfl, hoffset⟩ := h
  refine ⟨front, before, back ++ more, ?_, hoffset⟩
  rw [List.append_assoc, List.cons_append]

/-- What stands on a line stands in the source. -/
theorem StandsAt.flatten {lines : List Text} {offset : Nat} {t behind : Text}
    (h : StandsAt lines offset t behind) :
    ∃ before after : Text, lines.flatten = before ++ (t ++ after) ∧ offset = Utf8.size before := by
  obtain ⟨front, before, back, rfl, rfl⟩ := h
  refine ⟨front.flatten ++ before, behind ++ back.flatten, ?_, (Utf8.size_append _ _).symm⟩
  simp only [List.flatten_append, List.flatten_cons, List.append_assoc]

namespace Covers

variable {file : String} {lines : List Text} {start mid stop : Nat} {ts us : List Token}

/-- Lines that are read later do not matter. -/
theorem mono (h : Covers file lines start ts stop) (more : List Text) :
    Covers file (lines ++ more) start ts stop := by
  induction h with
  | nil offset => exact .nil offset
  | trivia hplace hw _ ih => exact .trivia (hplace.append more) hw ih
  | token hplace hl _ ih => exact .token (hplace.append more) hl ih

/-! ## §2. Ways. -/

/-- **One way behind the other.** -/
theorem append (h : Covers file lines start ts mid) (h' : Covers file lines mid us stop) :
    Covers file lines start (ts ++ us) stop := by
  induction h with
  | nil => exact h'
  | trivia hplace hw _ ih => exact .trivia hplace hw (ih h')
  | token hplace hl _ ih => exact .token hplace hl (ih h')

/-- No way leads back. -/
theorem le (h : Covers file lines start ts stop) : start ≤ stop := by
  induction h with
  | nil => exact Nat.le_refl _
  | trivia _ _ _ ih => exact Nat.le_trans (Nat.le_add_right _ _) ih
  | token _ _ _ ih => exact Nat.le_trans (Nat.le_add_right _ _) ih

/-- The tokens stand between the two ends. -/
theorem within (h : Covers file lines start ts stop) :
    ∀ t ∈ ts, start ≤ t.span.start.offset ∧ t.span.stop.offset ≤ stop := by
  induction h with
  | nil => exact List.forall_mem_nil _
  | trivia _ _ _ ih => exact fun t ht => (ih t ht).imp_left (Nat.le_trans (Nat.le_add_right _ _))
  | token _ _ h ih =>
      refine List.forall_mem_cons.2 ⟨⟨Nat.le_refl _, h.le⟩, fun t ht => ?_⟩
      exact (ih t ht).imp_left (Nat.le_trans (Nat.le_add_right _ _))

/-- **The tokens stand in order, and do not overlap.** -/
theorem pairwise (h : Covers file lines start ts stop) :
    ts.Pairwise (fun t u => t.span.stop.offset ≤ u.span.start.offset) := by
  induction h with
  | nil => exact .nil
  | trivia _ _ _ ih => exact ih
  | token _ _ h ih => exact .cons (fun u hu => (h.within u hu).1) ih

/-- **Each token spans its lexeme.** -/
theorem standsIn (h : Covers file lines start ts stop) :
    ∀ t ∈ ts, t.StandsIn file lines.flatten := by
  induction h with
  | nil => exact List.forall_mem_nil _
  | trivia _ _ _ ih => exact ih
  | @token _ _ _ _ l _ hplace hl _ ih =>
      refine List.forall_mem_cons.2 ⟨?_, ih⟩
      obtain ⟨before, after, hsource, hstart⟩ := hplace.flatten
      exact ⟨before, l, after, hsource, hl.ne_nil, rfl, by rw [hstart]⟩

/-- A way over a token is no shorter than its lexeme. -/
theorem add_size_le (h : Covers file lines start ts stop) {t : Token} (ht : t ∈ ts) :
    ∃ l, t.lexeme? = some l ∧ start + Utf8.size l ≤ stop := by
  obtain ⟨before, l, -, -, -, hl, hspan⟩ := h.standsIn t ht
  refine ⟨l, hl, ?_⟩
  obtain ⟨hstart, hstop⟩ := h.within t ht
  rw [hspan] at hstart hstop
  exact Nat.le_trans (Nat.add_le_add_right hstart _) hstop

end Covers

end LineLexer
