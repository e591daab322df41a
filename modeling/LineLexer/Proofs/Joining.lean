/-
  LineLexer.Proofs.Joining
  ────────────────────────
  **TEXTS THAT ARE SCANNED ONE BEHIND THE OTHER.**

  Two texts with trivia between them are scanned as each of them is alone, if
  the first one bears the trivia: it must not break off inside a comment that
  would swallow what follows.  A scan carries nothing else over from one text
  to the next.

      scansApart_of_proper     — what the decompositions of the two texts need
      IsProper.exists_cut      — where a token begins or ends, a decomposition
                                 falls into two
      scansApart_of_separator  — a line break separates any two texts, and any
                                 blank does that would not stand in a comment
      scansApart_of_boundary   — where a token begins or ends, a text can be
                                 cut, and trivia put in
-/
import LineLexer.Proofs.Tokenizing

namespace LineLexer

/-- The scan of the source is that of the front, without its end, and behind it
that of the back, moved to the offset. -/
def ScansApart (file? : Option String) (source front back : Text) (offset : Nat) : Prop :=
  ∃ ts us : List Token, tokenize front file? = .ok ts ∧ tokenize back file? = .ok us
    ∧ tokenize source file? = .ok (ts.filter (fun t => !t.isEnd) ++ us.map (·.shift offset))

open Decomposition

/-! ## §1. Two texts with trivia between them. -/

/-- **Texts that are decomposed are scanned apart**, with trivia between
them. -/
theorem scansApart_of_proper {d e : Decomposition} {w : Text} (hd : d.IsProper [])
    (hfront : d.IsProper (w ++ e.text)) (hw : IsTrivia w e.text) (he : e.IsProper [])
    (file? : Option String) :
    ScansApart file? (d.text ++ (w ++ e.text)) d.text e.text
      (Utf8.size d.text + Utf8.size w) := by
  have hpad : (e.pad w).IsProper [] := he.pad (by simpa using hw)
  have hglue : (d.glue (e.pad w)).IsProper [] := by
    apply IsProper.glue _ hpad
    simpa using hfront
  have hall := tokenize_of_proper hglue file?
  rw [text_glue, text_pad] at hall
  refine ⟨_, _, tokenize_of_proper hd file?, tokenize_of_proper he file?, hall.trans ?_⟩
  -- the end of the first text is left out, and the end of the second one moves
  have hmoved : Utf8.size e.text + (Utf8.size d.text + Utf8.size w)
      = Utf8.size (d.text ++ (w ++ e.text)) := by
    simp only [Utf8.size_append]
    omega
  rw [hd.filter_tokens_endOf, List.map_append, ← tokens_add, tokens_glue, tokens_pad,
    List.map_singleton, Token.shift_endOf, hmoved, Nat.add_assoc, List.append_assoc]

/-! ## §2. A separator. -/

theorem utf8Size_of_isBlank {c : Char} (h : isBlank c) : c.utf8Size = 1 := by
  simp only [isBlank, Bool.or_eq_true, decide_eq_true_eq, or_assoc] at h
  rcases h with rfl | rfl | rfl | rfl | rfl | rfl <;> decide

/-- **A line break separates any two texts, and any blank does** that would not
stand in a comment: what is before it and what is behind it are scanned as each
of them is alone. -/
theorem scansApart_of_separator {a b : Text} {sep : Char}
    (hsep : isLineBreak sep ∨ isBlank sep ∧ ¬ EndsInComment a) (file? : Option String) :
    ScansApart file? (a ++ sep :: b) a b (Utf8.size a + 1) := by
  obtain ⟨d, rfl, hd⟩ := exists_proper a
  obtain ⟨e, rfl, he⟩ := exists_proper b
  have hblank : isBlank sep := hsep.elim isBlank_of_isLineBreak (·.1)
  -- no comment of the first text reaches over the separator
  have hgap : IsTrivia d.lastGap (sep :: e.text) := by
    refine hd.isTrivia_lastGap.followedBy fun hopen => ?_
    obtain ⟨front, hfront⟩ := d.lastGap_isSuffix
    rcases hsep with hbreak | ⟨-, hclosed⟩
    · exact stops_cons.2 (by simp [hbreak])
    · exact absurd (hfront ▸ hopen.append_left front) hclosed
  have hbehind : d.IsProper (sep :: e.text) := by
    refine hd.mono hgap ?_
    rintro c ⟨⟩
    exact .inr (isTriviaStart_of_isBlank hblank)
  have hsize : Utf8.size [sep] = 1 := by simp [utf8Size_of_isBlank hblank]
  rw [← hsize]
  exact scansApart_of_proper hd hbehind (.blank hblank (.nil e.text)) he file?

/-- A line break ends the comment before it, and a blank separates where there
is none. -/
theorem scansApart_of_return_and_space :
    (isLineBreak '\r' ∧ EndsInComment ['=', '#']
        ∧ ScansApart none ['=', '#', '\r', '>'] ['=', '#'] ['>'] 3)
      ∧ isBlank ' ' ∧ ¬ EndsInComment ['=']
        ∧ ScansApart none ['=', ' ', '>'] ['='] ['>'] 2 := by
  have hbreak : isLineBreak '\r' := by decide
  have hblank : isBlank ' ' := by decide
  have hclosed : ¬ EndsInComment ['='] := by
    rintro ⟨front, body, h, -⟩
    have hmem : '#' ∈ front ++ '#' :: body := List.mem_append_right _ List.mem_cons_self
    rw [← h] at hmem
    exact absurd hmem (by decide)
  exact ⟨⟨hbreak, ⟨['='], [], rfl, nofun⟩, scansApart_of_separator (.inl hbreak) none⟩,
    hblank, hclosed, scansApart_of_separator (.inr ⟨hblank, hclosed⟩) none⟩

/-! ## §3. Where tokens begin and end. -/

/-- A token of the source begins or ends at the offset. -/
def IsTokenBoundary (file? : Option String) (source : Text) (offset : Nat) : Prop :=
  ∃ ts, tokenize source file? = .ok ts ∧ ∃ t ∈ ts, t.isEnd = false
    ∧ (t.span.start.offset = offset ∨ t.span.stop.offset = offset)

namespace Decomposition

/-- **Where a token begins or ends, a decomposition falls into two**, and the
first one has no comment open. -/
theorem IsProper.exists_cut {d : Decomposition} {rest : Text} (h : d.IsProper rest)
    (file : String) {t : Token} {n : Nat}
    (hn : t.span.start.offset = n ∨ t.span.stop.offset = n) :
    ∀ offset, t ∈ d.tokens file offset →
      ∃ e f : Decomposition, d = e.glue f ∧ n = offset + Utf8.size e.text
        ∧ e.IsProper (f.text ++ rest) ∧ f.IsProper rest ∧ ∀ s, IsTrivia e.lastGap s := by
  induction d with
  | trivia w => exact fun _ ht => absurd ht List.not_mem_nil
  | lexeme g k l d ih =>
      intro offset ht
      obtain ⟨hg, hl, hmax, hd⟩ := h
      rcases List.mem_cons.1 ht with rfl | ht
      · rcases hn with rfl | rfl
        · -- in front of the lexeme there is its gap
          refine ⟨trivia g, lexeme [] k l d, ?_, rfl, ?_, ⟨.nil _, hl, hmax, hd⟩, ?_⟩
          · simp [Decomposition.glue, Decomposition.pad]
          · simpa [IsProper, text] using hg
          · exact hg.of_stops (by simp [hl.ne_nil]) (hl.stops _)
        · -- behind it there is nothing yet
          refine ⟨lexeme g k l (trivia []), d, ?_, ?_, ⟨?_, hl, ?_, .nil _⟩, hd, .nil⟩
          · cases d <;> rfl
          · simp [text, Span.within, Nat.add_assoc]
          · simpa [text] using hg
          · simpa [text] using hmax
      · -- the cut is further on, and the lexeme is in the first part
        obtain ⟨e, f, rfl, hsize, he, hf, hclosed⟩ := ih hd _ ht
        refine ⟨lexeme g k l e, f, rfl, ?_, ⟨?_, hl, ?_, he⟩, hf, hclosed⟩
        · simp [hsize, text, Nat.add_assoc]
        · simpa using hg
        · simpa using hmax

end Decomposition

/-- The text is decomposed at a boundary of its tokens. -/
theorem IsTokenBoundary.exists_cut {file? : Option String} {p q : Text}
    (h : IsTokenBoundary file? (p ++ q) (Utf8.size p)) :
    ∃ e f : Decomposition, e.text = p ∧ f.text = q ∧ e.IsProper q ∧ f.IsProper []
      ∧ ∀ s, IsTrivia e.lastGap s := by
  obtain ⟨ts, hts, t, ht, hlexeme, hplace⟩ := h
  obtain ⟨d, htext, hd, rfl⟩ := exists_proper_of_tokenize hts
  -- the token that marks the end is no token of a lexeme
  have hmem : t ∈ d.tokens (file?.getD Scanner.defaultFile) 0 := by
    rcases List.mem_append.1 ht with ht | ht
    · exact ht
    · rw [List.mem_singleton.1 ht] at hlexeme
      cases hlexeme
  obtain ⟨e, f, rfl, hsize, he, hf, hclosed⟩ := hd.exists_cut _ hplace 0 hmem
  rw [Nat.zero_add] at hsize
  rw [text_glue] at htext
  obtain ⟨rfl, rfl⟩ := Utf8.append_inj_of_size htext hsize.symm
  exact ⟨e, f, rfl, rfl, by simpa using he, hf, hclosed⟩

/-- **Where a token begins or ends, a text can be cut, and trivia put in**: the
two parts are scanned as each of them is alone.  A comment that is put in has to
end at a line break, or with the text. -/
theorem scansApart_of_boundary {p q w : Text} {file? : Option String}
    (h : IsTokenBoundary file? (p ++ q) (Utf8.size p)) (hw : IsTrivia w q) :
    ScansApart file? (p ++ (w ++ q)) p q (Utf8.size p + Utf8.size w) := by
  obtain ⟨e, f, rfl, rfl, he, hf, hclosed⟩ := h.exists_cut
  exact scansApart_of_proper (he.mono (hclosed []) nofun) (he.mono (hclosed _) hw.head?_append)
    hw hf file?

/-- Behind the first of two signs the text is cut, and a comment put in. -/
theorem scansApart_behind_first_sign :
    IsTokenBoundary none ['=', ' ', '='] 1 ∧ IsTrivia ['#', '=', '\r'] [' ', '=']
      ∧ ScansApart none ['=', '#', '=', '\r', ' ', '='] ['='] [' ', '='] 4 := by
  have hsign : IsLexeme .assign ['='] := .fixed rfl
  have hlast : IsMaximal .assign ['='] [] := (isMaximal_iff hsign).2 nofun
  have hfirst : IsMaximal .assign ['='] [' ', '='] := by
    refine hlast.mono hsign ?_
    rintro c ⟨⟩
    exact .inr (by decide)
  have hd : (lexeme [] .assign ['='] (lexeme [' '] .assign ['='] (trivia []))).IsProper [] :=
    ⟨.nil _, hsign, hfirst, .blank (by decide) (.nil _), hsign, hlast, .nil _⟩
  have hplace : IsTokenBoundary none ['=', ' ', '='] 1 :=
    ⟨_, tokenize_of_proper hd none, _, List.mem_cons_self, rfl, .inr rfl⟩
  have hcomment : IsTrivia ['#', '=', '\r'] [' ', '='] :=
    .comment (List.forall_mem_singleton.2 (by decide)) (stops_cons.2 (by decide))
      (.blank (by decide) (.nil _))
  exact ⟨hplace, hcomment, scansApart_of_boundary hplace hcomment⟩

end LineLexer
