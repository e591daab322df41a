/-
  LineLexer.Proofs.Lookahead
  ──────────────────────────
  **A TOKEN SEES ONE CHARACTER BEHIND ITS END.**

  Two texts that begin alike have the same tokens as long as these end before
  the texts part: the character behind such a token is still a common one, and
  nothing further on can make the token longer or shorter.  What is changed in
  a text leaves the tokens alone that end before the change.

      IsProper.exists_same_front  — a lexeme that ends early stands in front of
                                    both texts
      endingBefore_isPrefix       — and so do all that end early
      endingBefore_common_front   — the early tokens are the same
-/
import LineLexer.Proofs.Tokenizing

namespace LineLexer

/-- The tokens that end before the offset. -/
def endingBefore (offset : Nat) (ts : List Token) : List Token :=
  ts.filter (fun t => t.span.stop.offset < offset)

namespace Decomposition

/-! ## §1. Tokens stand in order. -/

theorem le_stop_of_mem_tokens {file : String} {d : Decomposition} {t : Token} :
    ∀ {offset : Nat}, t ∈ d.tokens file offset → offset ≤ t.span.stop.offset := by
  induction d with
  | trivia w => exact fun ht => absurd ht List.not_mem_nil
  | lexeme g k l d ih =>
      intro offset ht
      rcases List.mem_cons.1 ht with rfl | ht
      · show offset ≤ offset + Utf8.size g + Utf8.size l
        omega
      · have := ih ht
        omega

/-- Where the first lexeme does not end early, none does. -/
theorem endingBefore_of_le {file : String} {g l : Text} {k : Category} {d : Decomposition}
    {n offset : Nat} (h : n ≤ offset + Utf8.size g + Utf8.size l) :
    endingBefore n ((lexeme g k l d).tokens file offset) = [] := by
  apply List.filter_eq_nil_iff.2
  intro t ht
  have hstop : n ≤ t.span.stop.offset := by
    rcases List.mem_cons.1 ht with rfl | ht
    · exact h
    · exact Nat.le_trans h (le_stop_of_mem_tokens ht)
  simpa using hstop

/-- Where it does, it is the first token that does. -/
theorem endingBefore_of_lt {file : String} {g l : Text} {k : Category} {d : Decomposition}
    {n offset : Nat} (h : offset + Utf8.size g + Utf8.size l < n) :
    endingBefore n ((lexeme g k l d).tokens file offset)
      = ⟨k, some l, .within file (offset + Utf8.size g) (offset + Utf8.size g + Utf8.size l)⟩
        :: endingBefore n (d.tokens file (offset + Utf8.size g + Utf8.size l)) :=
  List.filter_cons_of_pos (decide_eq_true h)

/-! ## §2. Texts that begin alike. -/

/-- **A lexeme that ends early stands in front of both texts**, with the same
trivia before it. -/
theorem IsProper.exists_same_front {g l p q q' : Text} {k : Category} {d e : Decomposition}
    (hd : (lexeme g k l d).IsProper []) (he : e.IsProper [])
    (htext : (lexeme g k l d).text = p ++ q) (htext' : e.text = p ++ q')
    (hlt : Utf8.size g + Utf8.size l < Utf8.size p) :
    ∃ (p' : Text) (e' : Decomposition), p = g ++ (l ++ p') ∧ e = lexeme g k l e' := by
  obtain ⟨hg, hl, hmax, -⟩ := hd
  have hsplit : (g ++ l) ++ d.text = p ++ q := by rw [List.append_assoc]; exact htext
  rcases List.append_eq_append_iff.1 hsplit with ⟨p', rfl, hrest⟩ | ⟨x, hx, -⟩
  · -- the character behind the lexeme is a common one
    have hne : p' ≠ [] := by
      rintro rfl
      simp at hlt
    obtain ⟨c, t, rfl⟩ := List.exists_cons_of_ne_nil hne
    obtain ⟨e', hrest', he'⟩ := exists_proper ((c :: t) ++ q')
    have hhead : (d.text ++ []).head? = (e'.text ++ []).head? := by
      rw [hrest, hrest']
      rfl
    have hsame : (lexeme g k l e').IsProper [] :=
      ⟨hg.congr (hl.head?_append _ _), hl, hmax.congr hl hhead, he'⟩
    refine ⟨c :: t, e', List.append_assoc _ _ _, he.unique hsame ?_⟩
    rw [htext', Decomposition.text, hrest', List.append_assoc, List.append_assoc]
  · -- the lexeme would reach over the end of what is common
    have hsize := congrArg Utf8.size hx
    simp only [Utf8.size_append] at hsize
    omega

/-- **The early tokens of one text are early tokens of the other.** -/
theorem endingBefore_isPrefix {q q' : Text} (file : String) (d : Decomposition) :
    ∀ (e : Decomposition) (p : Text) (offset : Nat), d.IsProper [] → e.IsProper [] →
      d.text = p ++ q → e.text = p ++ q' →
      endingBefore (offset + Utf8.size p) (d.tokens file offset)
        <+: endingBefore (offset + Utf8.size p) (e.tokens file offset) := by
  -- lexeme by lexeme, with what is left of the common front
  induction d with
  | trivia w => exact fun _ _ _ _ _ _ _ => List.nil_prefix
  | lexeme g k l d ih =>
      intro e p offset hd he htext htext'
      by_cases hlt : Utf8.size g + Utf8.size l < Utf8.size p
      · obtain ⟨p', e', rfl, rfl⟩ := hd.exists_same_front he htext htext' hlt
        have hrest : d.text = p' ++ q := by simpa [text] using htext
        have hrest' : e'.text = p' ++ q' := by simpa [text] using htext'
        have hmore := ih e' p' (offset + Utf8.size g + Utf8.size l) hd.2.2.2 he.2.2.2 hrest hrest'
        rw [endingBefore_of_lt (by omega), endingBefore_of_lt (by omega), List.prefix_cons_inj]
        simpa [Nat.add_assoc] using hmore
      · rw [endingBefore_of_le (by omega)]
        exact List.nil_prefix

end Decomposition

open Decomposition

/-- The token that marks the end of a text does not end within the text. -/
theorem endingBefore_append_endOf (file : String) (ts : List Token) (p q : Text) :
    endingBefore (Utf8.size p) (ts ++ [.endOf file (Utf8.size (p ++ q))])
      = endingBefore (Utf8.size p) ts := by
  unfold endingBefore
  rw [List.filter_append]
  simp [Token.endOf, Span.within]

/-- **Texts that begin alike have the same early tokens**: those that end
before the common front does, with their categories, lexemes and places. -/
theorem endingBefore_common_front (p q q' : Text) (file? : Option String) :
    ∃ ts us : List Token, tokenize (p ++ q) file? = .ok ts ∧ tokenize (p ++ q') file? = .ok us
      ∧ endingBefore (Utf8.size p) ts = endingBefore (Utf8.size p) us := by
  obtain ⟨d, hd, hproper⟩ := exists_proper (p ++ q)
  obtain ⟨e, he, hproper'⟩ := exists_proper (p ++ q')
  have hts := tokenize_of_proper hproper file?
  have hus := tokenize_of_proper hproper' file?
  rw [hd] at hts
  rw [he] at hus
  refine ⟨_, _, hts, hus, ?_⟩
  generalize file?.getD Scanner.defaultFile = file
  rw [endingBefore_append_endOf, endingBefore_append_endOf]
  -- each list is a prefix of the other one
  have hto := endingBefore_isPrefix file d e p 0 hproper hproper' hd he
  have hback := endingBefore_isPrefix file e d p 0 hproper' hproper he hd
  rw [Nat.zero_add] at hto hback
  exact hto.eq_of_length_le hback.length_le

end LineLexer
