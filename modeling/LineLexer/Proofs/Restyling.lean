/-
  LineLexer.Proofs.Restyling
  ──────────────────────────
  **COMMENTS AND LINE BREAKS CARRY NO MEANING.**

  A text is restyled when its comments are left out or worded otherwise, and
  when its line breaks become other ones, or more of them.  That moves the
  tokens, and it moves the ends of the lines that are read; but what stands
  between two lexemes stays trivia, and stays there, so the lexemes are the
  same.

      Restyled                  — what a text can be made into
      IsProper.exists_restyled  — its decomposition goes over into that, lexeme
                                  by lexeme
      scansAlike_of_restyled    — so the tokens are the same, but for their
                                  places
-/
import LineLexer.Proofs.Rescan

namespace LineLexer

/-- One line break character, or several. -/
def IsLineEnding (e : Text) : Prop :=
  e ≠ [] ∧ ∀ c ∈ e, isLineBreak c

/-- The second text is the first one with other comments and other line breaks.
A comment is taken whole: from its number sign up to, but not over, the next
line break, or to the end of the text. -/
inductive Restyled : Text → Text → Prop where
  /-- There is nothing to change. -/
  | nil : Restyled [] []
  /-- Outside comments, a character that is no line break stays. -/
  | other {c : Char} {s s' : Text} (hc : c ≠ '#') (hb : isLineBreak c = false)
      (h : Restyled s s') : Restyled (c :: s) (c :: s')
  /-- A line break becomes one or more of them. -/
  | lineBreak {b : Char} {e s s' : Text} (hb : isLineBreak b) (he : IsLineEnding e)
      (h : Restyled s s') : Restyled (b :: s) (e ++ s')
  /-- A comment is left out. -/
  | erased {body s s' : Text} (hbody : ∀ c ∈ body, !isLineBreak c)
      (hend : Stops (fun c => !isLineBreak c) s) (h : Restyled s s') :
      Restyled ('#' :: (body ++ s)) s'
  /-- A comment is worded otherwise. -/
  | reworded {body body' s s' : Text} (hbody : ∀ c ∈ body, !isLineBreak c)
      (hbody' : ∀ c ∈ body', !isLineBreak c)
      (hend : Stops (fun c => !isLineBreak c) s) (h : Restyled s s') :
      Restyled ('#' :: (body ++ s)) ('#' :: (body' ++ s'))

/-- The text with another line ending in place of each line feed. -/
def withLineEnding (e t : Text) : Text :=
  t.flatMap (fun c => if c = '\n' then e else [c])

/-- Two texts have the same tokens, if the places of these are left aside. -/
def ScansAlike (file? : Option String) (s s' : Text) : Prop :=
  ∃ ts us : List Token, tokenize s file? = .ok ts ∧ tokenize s' file? = .ok us
    ∧ ts.map Token.content = us.map Token.content

/-! ## §1. What a restyled text begins with. -/

theorem IsLineEnding.stops {e : Text} (he : IsLineEnding e) (t : Text) :
    Stops (fun c => !isLineBreak c) (e ++ t) := by
  obtain ⟨hne, hall⟩ := he
  obtain ⟨b, e, rfl⟩ := List.exists_cons_of_ne_nil hne
  exact stops_cons.2 (by simp [hall b List.mem_cons_self])

/-- Line endings are trivia. -/
theorem IsLineEnding.isTrivia {e : Text} (he : IsLineEnding e) (rest : Text) :
    IsTrivia e rest :=
  isTrivia_of_blanks (fun c hc => isBlank_of_isLineBreak (he.2 c hc)) rest

/-- What ends a comment is trivia. -/
theorem isTriviaStart_of_stops {t : Text} (h : Stops (fun c => !isLineBreak c) t) :
    ∀ c ∈ t.head?, isTriviaStart c := by
  intro c hc
  exact isTriviaStart_of_isLineBreak (by simpa using h c hc)

namespace Restyled

variable {s s' : Text}

/-- Where a comment ended, it ends still. -/
theorem stops (h : Restyled s s') (hs : Stops (fun c => !isLineBreak c) s) :
    Stops (fun c => !isLineBreak c) s' := by
  cases h with
  | nil => exact stops_nil _
  | other hc hb => simp [hb] at hs
  | lineBreak hb he => exact he.stops _
  | erased => exact absurd (stops_cons.1 hs) (by decide)
  | reworded => exact absurd (stops_cons.1 hs) (by decide)

/-- The text begins as it did, or with trivia. -/
theorem head? (h : Restyled s s') : ∀ c ∈ s'.head?, c ∈ s.head? ∨ isTriviaStart c := by
  cases h with
  | nil => nofun
  | other => exact fun c hc => .inl hc
  | lineBreak hb he => exact fun c hc => .inr (isTriviaStart_of_stops (he.stops _) c hc)
  | erased hbody hend h => exact fun c hc => .inr (isTriviaStart_of_stops (h.stops hend) c hc)
  | reworded =>
      rintro c ⟨⟩
      exact .inr (by decide)

/-! ## §2. Trivia and lexemes in a restyled text. -/

/-- **Trivia becomes trivia.** -/
theorem exists_trivia {w rest : Text} (hw : IsTrivia w rest) :
    ∀ {s' : Text}, Restyled (w ++ rest) s' →
      ∃ w' rest', s' = w' ++ rest' ∧ IsTrivia w' rest' ∧ Restyled rest rest' := by
  induction hw with
  | nil rest => exact fun {s'} h => ⟨[], s', rfl, .nil s', h⟩
  | @blank c w rest hc hw ih =>
      intro s' h
      rw [List.cons_append] at h
      generalize w ++ rest = s at h ih
      cases h with
      | other hne hb h =>
          obtain ⟨w', rest', rfl, hw', hrest⟩ := ih h
          exact ⟨c :: w', rest', rfl, .blank hc hw', hrest⟩
      | lineBreak hb he h =>
          obtain ⟨w', rest', rfl, hw', hrest⟩ := ih h
          exact ⟨_, rest', (List.append_assoc _ _ _).symm, (he.isTrivia _).append hw', hrest⟩
      | erased => exact absurd hc (by decide)
      | reworded => exact absurd hc (by decide)
  | @comment body w rest hbody hend hw ih =>
      intro s' h
      rw [List.cons_append, List.append_assoc] at h
      generalize ht : body ++ (w ++ rest) = t at h
      cases h with
      | other hne => exact absurd rfl hne
      | lineBreak hb => exact absurd hb (by decide)
      | erased hbody' hend' h =>
          -- the comment that is left out is the one that stands there
          obtain ⟨-, rfl⟩ := append_inj_of_stops hbody hend hbody' hend' ht
          exact ih h
      | @reworded _ body' _ s' hbody₁ hbody' hend' h =>
          obtain ⟨-, rfl⟩ := append_inj_of_stops hbody hend hbody₁ hend' ht
          have hstops := h.stops hend
          obtain ⟨w', rest', rfl, hw', hrest⟩ := ih h
          refine ⟨'#' :: (body' ++ w'), rest', ?_, .comment hbody' hstops hw', hrest⟩
          rw [List.cons_append, List.append_assoc]

/-- **A lexeme stays as it is.** -/
theorem exists_lexeme {l t : Text} (hl : ∀ c ∈ l, isTriviaStart c = false) :
    ∀ {s' : Text}, Restyled (l ++ t) s' → ∃ t', s' = l ++ t' ∧ Restyled t t' := by
  induction l with
  | nil => exact fun {s'} h => ⟨s', rfl, h⟩
  | cons c l ih =>
      intro s' h
      obtain ⟨hc, hl⟩ := List.forall_mem_cons.1 hl
      rw [List.cons_append] at h
      generalize l ++ t = s at h ih
      cases h with
      | other hne hb h =>
          obtain ⟨t', rfl, ht⟩ := ih hl h
          exact ⟨t', rfl, ht⟩
      | lineBreak hb =>
          simp [isTriviaStart_of_isLineBreak hb] at hc
      | erased => exact absurd hc (by decide)
      | reworded => exact absurd hc (by decide)

end Restyled

namespace Decomposition

/-- **A decomposition goes over into the restyled text**, lexeme by lexeme. -/
theorem IsProper.exists_restyled {d : Decomposition} (hd : d.IsProper []) :
    ∀ {s' : Text}, Restyled d.text s' →
      ∃ e : Decomposition, e.text = s' ∧ e.IsProper [] ∧ e.pieces = d.pieces := by
  induction d with
  | trivia w =>
      intro s' h
      obtain ⟨w', rest', rfl, hw', hrest⟩ := Restyled.exists_trivia hd (by simpa [text] using h)
      cases hrest
      exact ⟨trivia w', (List.append_nil _).symm, hw', rfl⟩
  | lexeme g k l d ih =>
      intro s' h
      obtain ⟨hg, hl, hmax, hd⟩ := hd
      rw [List.append_nil] at hg hmax
      obtain ⟨g', rest', rfl, hg', hrest⟩ := Restyled.exists_trivia hg h
      obtain ⟨t', rfl, ht⟩ := Restyled.exists_lexeme hl.not_triviaStart hrest
      -- behind the lexeme stands what stood there, or trivia
      have hmax' := hmax.mono hl ht.head?
      obtain ⟨e, rfl, he, hpieces⟩ := ih hd ht
      refine ⟨lexeme g' k l e, rfl, ⟨?_, hl, ?_, he⟩, ?_⟩
      · simpa using hg'
      · simpa using hmax'
      · simp [pieces, hpieces]

end Decomposition

/-! ## §3. Other line endings. -/

/-- A stretch without line breaks keeps its characters. -/
theorem withLineEnding_append (e : Text) {s : Text} (hs : ∀ c ∈ s, !isLineBreak c) (t : Text) :
    withLineEnding e (s ++ t) = s ++ withLineEnding e t := by
  induction s with
  | nil => rfl
  | cons c s ih =>
      obtain ⟨hc, hs⟩ := List.forall_mem_cons.1 hs
      have hne : c ≠ '\n' := by
        rintro rfl
        exact absurd hc (by decide)
      show (if c = '\n' then e else [c]) ++ withLineEnding e (s ++ t) = _
      rw [if_neg hne, ih hs]
      rfl

/-- **Another line ending restyles a text.** -/
theorem restyled_withLineEnding {e : Text} (he : IsLineEnding e) (t : Text) :
    Restyled t (withLineEnding e t) := by
  -- by the length of the text, since a comment is taken whole
  induction hn : t.length using Nat.strongRecOn generalizing t with
  | _ n ih =>
    cases t with
    | nil => exact .nil
    | cons c t =>
        have hlen : t.length < n := by simp [← hn]
        by_cases hb : isLineBreak c
        · have hc : IsLineEnding (if c = '\n' then e else [c]) := by
            split
            · exact he
            · exact ⟨List.cons_ne_nil _ _, List.forall_mem_singleton.2 hb⟩
          exact .lineBreak hb hc (ih _ hlen t rfl)
        by_cases hh : c = '#'
        · subst hh
          have hsplit := List.takeWhile_append_dropWhile (p := fun d => !isLineBreak d) (l := t)
          have hbody : ∀ d ∈ t.takeWhile (fun d => !isLineBreak d), !isLineBreak d :=
            fun d hd => List.all_eq_true.1 List.all_takeWhile d hd
          have hrest := (List.dropWhile_suffix (l := t) (fun d => !isLineBreak d)).length_le
          have hmore := ih _ (Nat.lt_of_le_of_lt hrest hlen) _ rfl
          have hcomment := Restyled.reworded hbody hbody (stops_dropWhile _ t) hmore
          rw [← withLineEnding_append e hbody, hsplit] at hcomment
          exact hcomment
        · have hno : ∀ d ∈ [c], !isLineBreak d :=
            List.forall_mem_singleton.2 (by simp [hb])
          have hone := withLineEnding_append e hno t
          rw [List.singleton_append, List.singleton_append] at hone
          rw [hone]
          exact .other hh (by simpa using hb) (ih _ hlen t rfl)

/-! ## §4. The same tokens. -/

open Decomposition in
/-- What a text is made into has the contents of its tokens. -/
theorem Restyled.scansAlike {s s' : Text} (h : Restyled s s') (file? : Option String) :
    ScansAlike file? s s' := by
  obtain ⟨d, rfl, hd⟩ := exists_proper s
  obtain ⟨e, rfl, he, hpieces⟩ := hd.exists_restyled h
  have hts := tokenize_of_proper hd file?
  have hus := tokenize_of_proper he file?
  refine ⟨_, _, hts, hus, ?_⟩
  rw [content_tokenize hd file? hts, content_tokenize he file? hus, hpieces]

/-- Texts that scan like a third one scan alike. -/
theorem ScansAlike.trans_left {file? : Option String} {s t t' : Text}
    (h : ScansAlike file? s t) (h' : ScansAlike file? s t') : ScansAlike file? t t' := by
  obtain ⟨ts, us, hts, hus, hsame⟩ := h
  obtain ⟨ts', vs, hts', hvs, hsame'⟩ := h'
  rw [hts] at hts'
  cases hts'
  exact ⟨us, vs, hus, hvs, hsame.symm.trans hsame'⟩

/-- **Comments and line breaks carry no meaning**: a text that is restyled has
the same tokens, but for their places.  So a text has the same tokens with one
line ending as with another. -/
theorem scansAlike_of_restyled (file? : Option String) :
    (∀ s s' : Text, Restyled s s' → ScansAlike file? s s')
      ∧ ∀ t e e' : Text, IsLineEnding e → IsLineEnding e' →
          ScansAlike file? (withLineEnding e t) (withLineEnding e' t) := by
  refine ⟨fun s s' h => h.scansAlike file?, fun t e e' he he' => ?_⟩
  have hto := (restyled_withLineEnding he t).scansAlike file?
  have hto' := (restyled_withLineEnding he' t).scansAlike file?
  exact hto.trans_left hto'

/-- A comment that is left out, one that is worded otherwise, and two ways to end
a line. -/
theorem scansAlike_signs_restyled :
    Restyled ['#', '=', '\r', '=', '#'] ['\n', '\n', '=', '#', '>']
      ∧ ScansAlike none ['#', '=', '\r', '=', '#'] ['\n', '\n', '=', '#', '>']
      ∧ IsLineEnding ['\r'] ∧ IsLineEnding ['\r', '\n']
      ∧ ScansAlike none ['=', '\r', '='] ['=', '\r', '\n', '='] := by
  obtain ⟨hrestyled, hending⟩ := scansAlike_of_restyled none
  have hreturn : IsLineEnding ['\r'] := by simp [IsLineEnding, isLineBreak]
  have hboth : IsLineEnding ['\r', '\n'] := by simp [IsLineEnding, isLineBreak]
  have hfeeds : IsLineEnding ['\n', '\n'] := by simp [IsLineEnding, isLineBreak]
  have h : Restyled ['#', '=', '\r', '=', '#'] ['\n', '\n', '=', '#', '>'] :=
    @Restyled.erased ['='] _ _ (List.forall_mem_singleton.2 (by decide))
      (stops_cons.2 (by decide))
      (.lineBreak (by decide) hfeeds (.other (by decide) (by decide)
        (@Restyled.reworded [] ['>'] _ _ (List.forall_mem_nil _)
          (List.forall_mem_singleton.2 (by decide)) (stops_nil _) .nil)))
  exact ⟨h, hrestyled _ _ h, hreturn, hboth, hending ['=', '\n', '='] _ _ hreturn hboth⟩

end LineLexer
