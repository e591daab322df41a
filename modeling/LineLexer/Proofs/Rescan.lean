/-
  LineLexer.Proofs.Rescan
  ───────────────────────
  **WHICH LEXEMES CAN BE WRITTEN DOWN AND READ BACK.**

  Lexemes are written one behind the other, with blanks between them or
  without.  Reading gives them back if and only if no two of them run
  together: where nothing stands between two lexemes, the first one must not
  go on with the first character of the second (`IsSafe`).

      isProper_iff_isSafe  — lexemes that do not run together are decomposed as
                             they were written, and no others
      eq_of_pieces         — what is read back was written in the same places
      rescan_iff           — so the lexemes are read back just in that case;
                             and every token of any text is such a lexeme
-/
import LineLexer.Proofs.Tokenizing

namespace LineLexer

/-- What a token is, without its place. -/
def Token.content (t : Token) : Category × Option Text :=
  (t.category, t.lexeme?)

namespace Decomposition

/-! ## §1. Lexemes with blanks between them. -/

/-- The lexemes with their categories. -/
def pieces : Decomposition → List (Category × Text)
  | trivia _ => []
  | lexeme _ k l d => (k, l) :: d.pieces

/-- Each lexeme is spelt as its category asks for, and all that stands between
them is blank. -/
def IsSpaced : Decomposition → Prop
  | trivia w => ∀ c ∈ w, isBlank c
  | lexeme g k l d => (∀ c ∈ g, isBlank c) ∧ IsLexeme k l ∧ d.IsSpaced

/-- The lexeme does not go on with the first one, should that stand right
behind it. -/
def Bears (k : Category) (l : Text) : Decomposition → Prop
  | trivia _ => True
  | lexeme g _ l' _ => g = [] → ∀ c ∈ l'.head?, ¬ GoesOn k l c

/-- No two lexemes run together. -/
def IsSafe : Decomposition → Prop
  | trivia _ => True
  | lexeme _ k l d => d.Bears k l ∧ d.IsSafe

/-- Tokens are pieces in their places. -/
theorem content_tokens (file : String) (d : Decomposition) :
    ∀ offset, (d.tokens file offset).map Token.content
      = d.pieces.map (fun p => (p.1, some p.2)) := by
  induction d with
  | trivia w => exact fun _ => rfl
  | lexeme g k l d ih =>
      intro offset
      show (k, some l) :: (d.tokens file _).map Token.content = _
      rw [ih]
      rfl

/-- Every token of a decomposition is a lexeme of its category. -/
theorem IsProper.isLexeme_of_mem_tokens {d : Decomposition} {rest : Text}
    (h : d.IsProper rest) (file : String) :
    ∀ offset, ∀ t ∈ d.tokens file offset, ∃ l, t.lexeme? = some l ∧ IsLexeme t.category l := by
  induction d with
  | trivia w =>
      intro offset t ht
      cases ht
  | lexeme g k l d ih =>
      intro offset t ht
      obtain ⟨-, hl, -, hd⟩ := h
      rcases List.mem_cons.1 ht with rfl | ht
      · exact ⟨l, rfl, hl⟩
      · exact ih hd _ t ht

/-! ## §2. Running together. -/

/-- No lexeme goes on with a blank. -/
theorem not_goesOn_of_isBlank {k : Category} {l : Text} {c : Char} (hc : isBlank c) :
    ¬ GoesOn k l c :=
  not_goesOn_of_isTriviaStart (isTriviaStart_of_isBlank hc)

/-- **A lexeme is maximal before lexemes and blanks** if and only if it bears
them. -/
theorem isMaximal_iff_bears {k : Category} {l : Text} {d : Decomposition} (hl : IsLexeme k l)
    (hd : d.IsSpaced) : IsMaximal k l d.text ↔ d.Bears k l := by
  rw [isMaximal_iff hl]
  cases d with
  | trivia w =>
      refine ⟨fun _ => trivial, ?_⟩
      intro _ c hc
      exact not_goesOn_of_isBlank (hd c (List.mem_of_head? hc))
  | lexeme g k' l' d =>
      obtain ⟨hg, hl', -⟩ := hd
      show (∀ c ∈ (g ++ (l' ++ d.text)).head?, _) ↔ _
      cases g with
      | nil =>
          -- what follows is the first character of the next lexeme
          have hhead : (l' ++ d.text).head? = l'.head? := by
            simpa using hl'.head?_append d.text []
          rw [List.nil_append, hhead]
          exact ⟨fun h _ => h, fun h => h rfl⟩
      | cons b g =>
          refine ⟨fun _ hnil => ?_, ?_⟩
          · cases hnil
          · intro _ c hc
            cases hc
            exact not_goesOn_of_isBlank (hg b List.mem_cons_self)

/-- **Spaced lexemes are decomposed as they were written** if and only if no
two of them run together. -/
theorem isProper_iff_isSafe {d : Decomposition} (hd : d.IsSpaced) :
    d.IsProper [] ↔ d.IsSafe := by
  induction d with
  | trivia w => exact ⟨fun _ => trivial, fun _ => isTrivia_of_blanks hd []⟩
  | lexeme g k l d ih =>
      obtain ⟨hg, hl, hd⟩ := hd
      have hmax := isMaximal_iff_bears hl hd
      constructor
      · rintro ⟨-, -, hm, hproper⟩
        rw [List.append_nil] at hm
        exact ⟨hmax.1 hm, (ih hd).1 hproper⟩
      · rintro ⟨hbears, hsafe⟩
        refine ⟨isTrivia_of_blanks hg _, hl, ?_, (ih hd).2 hsafe⟩
        rw [List.append_nil]
        exact hmax.2 hbears

/-! ## §3. Reading back. -/

/-- **What is read back stands where it was written**: two decompositions of
one text into the same lexemes are the same, if one has blanks and the other
trivia between them. -/
theorem eq_of_pieces {d e : Decomposition} (hd : d.IsSpaced) (he : e.IsProper [])
    (htext : d.text = e.text) (hpieces : d.pieces = e.pieces) : d = e := by
  induction d generalizing e with
  | trivia w =>
      cases e with
      | trivia v => exact congrArg trivia htext
      | lexeme g k l e => cases hpieces
  | lexeme g k l d ih =>
      cases e with
      | trivia v => cases hpieces
      | lexeme g' k' l' e =>
          obtain ⟨hg, hl, hd⟩ := hd
          obtain ⟨hg', -, -, he⟩ := he
          obtain ⟨hhead, hmore⟩ := List.cons.inj hpieces
          cases hhead
          -- both gaps are the trivia in front of one lexeme
          rw [List.append_nil] at hg'
          obtain ⟨rfl, hrest⟩ := IsTrivia.unique (isTrivia_of_blanks hg (l ++ d.text))
            (hl.stops _) hg' (hl.stops _) htext
          rw [ih hd he (List.append_cancel_left hrest) hmore]

/-- The contents of the tokens of a text that is decomposed. -/
theorem content_tokenize {d : Decomposition} (hd : d.IsProper []) (file? : Option String)
    {ts : List Token} (h : tokenize d.text file? = .ok ts) :
    ts.map Token.content = d.pieces.map (fun p => (p.1, some p.2)) ++ [(.eof, none)] := by
  rw [tokenize_of_proper hd] at h
  cases h
  rw [List.map_append, content_tokens]
  rfl

/-- Lexemes are read back exactly if they stand in the one decomposition of
what was written. -/
theorem read_back_iff {d : Decomposition} (hd : d.IsSpaced) (file? : Option String) :
    (∃ ts, tokenize d.text file? = .ok ts
        ∧ ts.map Token.content = d.pieces.map (fun p => (p.1, some p.2)) ++ [(.eof, none)])
      ↔ d.IsProper [] := by
  constructor
  · rintro ⟨ts, hts, hcontent⟩
    obtain ⟨e, he, hproper⟩ := exists_proper d.text
    rw [← he] at hts
    have hsame := content_tokenize hproper file? hts
    rw [hcontent, List.append_left_inj] at hsame
    have hinj : Function.Injective (fun p : Category × Text => (p.1, some p.2)) := by
      rintro ⟨k, l⟩ ⟨k', l'⟩ h
      cases h
      rfl
    rw [eq_of_pieces hd hproper he.symm ((List.map_inj_right hinj).1 hsame)]
    exact hproper
  · intro hproper
    have hts := tokenize_of_proper hproper file?
    exact ⟨_, hts, content_tokenize hproper file? hts⟩

end Decomposition

open Decomposition in
/-- **Written lexemes are read back if and only if no two of them run
together**; and every token of any text, but the one that marks the end, is a
lexeme that can be written so. -/
theorem rescan_iff (file? : Option String) :
    (∀ d : Decomposition, d.IsSpaced →
      ((∃ ts, tokenize d.text file? = .ok ts
          ∧ ts.map Token.content = d.pieces.map (fun p => (p.1, some p.2)) ++ [(.eof, none)])
        ↔ d.IsSafe))
      ∧ ∀ (source : Text) (ts : List Token), tokenize source file? = .ok ts →
          ∀ t ∈ ts, t.category ≠ .eof → ∃ l, t.lexeme? = some l ∧ IsLexeme t.category l := by
  constructor
  · intro d hd
    rw [read_back_iff hd, isProper_iff_isSafe hd]
  · intro source ts hts t ht hk
    obtain ⟨d, rfl, hproper⟩ := exists_proper source
    rw [tokenize_of_proper hproper] at hts
    cases hts
    rcases List.mem_append.1 ht with ht | ht
    · exact hproper.isLexeme_of_mem_tokens _ _ t ht
    · rw [List.mem_singleton.1 ht] at hk
      exact absurd rfl hk

/-- Two signs, with a text between them or without. -/
def Decomposition.twoSigns (gap : Text) : Decomposition :=
  .lexeme [] .assign ['='] (.lexeme gap .assign ['='] (.trivia []))

theorem rescan_two_signs :
    (∃ ts, tokenize ['=', ' ', '='] none = .ok ts
        ∧ ts.map Token.content
          = [(.assign, some ['=']), (.assign, some ['=']), (.eof, none)]
        ∧ ∃ t ∈ ts, t.category ≠ .eof ∧ ∃ l, t.lexeme? = some l ∧ IsLexeme t.category l)
      ∧ ¬ ∃ ts, tokenize ['=', '='] none = .ok ts
        ∧ ts.map Token.content
          = [(.assign, some ['=']), (.assign, some ['=']), (.eof, none)] := by
  obtain ⟨hback, hlexeme⟩ := rescan_iff none
  have hsign : IsLexeme .assign ['='] := .fixed rfl
  have hblank : ∀ c ∈ [' '], isBlank c := List.forall_mem_singleton.2 (by decide)
  have hapart := hback (.twoSigns [' ']) ⟨nofun, hsign, hblank, hsign, nofun⟩
  have htogether := hback (.twoSigns []) ⟨nofun, hsign, nofun, hsign, nofun⟩
  constructor
  · obtain ⟨ts, hts, hcontent⟩ := hapart.2 ⟨nofun, trivial, trivial⟩
    have hmem : (.assign, some ['=']) ∈ ts.map Token.content := by
      rw [hcontent]
      exact List.mem_cons_self
    obtain ⟨t, ht, hassign⟩ := List.mem_map.1 hmem
    have hk : t.category ≠ .eof := by
      rw [show t.category = .assign from congrArg Prod.fst hassign]
      decide
    exact ⟨ts, hts, hcontent, t, ht, hk, hlexeme _ ts hts t ht hk⟩
  · intro h
    -- the two signs together are another operator
    have hbears := (htogether.1 h).1 rfl '=' rfl
    exact hbears (.inr (.inr ⟨rfl, .eq, rfl, rfl⟩))

end LineLexer
