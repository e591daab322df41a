/-
  LineLexer.Proofs.Decomposition
  ──────────────────────────────
  **EVERY TEXT IS TRIVIA AND LEXEMES IN ONE WAY.**

  A decomposition is data: trivia and lexemes in turn.  It is *proper* if the
  grammar allows each part in its place.

      exists_proper     — every text has a proper decomposition
      IsProper.unique   — and no other one
      IsProper.glue     — decompositions of two texts make one of both, where
                          the first bears what follows it
      tokens_glue       — and so do their tokens

  Being proper is said with respect to a text that follows, of which only the
  first character counts, and not even that where trivia follows
  (`IsProper.mono`).
-/
import LineLexer.Token
import LineLexer.Proofs.Matching
import LineLexer.Proofs.Skipping

namespace LineLexer

/-- Trivia and lexemes in turn. -/
inductive Decomposition where
  /-- The trivia behind the last lexeme. -/
  | trivia (text : Text)
  /-- Trivia, a lexeme of a category, and all that follows. -/
  | lexeme (gap : Text) (category : Category) (lexeme : Text) (rest : Decomposition)
  deriving Repr, DecidableEq

namespace Decomposition

/-! ## §1. What a decomposition stands for. -/

/-- The text that is decomposed. -/
def text : Decomposition → Text
  | trivia w => w
  | lexeme g _ l d => g ++ (l ++ d.text)

/-- The grammar allows each part in its place, if `rest` follows. -/
def IsProper (rest : Text) : Decomposition → Prop
  | trivia w => IsTrivia w rest
  | lexeme g k l d =>
      IsTrivia g (l ++ (d.text ++ rest)) ∧ IsLexeme k l ∧ IsMaximal k l (d.text ++ rest)
        ∧ d.IsProper rest

/-- The tokens of a decomposition that begins at the offset. -/
def tokens (file : String) : Nat → Decomposition → List Token
  | _, trivia _ => []
  | offset, lexeme g k l d =>
      let start := offset + Utf8.size g
      let stop := start + Utf8.size l
      ⟨k, some l, .within file start stop⟩ :: d.tokens file stop

/-- The trivia behind the last lexeme. -/
def lastGap : Decomposition → Text
  | trivia w => w
  | lexeme _ _ _ d => d.lastGap

/-- The decomposition with more trivia in front. -/
def pad (w : Text) : Decomposition → Decomposition
  | trivia v => trivia (w ++ v)
  | lexeme g k l d => lexeme (w ++ g) k l d

/-- One decomposition behind the other. -/
def glue : Decomposition → Decomposition → Decomposition
  | trivia w, e => e.pad w
  | lexeme g k l d, e => lexeme g k l (d.glue e)

/-- Decompositions in a row. -/
def joined (ds : List Decomposition) : Decomposition :=
  ds.foldr glue (trivia [])

/-! ## §2. Putting decompositions together. -/

@[simp] theorem text_pad (w : Text) (d : Decomposition) : (d.pad w).text = w ++ d.text := by
  cases d <;> simp [pad, text]

@[simp] theorem text_glue (d e : Decomposition) : (d.glue e).text = d.text ++ e.text := by
  induction d with
  | trivia w => simp [glue, text]
  | lexeme g k l d ih => simp [glue, text, ih]

@[simp] theorem text_joined (ds : List Decomposition) :
    (joined ds).text = (ds.map text).flatten := by
  induction ds with
  | nil => rfl
  | cons d ds ih =>
      show (d.glue (joined ds)).text = _
      rw [text_glue, ih, List.map_cons, List.flatten_cons]

@[simp] theorem tokens_pad (file : String) (offset : Nat) (w : Text) (d : Decomposition) :
    (d.pad w).tokens file offset = d.tokens file (offset + Utf8.size w) := by
  cases d <;> simp [pad, tokens, Nat.add_assoc]

/-- The tokens of the second decomposition begin where the first one ends. -/
theorem tokens_glue (file : String) (d e : Decomposition) :
    ∀ offset, (d.glue e).tokens file offset
      = d.tokens file offset ++ e.tokens file (offset + Utf8.size d.text) := by
  induction d with
  | trivia w =>
      intro offset
      simp [glue, tokens, text]
  | lexeme g k l d ih =>
      intro offset
      simp [glue, tokens, text, ih, Nat.add_assoc]

/-- Tokens move with the text. -/
theorem tokens_add (file : String) (d : Decomposition) (n : Nat) :
    ∀ offset, d.tokens file (offset + n) = (d.tokens file offset).map (·.shift n) := by
  induction d with
  | trivia w => exact fun _ => rfl
  | lexeme g k l d ih =>
      intro offset
      simp only [tokens, List.map_cons]
      rw [← ih]
      -- what is left is the arithmetic of the offsets
      simp only [Token.shift, Span.shift, Span.within]
      congr 1
      · simp only [Token.mk.injEq, Span.mk.injEq, Position.mk.injEq, true_and, and_true]
        omega
      · congr 1
        omega

/-! ## §3. Properness looks one character ahead. -/

theorem lastGap_isSuffix (d : Decomposition) : ∃ front, d.text = front ++ d.lastGap := by
  induction d with
  | trivia w => exact ⟨[], rfl⟩
  | lexeme g k l d ih =>
      obtain ⟨front, hfront⟩ := ih
      exact ⟨g ++ (l ++ front), by simp [text, lastGap, hfront]⟩

theorem IsProper.isTrivia_lastGap {d : Decomposition} {rest : Text} (h : d.IsProper rest) :
    IsTrivia d.lastGap rest := by
  induction d with
  | trivia w => exact h
  | lexeme g k l d ih => exact ih h.2.2.2

/-- **A decomposition stays proper** before another text, if its last trivia
bears that, and if the text begins as the former one did, or with trivia. -/
theorem IsProper.mono {d : Decomposition} {r r' : Text} (h : d.IsProper r)
    (hgap : IsTrivia d.lastGap r') (hr : ∀ c ∈ r'.head?, c ∈ r.head? ∨ isTriviaStart c) :
    d.IsProper r' := by
  induction d with
  | trivia w => exact hgap
  | lexeme g k l d ih =>
      obtain ⟨hg, hl, hmax, hd⟩ := h
      refine ⟨hg.congr (hl.head?_append _ _), hl, hmax.mono hl ?_, ih hd hgap⟩
      cases d.text with
      | nil => exact hr
      | cons b t => exact fun c hc => .inl hc

/-- A lexeme and a line feed behind it make a line. -/
theorem isProper_line {k : Category} {l : Text} (hl : IsLexeme k l) :
    (lexeme [] k l (.trivia ['\n'])).IsProper [] := by
  have hbreak : isTriviaStart '\n' := by decide
  have hmax : IsMaximal k l ['\n'] := by
    rw [isMaximal_iff hl]
    intro c hc
    exact not_goesOn_of_isTriviaStart (Option.mem_some.1 hc ▸ hbreak)
  have hblank : IsTrivia ['\n'] [] :=
    isTrivia_of_blanks (List.forall_mem_singleton.2 (by decide)) []
  exact ⟨.nil _, hl, hmax, hblank⟩

theorem IsProper.pad {w rest : Text} {d : Decomposition} (hw : IsTrivia w (d.text ++ rest))
    (hd : d.IsProper rest) : (d.pad w).IsProper rest := by
  cases d with
  | trivia v => exact hw.append hd
  | lexeme g k l d =>
      refine ⟨IsTrivia.append ?_ hd.1, hd.2⟩
      simpa [text] using hw

/-- **Decompositions can be put together** where the first one bears what
follows. -/
theorem IsProper.glue {d e : Decomposition} {rest : Text} (hd : d.IsProper (e.text ++ rest))
    (he : e.IsProper rest) : (d.glue e).IsProper rest := by
  induction d with
  | trivia w => exact he.pad hd
  | lexeme g k l d ih =>
      obtain ⟨hg, hl, hmax, hd⟩ := hd
      refine ⟨?_, hl, ?_, ih hd⟩
      · simpa using hg
      · simpa using hmax

/-- A text that ends with a line break can be followed by anything. -/
theorem IsProper.of_getLast? {d : Decomposition} (h : d.IsProper [])
    (hlast : ∀ b ∈ d.text.getLast?, isLineBreak b) (rest : Text) : d.IsProper rest := by
  induction d with
  | trivia w => exact IsTrivia.of_getLast? h hlast rest
  | lexeme g k l d ih =>
      obtain ⟨hg, hl, hmax, hd⟩ := h
      have hlast' : ∀ b ∈ (l ++ d.text).getLast?, isLineBreak b := by
        intro b hb
        apply hlast b
        rw [text, List.getLast?_append, Option.mem_def.1 hb]
        rfl
      -- a lexeme holds no line break, so something stands behind it
      have hne : d.text ≠ [] := by
        intro hnil
        rw [hnil, List.append_nil] at hlast'
        obtain ⟨b, hb⟩ := List.getLast?_isSome.2 hl.ne_nil |> Option.isSome_iff_exists.1
        have hbreak := hlast' b hb
        have hstart := hl.not_triviaStart b (List.mem_of_getLast? hb)
        simp [isTriviaStart_of_isLineBreak hbreak] at hstart
      obtain ⟨c, t, hct⟩ := List.exists_cons_of_ne_nil hne
      refine ⟨hg.congr (hl.head?_append _ _), hl, hmax.congr hl (by simp [hct]), ih hd ?_⟩
      intro b hb
      apply hlast' b
      rw [List.getLast?_append, Option.mem_def.1 hb]
      rfl

/-- No token of a decomposition marks the end of a source. -/
theorem IsProper.isEnd_of_mem_tokens {d : Decomposition} {rest : Text} (h : d.IsProper rest)
    (file : String) : ∀ offset, ∀ t ∈ d.tokens file offset, t.isEnd = false := by
  induction d with
  | trivia w => exact fun _ => List.forall_mem_nil _
  | lexeme g k l d ih =>
      intro offset
      obtain ⟨-, hl, -, hd⟩ := h
      exact List.forall_mem_cons.2 ⟨beq_eq_false_iff_ne.2 hl.ne_eof, ih hd _⟩

theorem IsProper.filter_tokens {d : Decomposition} {rest : Text} (h : d.IsProper rest)
    (file : String) (offset : Nat) :
    (d.tokens file offset).filter (fun t => !t.isEnd) = d.tokens file offset := by
  rw [List.filter_eq_self]
  intro t ht
  rw [h.isEnd_of_mem_tokens file offset t ht]
  rfl

/-- So the end can be taken off again. -/
theorem IsProper.filter_tokens_endOf {d : Decomposition} {rest : Text} (h : d.IsProper rest)
    (file : String) (offset stop : Nat) :
    (d.tokens file offset ++ [Token.endOf file stop]).filter (fun t => !t.isEnd)
      = d.tokens file offset := by
  have hend : [Token.endOf file stop].filter (fun t => !t.isEnd) = [] := rfl
  rw [List.filter_append, h.filter_tokens, hend, List.append_nil]

/-- Nor does one of decompositions in a row. -/
theorem isEnd_of_mem_tokens_joined {ds : List Decomposition} (hds : ∀ e ∈ ds, e.IsProper [])
    (file : String) : ∀ offset, ∀ t ∈ (joined ds).tokens file offset, t.isEnd = false := by
  induction ds with
  | nil => exact fun _ => List.forall_mem_nil _
  | cons d ds ih =>
      intro offset t ht
      obtain ⟨hd, hds⟩ := List.forall_mem_cons.1 hds
      rw [show joined (d :: ds) = d.glue (joined ds) from rfl, tokens_glue] at ht
      rcases List.mem_append.1 ht with ht | ht
      · exact hd.isEnd_of_mem_tokens file offset t ht
      · exact ih hds _ t ht

/-- Decompositions of lines make one of the whole text: only the last line may
lack its line break. -/
theorem IsProper.joined {ds : List Decomposition} (hds : ∀ e ∈ ds, e.IsProper [])
    (hlast : ∀ e ∈ ds.dropLast, ∀ b ∈ e.text.getLast?, isLineBreak b) :
    (joined ds).IsProper [] := by
  induction ds with
  | nil => exact IsTrivia.nil []
  | cons d ds ih =>
      obtain ⟨hd, hds⟩ := List.forall_mem_cons.1 hds
      show (d.glue (Decomposition.joined ds)).IsProper []
      cases ds with
      | nil => exact IsProper.glue hd (IsTrivia.nil [])
      | cons e ds =>
          rw [List.dropLast_cons_of_ne_nil (List.cons_ne_nil e ds)] at hlast
          -- the first line is not the last, so it bears what follows
          obtain ⟨hbreak, hlast⟩ := List.forall_mem_cons.1 hlast
          exact IsProper.glue (hd.of_getLast? hbreak _) (ih hds hlast)

/-! ## §4. Existence and uniqueness. -/

/-- **Every text has a proper decomposition.** -/
theorem exists_proper (t : Text) : ∃ d : Decomposition, d.text = t ∧ d.IsProper [] := by
  -- by the length of the text, of which every lexeme takes some
  induction hn : t.length using Nat.strongRecOn generalizing t with
  | _ n ih =>
    obtain ⟨w, t', rfl, hw, hstop⟩ := exists_trivia_front t
    by_cases ht' : t' = []
    · subst ht'
      exact ⟨.trivia w, (List.append_nil w).symm, hw⟩
    · obtain ⟨k, l, rest, rfl, hl, hmax⟩ := exists_lexeme_front ht' hstop
      have hpos := List.length_pos_iff.2 hl.ne_nil
      obtain ⟨d, hd, hproper⟩ := ih rest.length (by
        simp only [List.length_append] at hn
        omega) rest rfl
      subst hd
      refine ⟨.lexeme w k l d, rfl, ?_, hl, ?_, hproper⟩
      · simpa using hw
      · simpa using hmax

/-- Each of several texts can be decomposed. -/
theorem exists_proper_each (ts : List Text) :
    ∃ ds : List Decomposition, ds.map text = ts ∧ ∀ e ∈ ds, e.IsProper [] := by
  induction ts with
  | nil => exact ⟨[], rfl, nofun⟩
  | cons t ts ih =>
      obtain ⟨d, hd, hproper⟩ := exists_proper t
      obtain ⟨ds, hds, hall⟩ := ih
      refine ⟨d :: ds, by rw [List.map_cons, hd, hds], ?_⟩
      exact List.forall_mem_cons.2 ⟨hproper, hall⟩

/-- **No text has two proper decompositions.** -/
theorem IsProper.unique {d e : Decomposition} (hd : d.IsProper []) (he : e.IsProper [])
    (h : d.text = e.text) : d = e := by
  induction d generalizing e with
  | trivia w =>
      cases e with
      | trivia v => exact congrArg trivia h
      | lexeme g k l e =>
          -- behind `w` there is nothing, but behind `g` there is a lexeme
          obtain ⟨hg, hl, -⟩ := he
          have hcut := IsTrivia.unique hd (stops_nil _) hg (hl.stops _)
            (by simpa [text] using h)
          exact absurd (List.append_eq_nil_iff.1 hcut.2.symm).1 hl.ne_nil
  | lexeme g k l d ih =>
      obtain ⟨hg, hl, hmax, hd⟩ := hd
      cases e with
      | trivia v =>
          have hcut := IsTrivia.unique hg (hl.stops _) he (stops_nil _)
            (by simpa [text] using h)
          exact absurd (List.append_eq_nil_iff.1 hcut.2).1 hl.ne_nil
      | lexeme g' k' l' e =>
          obtain ⟨hg', hl', hmax', he⟩ := he
          obtain ⟨rfl, hrest⟩ := IsTrivia.unique hg (hl.stops _) hg' (hl'.stops _)
            (by simpa [text] using h)
          obtain ⟨rfl, rfl, hde⟩ := hl.unique hmax hl' hmax' hrest
          rw [ih hd he (by simpa using hde)]

end Decomposition

end LineLexer
