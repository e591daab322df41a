/-
  LineLexer.Proofs.Grammar
  ────────────────────────
  **THE LEXICAL GRAMMAR.**

  A text is made of trivia and lexemes.  This module says what the two are
  without any reference to how they are found:

      IsTrivia w rest     — `w` is blanks and comments, if `rest` follows it
      IsLexeme k l        — `l` is spelt as the category `k` asks for
      IsMaximal k l rest  — `l` could not be longer, if `rest` follows it

  The text that follows matters only through its first character
  (`IsTrivia.congr`, `isMaximal_iff`).  That is what makes the grammar local:
  whatever changes further on leaves a lexeme and the trivia before it alone.
  Nor does it matter which trivia follows: it ends every lexeme before it
  (`IsMaximal.mono`), and only an open comment goes on in what follows
  (`IsTrivia.followedBy`).
-/
import LineLexer.Rule
import LineLexer.Trivia

namespace LineLexer

/-! ## §1. Classes of characters. -/

/-- The characters of operators and punctuation marks. -/
def marks : List Char :=
  ['=', '>', '<', '-', '+', '*', '/', '(', ')', ';', ',']

/-- Whether the character is one of the marks. -/
def isMark (c : Char) : Bool :=
  marks.contains c

/-- The characters with which trivia begins. -/
def isTriviaStart (c : Char) : Bool :=
  isBlank c || c = '#'

/-- The characters that belong to no trivia and to no lexeme but the one they
are alone. -/
def isForeign (c : Char) : Bool :=
  !(c.isAlphanum || isTriviaStart c || isMark c)

/-- A run of the class does not go on into the text. -/
def Stops (p : Char → Bool) (t : Text) : Prop :=
  ∀ c ∈ t.head?, p c = false

@[simp] theorem stops_nil (p : Char → Bool) : Stops p [] := by
  simp [Stops]

@[simp] theorem stops_cons {p : Char → Bool} {c : Char} {t : Text} :
    Stops p (c :: t) ↔ p c = false := by
  simp [Stops]

theorem stops_dropWhile (p : Char → Bool) (t : Text) : Stops p (t.dropWhile p) := by
  intro c hc
  have h := List.head?_dropWhile_not p t
  rw [hc] at h
  exact h

/-- A run is as long as its class reaches. -/
theorem takeWhile_append_of_stops {p : Char → Bool} {s t : Text}
    (hs : ∀ c ∈ s, p c) (ht : Stops p t) : (s ++ t).takeWhile p = s := by
  rw [List.takeWhile_append_of_pos hs]
  cases t with
  | nil => simp
  | cons c t => simp [stops_cons.1 ht]

/-- So a text is cut in one way behind a run. -/
theorem append_inj_of_stops {p : Char → Bool} {s s' t t' : Text} (hs : ∀ c ∈ s, p c)
    (ht : Stops p t) (hs' : ∀ c ∈ s', p c) (ht' : Stops p t') (h : s ++ t = s' ++ t') :
    s = s' ∧ t = t' := by
  have hrun : s = s' := by
    rw [← takeWhile_append_of_stops hs ht, h, takeWhile_append_of_stops hs' ht']
  subst hrun
  exact ⟨rfl, List.append_cancel_left h⟩

/-- What holds of the marks one by one holds of each. -/
theorem of_isMark {p : Char → Bool} (hall : marks.all p = true) {c : Char} (h : isMark c) :
    p c = true :=
  List.all_eq_true.1 hall c (List.contains_iff_mem.1 h)

theorem not_alphanum_of_isMark {c : Char} (h : isMark c) : c.isAlphanum = false := by
  have hall : marks.all (fun d => !d.isAlphanum) = true := by decide
  simpa using of_isMark hall h

theorem not_triviaStart_of_isMark {c : Char} (h : isMark c) : isTriviaStart c = false := by
  have hall : marks.all (fun d => !isTriviaStart d) = true := by decide
  simpa using of_isMark hall h

/-- A foreign character is of no other class. -/
theorem classes_of_isForeign {c : Char} (h : isForeign c) :
    c.isAlpha = false ∧ c.isDigit = false ∧ isTriviaStart c = false ∧ isMark c = false := by
  unfold isForeign Char.isAlphanum at h
  simp only [Bool.not_eq_true', Bool.or_eq_false_iff] at h
  obtain ⟨⟨⟨hα, hdigit⟩, hstart⟩, hmark⟩ := h
  exact ⟨hα, hdigit, hstart, hmark⟩

theorem not_triviaStart_of_isAlphanum {c : Char} (h : c.isAlphanum) :
    isTriviaStart c = false := by
  have hall : [' ', '\t', '\n', '\x0b', '\x0c', '\r', '#'].all (fun d => !d.isAlphanum)
      = true := by decide
  cases hc : isTriviaStart c with
  | false => rfl
  | true =>
      have := List.all_eq_true.1 hall c
        (by simpa [isTriviaStart, isBlank, or_assoc] using hc)
      simp [h] at this

theorem isTriviaStart_of_isBlank {c : Char} (h : isBlank c) : isTriviaStart c := by
  simp [isTriviaStart, h]

/-- Comments end at blanks. -/
theorem isBlank_of_isLineBreak {c : Char} (h : isLineBreak c) : isBlank c := by
  simp only [isLineBreak, Bool.or_eq_true, decide_eq_true_eq] at h
  rcases h with rfl | rfl <;> decide

theorem isTriviaStart_of_isLineBreak {c : Char} (h : isLineBreak c) : isTriviaStart c :=
  isTriviaStart_of_isBlank (isBlank_of_isLineBreak h)

/-! ## §2. Trivia. -/

/-- Blanks and comments.  A comment reaches up to the next line break, or to
the end of the whole text; so whether it is complete depends on what
follows. -/
inductive IsTrivia : Text → Text → Prop where
  /-- No trivia at all. -/
  | nil (rest : Text) : IsTrivia [] rest
  /-- A blank, and the trivia behind it. -/
  | blank {c : Char} {w rest : Text} (hc : isBlank c) (hw : IsTrivia w rest) :
      IsTrivia (c :: w) rest
  /-- A comment, and the trivia behind it. -/
  | comment {body w rest : Text} (hbody : ∀ c ∈ body, !isLineBreak c)
      (hend : Stops (fun c => !isLineBreak c) (w ++ rest)) (hw : IsTrivia w rest) :
      IsTrivia ('#' :: (body ++ w)) rest

theorem head?_append_congr {w r r' : Text} (h : r.head? = r'.head?) :
    (w ++ r).head? = (w ++ r').head? := by
  rw [List.head?_append, List.head?_append, h]

/-- Trivia sees only the first character of what follows. -/
theorem IsTrivia.congr {w r r' : Text} (h : IsTrivia w r) (hr : r.head? = r'.head?) :
    IsTrivia w r' := by
  induction h with
  | nil => exact .nil r'
  | blank hc _ ih => exact .blank hc (ih hr)
  | comment hbody hend _ ih =>
      -- only the end of a comment looks at what follows
      refine .comment hbody ?_ (ih hr)
      intro c hc
      rw [← head?_append_congr hr] at hc
      exact hend c hc

/-- Trivia goes on as trivia. -/
theorem IsTrivia.append {w v r : Text} (hw : IsTrivia w (v ++ r)) (hv : IsTrivia v r) :
    IsTrivia (w ++ v) r := by
  generalize hs : v ++ r = s at hw
  induction hw with
  | nil => exact hv
  | blank hc _ ih => exact .blank hc (ih hs)
  | @comment body w s hbody hend _ ih =>
      rw [List.cons_append, List.append_assoc]
      refine .comment hbody ?_ (ih hs)
      rw [List.append_assoc, hs]
      exact hend

/-- The text breaks off inside a comment: it holds a number sign, and no line
break behind that. -/
def EndsInComment (t : Text) : Prop :=
  ∃ front body : Text, t = front ++ '#' :: body ∧ ∀ c ∈ body, !isLineBreak c

theorem EndsInComment.append_left {w : Text} (h : EndsInComment w) (t : Text) :
    EndsInComment (t ++ w) := by
  obtain ⟨front, body, rfl, hbody⟩ := h
  exact ⟨t ++ front, body, (List.append_assoc _ _ _).symm, hbody⟩

/-- Such a text does not end with a line break. -/
theorem EndsInComment.not_isLineBreak {t : Text} (h : EndsInComment t) :
    ∃ b ∈ t.getLast?, isLineBreak b = false := by
  obtain ⟨front, body, rfl, hbody⟩ := h
  rw [List.getLast?_append, List.getLast?_cons, Option.some_or]
  refine ⟨_, rfl, ?_⟩
  cases hlast : body.getLast? with
  | none => decide
  | some b => simpa using hbody b (List.mem_of_getLast? hlast)

/-- **Trivia bears any text behind it** that does not run into its last
comment. -/
theorem IsTrivia.followedBy {w r s : Text} (h : IsTrivia w r)
    (hopen : EndsInComment w → Stops (fun c => !isLineBreak c) s) : IsTrivia w s := by
  induction h with
  | nil => exact .nil s
  | @blank c w r hc _ ih => exact .blank hc (ih fun h => hopen (h.append_left [c]))
  | @comment body w r hbody hend _ ih =>
      refine .comment hbody ?_ (ih fun h => hopen (h.append_left ('#' :: body)))
      cases w with
      | nil => exact hopen ⟨[], body, by simp, hbody⟩
      | cons b w => simpa using hend

/-- Trivia in front of something else than trivia has no comment open, so it bears
any text. -/
theorem IsTrivia.of_stops {w r : Text} (h : IsTrivia w r) (hne : r ≠ [])
    (hr : Stops isTriviaStart r) (s : Text) : IsTrivia w s := by
  induction h with
  | nil => exact .nil s
  | blank hc _ ih => exact .blank hc (ih hne hr)
  | @comment body w r hbody hend _ ih =>
      refine .comment hbody ?_ (ih hne hr)
      cases w with
      | nil =>
          -- the comment would end at a line break, with which trivia begins
          obtain ⟨b, r, rfl⟩ := List.exists_cons_of_ne_nil hne
          have hbreak : isLineBreak b := by simpa using stops_cons.1 hend
          simp [isTriviaStart_of_isLineBreak hbreak] at hr
      | cons b w => simpa using hend

/-- With trivia before it, a text begins as it did, or with trivia. -/
theorem IsTrivia.head?_append {w r : Text} (h : IsTrivia w r) :
    ∀ c ∈ (w ++ r).head?, c ∈ r.head? ∨ isTriviaStart c := by
  cases h with
  | nil => exact fun c hc => .inl hc
  | blank hb =>
      rintro c ⟨⟩
      exact .inr (isTriviaStart_of_isBlank hb)
  | comment =>
      rintro c ⟨⟩
      exact .inr (by decide)

theorem isTrivia_of_blanks {w : Text} (h : ∀ c ∈ w, isBlank c) (rest : Text) :
    IsTrivia w rest := by
  induction w with
  | nil => exact .nil rest
  | cons c w ih =>
      exact .blank (h c List.mem_cons_self) (ih fun d hd => h d (List.mem_cons_of_mem _ hd))

/-- Trivia that ends with a line break leaves no comment open, so it stays
trivia whatever follows. -/
theorem IsTrivia.of_getLast? {w : Text} (h : IsTrivia w [])
    (hlast : ∀ b ∈ w.getLast?, isLineBreak b) (rest : Text) : IsTrivia w rest := by
  refine h.followedBy fun hopen => ?_
  obtain ⟨b, hb, hnot⟩ := hopen.not_isLineBreak
  simp [hlast b hb] at hnot

/-! ## §3. Lexemes. -/

/-- Whether the category's literal is an operator or a punctuation mark. -/
def Category.isOperator (k : Category) : Bool :=
  k.isFixed && !k.isKeyword

/-- Whether the text is a letter, and letters and digits behind it. -/
def isWord : Text → Bool
  | [] => false
  | c :: t => c.isAlpha && t.all Char.isAlphanum

/-- The spellings of each category.  No text is spelt as the end of a
source. -/
inductive IsLexeme : Category → Text → Prop where
  /-- The literal of a fixed category. -/
  | fixed {k : Category} {l : Text} (hl : k.literal? = some l) : IsLexeme k l
  /-- A word that is no keyword. -/
  | ident {l : Text} (hl : isWord l)
      (hk : ∀ k : Category, k.isKeyword → k.literal? ≠ some l) : IsLexeme .ident l
  /-- Digits. -/
  | numeral {l : Text} (hne : l ≠ []) (hl : ∀ c ∈ l, c.isDigit) : IsLexeme .numeral l
  /-- One character that has no other place. -/
  | error {c : Char} (hc : isForeign c) : IsLexeme .error [c]

/-- A lexeme cannot be longer where it stands: a word is not followed by a
letter or digit, nor a numeral by a digit, and no longer operator begins where
an operator does. -/
structure IsMaximal (k : Category) (l rest : Text) : Prop where
  /-- No word goes on. -/
  word : k = .ident ∨ k.isKeyword → Stops Char.isAlphanum rest
  /-- No numeral goes on. -/
  numeral : k = .numeral → Stops Char.isDigit rest
  /-- No longer operator stands in the place of an operator. -/
  operator : k.isOperator → ∀ (m : Category) (l' : Text), m.isOperator →
    m.literal? = some l' → l' <+: l ++ rest → l'.length ≤ l.length

/-! ## §4. How literals are spelt. -/

theorem Category.isFixed_of_literal? {k : Category} {l : Text} (h : k.literal? = some l) :
    k.isFixed := by
  simp [Category.isFixed, h]

/-- A fixed category is an operator or a keyword. -/
theorem Category.isOperator_or_isKeyword {k : Category} {l : Text}
    (h : k.literal? = some l) : k.isOperator ∨ k.isKeyword := by
  rw [Category.isOperator, Category.isFixed_of_literal? h]
  cases k.isKeyword <;> simp

theorem Category.isMark_of_isOperator {k : Category} {l : Text} (hk : k.isOperator)
    (h : k.literal? = some l) : (∀ c ∈ l, isMark c) ∧ l.length ≤ 2 := by
  have hall : Category.all.all (fun k => !k.isOperator
      || k.literal?.all (fun l => l.all isMark && l.length ≤ 2)) = true := by decide
  have := List.all_eq_true.1 hall k (mem_all k)
  simpa [hk, h] using this

theorem Category.isWord_of_isKeyword {k : Category} {l : Text} (hk : k.isKeyword)
    (h : k.literal? = some l) : isWord l := by
  have hall : Category.all.all (fun k => !k.isKeyword || k.literal?.all isWord) = true := by
    decide
  have := List.all_eq_true.1 hall k (mem_all k)
  simpa [hk, h] using this

/-- A literal begins with a mark or with a letter. -/
theorem Category.start_of_literal? {k : Category} {c : Char} {t : Text}
    (h : k.literal? = some (c :: t)) : isMark c ∨ c.isAlpha := by
  rcases Category.isOperator_or_isKeyword h with hk | hk
  · exact .inl ((k.isMark_of_isOperator hk h).1 c List.mem_cons_self)
  · have := k.isWord_of_isKeyword hk h
    simp only [isWord, Bool.and_eq_true] at this
    exact .inr this.1

/-- Each mark is an operator by itself. -/
theorem exists_operator_of_isMark {c : Char} (h : isMark c) :
    ∃ k : Category, k.isOperator ∧ k.literal? = some [c] := by
  have hall : marks.all (fun d =>
      Category.all.any (fun k => k.isOperator && k.literal? = some [d])) = true := by decide
  obtain ⟨k, -, hk⟩ := List.any_eq_true.1 (of_isMark hall h)
  exact ⟨k, by simpa using hk⟩

/-- **A character is foreign** if and only if it is no letter, digit or blank,
and neither a comment nor a literal begins with it. -/
theorem isForeign_iff {c : Char} :
    isForeign c ↔ c.isAlphanum = false ∧ isBlank c = false ∧ c ≠ '#'
      ∧ ∀ (k : Category) (t : Text), k.literal? ≠ some (c :: t) := by
  simp only [isForeign, isTriviaStart, Bool.not_eq_true', Bool.or_eq_false_iff,
    decide_eq_false_iff_not]
  constructor
  · rintro ⟨⟨hac, hblank, hhash⟩, hmark⟩
    refine ⟨hac, hblank, hhash, fun k t hl => ?_⟩
    rcases k.start_of_literal? hl with hm | hα
    · simp [hmark] at hm
    · simp [Char.isAlphanum, hα] at hac
  · rintro ⟨hac, hblank, hhash, hno⟩
    refine ⟨⟨hac, hblank, hhash⟩, Bool.eq_false_iff.2 fun hm => ?_⟩
    obtain ⟨k, -, hl⟩ := exists_operator_of_isMark hm
    exact hno k [] hl

theorem IsLexeme.ne_nil {k : Category} {l : Text} (h : IsLexeme k l) : l ≠ [] := by
  cases h with
  | fixed hl => exact fun he => k.literal?_ne_nil (he ▸ hl)
  | ident hl => exact fun he => by simp [he, isWord] at hl
  | numeral hne => exact hne
  | error => exact List.cons_ne_nil _ _

/-- No lexeme marks the end of a source. -/
theorem IsLexeme.ne_eof {k : Category} {l : Text} (h : IsLexeme k l) : k ≠ .eof := by
  rintro rfl
  cases h with
  | fixed hl => cases hl

theorem IsLexeme.literal?_of_isOperator {k : Category} {l : Text} (h : IsLexeme k l)
    (hk : k.isOperator) : k.literal? = some l := by
  cases h with
  | fixed hl => exact hl
  | _ => exact absurd hk (by decide)

theorem isAlphanum_of_isWord {l : Text} (h : isWord l) : ∀ c ∈ l, c.isAlphanum := by
  cases l with
  | nil => simp
  | cons c t =>
      simp only [isWord, Bool.and_eq_true, List.all_eq_true] at h
      intro d hd
      rcases List.mem_cons.1 hd with rfl | hd
      · simp [Char.isAlphanum, h.1]
      · exact h.2 d hd

/-- No character of a lexeme is one with which trivia begins. -/
theorem IsLexeme.not_triviaStart {k : Category} {l : Text} (h : IsLexeme k l) :
    ∀ c ∈ l, isTriviaStart c = false := by
  intro c hc
  cases h with
  | fixed hl =>
      rcases Category.isOperator_or_isKeyword hl with hk | hk
      · exact not_triviaStart_of_isMark ((k.isMark_of_isOperator hk hl).1 c hc)
      · exact not_triviaStart_of_isAlphanum
          (isAlphanum_of_isWord (k.isWord_of_isKeyword hk hl) c hc)
  | ident hl => exact not_triviaStart_of_isAlphanum (isAlphanum_of_isWord hl c hc)
  | numeral _ hl =>
      apply not_triviaStart_of_isAlphanum
      simp [Char.isAlphanum, hl c hc]
  | error hforeign =>
      rw [List.mem_singleton.1 hc]
      exact (classes_of_isForeign hforeign).2.2.1

theorem IsLexeme.stops {k : Category} {l : Text} (h : IsLexeme k l) (rest : Text) :
    Stops isTriviaStart (l ++ rest) := by
  obtain ⟨c, t, rfl⟩ := List.exists_cons_of_ne_nil h.ne_nil
  exact stops_cons.2 (h.not_triviaStart c List.mem_cons_self)

/-- What follows a lexeme is not seen in front of it. -/
theorem IsLexeme.head?_append {k : Category} {l : Text} (h : IsLexeme k l) (r r' : Text) :
    (l ++ r).head? = (l ++ r').head? := by
  obtain ⟨c, t, rfl⟩ := List.exists_cons_of_ne_nil h.ne_nil
  rfl

/-! ## §5. Maximality looks one character ahead. -/

/-- The lexeme would go on with the character, if that stood behind it. -/
def GoesOn (k : Category) (l : Text) (c : Char) : Prop :=
  ((k = .ident ∨ k.isKeyword) ∧ c.isAlphanum)
    ∨ (k = .numeral ∧ c.isDigit)
    ∨ (k.isOperator ∧ ∃ m : Category, m.isOperator ∧ m.literal? = some (l ++ [c]))

/-- An operator that is longer than another one at its place has one more
character. -/
theorem eq_append_of_longer {m : Category} {l l' rest : Text} (hne : l ≠ [])
    (hm : m.isOperator) (hl' : m.literal? = some l') (hpre : l' <+: l ++ rest)
    (hlt : l.length < l'.length) : ∃ c ∈ rest.head?, l' = l ++ [c] := by
  obtain ⟨x, rfl⟩ := List.prefix_of_prefix_length_le (List.prefix_append l rest) hpre
    (Nat.le_of_lt hlt)
  -- no operator has more than two characters, so at most one is added
  have hpos := List.length_pos_iff.2 hne
  have htwo := (m.isMark_of_isOperator hm hl').2
  rw [List.length_append] at hlt htwo
  obtain ⟨c, rfl⟩ := List.length_eq_one_iff.1 (show x.length = 1 by omega)
  obtain ⟨y, hy⟩ := (List.prefix_append_right_inj l).1 hpre
  exact ⟨c, by simp [← hy], rfl⟩

/-- **Maximality looks one character ahead.** -/
theorem isMaximal_iff {k : Category} {l rest : Text} (h : IsLexeme k l) :
    IsMaximal k l rest ↔ ∀ c ∈ rest.head?, ¬ GoesOn k l c := by
  constructor
  · rintro hmax c hc (⟨hk, hac⟩ | ⟨hk, hdc⟩ | ⟨hk, m, hm, hl⟩)
    · simp [hmax.word hk c hc] at hac
    · simp [hmax.numeral hk c hc] at hdc
    · obtain ⟨t, rfl⟩ := List.head?_eq_some_iff.1 hc
      have hle := hmax.operator hk m (l ++ [c]) hm hl ⟨t, by simp⟩
      rw [List.length_append, List.length_singleton] at hle
      omega
  · intro hstop
    refine ⟨fun hk c hc => ?_, fun hk c hc => ?_, fun hk m l' hm hl' hpre => ?_⟩
    · exact Bool.eq_false_iff.2 fun hac => hstop c hc (.inl ⟨hk, hac⟩)
    · exact Bool.eq_false_iff.2 fun hdc => hstop c hc (.inr (.inl ⟨hk, hdc⟩))
    · apply Nat.le_of_not_lt
      intro hlt
      obtain ⟨c, hc, rfl⟩ := eq_append_of_longer h.ne_nil hm hl' hpre hlt
      exact hstop c hc (.inr (.inr ⟨hk, m, hm, hl'⟩))

/-- No lexeme goes on with a character with which trivia begins. -/
theorem not_goesOn_of_isTriviaStart {k : Category} {l : Text} {c : Char}
    (hc : isTriviaStart c) : ¬ GoesOn k l c := by
  rintro (⟨-, hac⟩ | ⟨-, hdc⟩ | ⟨-, m, hm, hl⟩)
  · simp [not_triviaStart_of_isAlphanum hac] at hc
  · have hac : c.isAlphanum := by simp [Char.isAlphanum, hdc]
    simp [not_triviaStart_of_isAlphanum hac] at hc
  · have hmark := (m.isMark_of_isOperator hm hl).1 c (List.mem_append_right l List.mem_cons_self)
    simp [not_triviaStart_of_isMark hmark] at hc

/-- **A lexeme stays maximal** where what follows begins as it did, or with
trivia. -/
theorem IsMaximal.mono {k : Category} {l r r' : Text} (h : IsMaximal k l r)
    (hl : IsLexeme k l) (hr : ∀ c ∈ r'.head?, c ∈ r.head? ∨ isTriviaStart c) :
    IsMaximal k l r' := by
  rw [isMaximal_iff hl] at h ⊢
  intro c hc
  rcases hr c hc with hsame | hstart
  · exact h c hsame
  · exact not_goesOn_of_isTriviaStart hstart

/-- Maximality sees only the first character of what follows. -/
theorem IsMaximal.congr {k : Category} {l r r' : Text} (h : IsMaximal k l r)
    (hl : IsLexeme k l) (hr : r.head? = r'.head?) : IsMaximal k l r' :=
  h.mono hl fun _ hc => .inl (hr ▸ hc)

end LineLexer
