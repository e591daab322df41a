/-
  LineLexer.Proofs.Strays
  ───────────────────────
  **WHAT BELONGS TO NO TOKEN IS SEEN CHARACTER BY CHARACTER.**

  A scanner matches lexemes, the longest first.  Which characters are left
  over can be told without that: outside of comments, a letter, a digit, a
  blank or a mark is never left over, and any other character always is.  One
  pass over the text, with a flag for comments, finds them all:

      strays               — the characters that are left over, with offsets
      isOpenBehind_iff     — the flag tells comments
      mem_strays_iff       — so these are the characters outside of comments
                             that are of no class
      filter_tokens_error  — a decomposition finds the same ones
      errors_are_strays    — so these have the error tokens, and their count is
                             seen from the characters alone
-/
import Mathlib.Data.List.Basic
import Mathlib.Data.List.Induction
import LineLexer.Program
import LineLexer.Proofs.Dumping

namespace LineLexer

/-! ## §1. One pass. -/

/-- Whether the character is no letter, digit, blank or mark. -/
def isStray (c : Char) : Bool :=
  !(c.isAlphanum || isBlank c || isMark c)

theorem isStray_iff {c : Char} :
    isStray c ↔ c.isAlphanum = false ∧ isBlank c = false ∧ c ∉ marks := by
  simp [isStray, isMark, and_assoc]

/-- Whether a comment is open behind the character, if it `isOpen` before it. -/
def isOpenAt (isOpen : Bool) (c : Char) : Bool :=
  c = '#' || (isOpen && !isLineBreak c)

/-- Whether a comment is open behind the text. -/
def isOpenBehind (isOpen : Bool) (t : Text) : Bool :=
  t.foldl isOpenAt isOpen

/-- The strays of a text that begins at the offset. -/
def straysFrom : Bool → Nat → Text → List (Nat × Char)
  | _, _, [] => []
  | isOpen, offset, c :: t =>
      let isOpen := isOpenAt isOpen c
      let later := straysFrom isOpen (offset + c.utf8Size) t
      if !isOpen && isStray c then (offset, c) :: later else later

theorem straysFrom_cons (isOpen : Bool) (start : Nat) (c : Char) (t : Text) :
    straysFrom isOpen start (c :: t) =
      let later := straysFrom (isOpenAt isOpen c) (start + c.utf8Size) t
      if !isOpenAt isOpen c && isStray c then (start, c) :: later else later := rfl

/-- The characters of a text that belong to no token, each behind its offset. -/
def strays (t : Text) : List (Nat × Char) :=
  straysFrom false 0 t

/-- The token of such a character. -/
def Token.ofStray (file : String) (stray : Nat × Char) : Token :=
  ⟨.error, some [stray.2], .within file stray.1 (stray.1 + stray.2.utf8Size)⟩

/-! ## §2. Which characters these are. -/

/-- A text with one more character breaks off in a comment if that begins one, or
goes on in one. -/
theorem endsInComment_concat {t : Text} {c : Char} :
    EndsInComment (t ++ [c]) ↔ c = '#' ∨ (EndsInComment t ∧ isLineBreak c = false) := by
  constructor
  · rintro ⟨front, body, h, hbody⟩
    -- what stands behind the number sign is nothing, or ends with the character
    rcases List.eq_nil_or_concat' body with rfl | ⟨body, d, rfl⟩
    · left
      exact List.singleton_inj.1 (List.append_inj' h rfl).2
    · right
      have hcut : t ++ [c] = (front ++ '#' :: body) ++ [d] := by simpa using h
      obtain ⟨rfl, hd⟩ := List.append_inj' hcut rfl
      obtain rfl : c = d := List.singleton_inj.1 hd
      refine ⟨⟨front, body, rfl, fun b hb => hbody b ?_⟩, ?_⟩
      · exact List.mem_append_left _ hb
      · simpa using hbody c (List.mem_append_right _ List.mem_cons_self)
  · rintro (rfl | ⟨⟨front, body, rfl, hbody⟩, hc⟩)
    · exact ⟨t, [], rfl, List.forall_mem_nil _⟩
    · refine ⟨front, body ++ [c], by simp, ?_⟩
      rw [List.forall_mem_append]
      exact ⟨hbody, List.forall_mem_singleton.2 (by simp [hc])⟩

/-- **The flag tells comments.** -/
theorem isOpenBehind_iff (t : Text) : isOpenBehind false t ↔ EndsInComment t := by
  -- by the character that was seen last
  induction t using List.reverseRecOn with
  | nil =>
      constructor
      · exact fun h => Bool.noConfusion h
      · rintro ⟨front, body, h, -⟩
        exact absurd h.symm (List.append_ne_nil_of_right_ne_nil _ (List.cons_ne_nil _ _))
  | append_singleton t c ih =>
      have hstep : isOpenBehind false (t ++ [c]) = isOpenAt (isOpenBehind false t) c :=
        List.foldl_concat ..
      rw [hstep, endsInComment_concat, ← ih]
      simp [isOpenAt]

theorem mem_straysFrom_cons {isOpen : Bool} {start offset : Nat} {c d : Char} {t : Text} :
    (offset, c) ∈ straysFrom isOpen start (d :: t) ↔
      (isOpenAt isOpen d = false ∧ isStray d ∧ offset = start ∧ c = d)
        ∨ (offset, c) ∈ straysFrom (isOpenAt isOpen d) (start + d.utf8Size) t := by
  rw [straysFrom_cons]
  cases isOpenAt isOpen d <;> cases isStray d <;> simp

/-- The pass finds the characters behind which no comment is open and that are
of no class. -/
theorem mem_straysFrom_iff {c : Char} (t : Text) :
    ∀ (isOpen : Bool) (start offset : Nat), (offset, c) ∈ straysFrom isOpen start t ↔
      ∃ before behind, t = before ++ c :: behind ∧ offset = start + Utf8.size before
        ∧ isStray c ∧ isOpenBehind isOpen (before ++ [c]) = false := by
  induction t with
  | nil => simp [straysFrom]
  | cons d t ih =>
      intro isOpen start offset
      have hlater := ih (isOpenAt isOpen d) (start + d.utf8Size) offset
      -- it is the first character, or one behind that
      rw [mem_straysFrom_cons, hlater]
      constructor
      · rintro (⟨hopen, hstray, rfl, rfl⟩ | ⟨before, behind, rfl, rfl, hstray, hopen⟩)
        · exact ⟨[], t, rfl, rfl, hstray, hopen⟩
        · refine ⟨d :: before, behind, rfl, ?_, hstray, hopen⟩
          rw [Utf8.size_cons]
          omega
      · rintro ⟨before, behind, h, rfl, hstray, hopen⟩
        cases before with
        | nil =>
            obtain ⟨rfl, rfl⟩ := List.cons.inj h
            exact .inl ⟨hopen, hstray, rfl, rfl⟩
        | cons b before =>
            obtain ⟨rfl, rfl⟩ := List.cons.inj h
            refine .inr ⟨before, behind, rfl, ?_, hstray, hopen⟩
            rw [Utf8.size_cons]
            omega

/-- **The strays of a text are its characters outside of comments that are no
letter, digit, blank or mark.** -/
theorem mem_strays_iff {t : Text} {offset : Nat} {c : Char} :
    (offset, c) ∈ strays t ↔
      ∃ before behind, t = before ++ c :: behind ∧ offset = Utf8.size before
        ∧ isStray c ∧ ¬ EndsInComment (before ++ [c]) := by
  unfold strays
  rw [mem_straysFrom_iff]
  simp only [Nat.zero_add, ← isOpenBehind_iff, Bool.not_eq_true]

example : strays ['@', ' ', '#', '@', '\n', 'é', '!'] = [(0, '@'), (5, 'é'), (7, '!')] := by
  decide

/-- They are found in the order in which they stand. -/
theorem pairwise_straysFrom (t : Text) :
    ∀ (isOpen : Bool) (start : Nat), (straysFrom isOpen start t).Pairwise (·.1 < ·.1) := by
  induction t with
  | nil => exact fun _ _ => .nil
  | cons d t ih =>
      intro isOpen start
      have hlater := ih (isOpenAt isOpen d) (start + d.utf8Size)
      rw [straysFrom_cons]
      split
      · refine hlater.cons fun stray hstray => ?_
        obtain ⟨before, -, -, hoffset, -⟩ := (mem_straysFrom_iff t _ _ _).1 hstray
        have hpos := d.utf8Size_pos
        show start < stray.1
        omega
      · exact hlater

/-! ## §3. The pass goes along a decomposition. -/

/-- Characters of the classes are passed over. -/
theorem straysFrom_of_not_isStray {w : Text} (hw : ∀ c ∈ w, isStray c = false) (rest : Text) :
    ∀ start, straysFrom false start (w ++ rest) = straysFrom false (start + Utf8.size w) rest := by
  induction w with
  | nil => exact fun _ => rfl
  | cons c w ih =>
      intro start
      obtain ⟨hc, hw⟩ := List.forall_mem_cons.1 hw
      -- a number sign is of no class
      have hopen : isOpenAt false c = false := by
        rw [isOpenAt, Bool.false_and, Bool.or_false, decide_eq_false_iff_not]
        rintro rfl
        exact absurd hc (by decide)
      rw [List.cons_append, straysFrom, hopen, hc, ih hw, Utf8.size_cons, Nat.add_assoc]
      rfl

/-- So is the inside of a comment. -/
theorem straysFrom_of_body {body : Text} (hbody : ∀ c ∈ body, !isLineBreak c) (rest : Text) :
    ∀ start, straysFrom true start (body ++ rest)
      = straysFrom true (start + Utf8.size body) rest := by
  induction body with
  | nil => exact fun _ => rfl
  | cons c body ih =>
      intro start
      obtain ⟨hc, hbody⟩ := List.forall_mem_cons.1 hbody
      have hopen : isOpenAt true c = true := by
        rw [isOpenAt, hc, Bool.and_self, Bool.or_true]
      rw [List.cons_append, straysFrom, hopen, ih hbody, Utf8.size_cons, Nat.add_assoc]
      rfl

/-- Where a comment ends, it does not matter that it was open. -/
theorem straysFrom_of_stops {t : Text} (h : Stops (fun c => !isLineBreak c) t) (start : Nat) :
    straysFrom true start t = straysFrom false start t := by
  cases t with
  | nil => rfl
  | cons c t =>
      have hbreak : (!isLineBreak c) = false := stops_cons.1 h
      unfold straysFrom isOpenAt
      rw [hbreak, Bool.and_false, Bool.and_false]

theorem not_isStray_of_isBlank {c : Char} (h : isBlank c) : isStray c = false := by
  simp [isStray, h]

/-- **There are no strays in trivia.** -/
theorem straysFrom_of_isTrivia {w rest : Text} (h : IsTrivia w rest) :
    ∀ start, straysFrom false start (w ++ rest) = straysFrom false (start + Utf8.size w) rest := by
  induction h with
  | nil => exact fun _ => rfl
  | @blank c w rest hc _ ih =>
      intro start
      have hblank := straysFrom_of_not_isStray
        (List.forall_mem_singleton.2 (not_isStray_of_isBlank hc)) (w ++ rest) start
      rw [List.cons_append, Utf8.size_cons, ← Nat.add_assoc, ← ih]
      exact hblank
  | @comment body w rest hbody hend _ ih =>
      intro start
      -- the number sign opens the comment, and what follows its body closes it
      have hsign : straysFrom false start ('#' :: (body ++ (w ++ rest)))
          = straysFrom true (start + ('#' : Char).utf8Size) (body ++ (w ++ rest)) := rfl
      rw [List.cons_append, List.append_assoc, hsign, straysFrom_of_body hbody,
        straysFrom_of_stops hend, ih]
      simp only [Utf8.size_cons, Utf8.size_append, Nat.add_assoc]

/-- **A lexeme that is no error holds no stray.** -/
theorem IsLexeme.not_isStray {k : Category} {l : Text} (h : IsLexeme k l) (hk : k ≠ .error) :
    ∀ c ∈ l, isStray c = false := by
  -- the characters of words and numerals are letters and digits
  have halphanum {l : Text} (hl : ∀ c ∈ l, c.isAlphanum) : ∀ c ∈ l, isStray c = false := by
    intro c hc
    simp [isStray, hl c hc]
  cases h with
  | fixed hlit =>
      rcases Category.isOperator_or_isKeyword hlit with hop | hword
      · intro c hc
        simp [isStray, (Category.isMark_of_isOperator hop hlit).1 c hc]
      · exact halphanum (isAlphanum_of_isWord (Category.isWord_of_isKeyword hword hlit))
  | ident hl => exact halphanum (isAlphanum_of_isWord hl)
  | numeral _ hl =>
      refine halphanum fun c hc => ?_
      simp [Char.isAlphanum, hl c hc]
  | error => exact absurd rfl hk

/-- An error is a stray. -/
theorem straysFrom_of_isForeign {c : Char} (h : isForeign c) (start : Nat) (rest : Text) :
    straysFrom false start (c :: rest)
      = (start, c) :: straysFrom false (start + c.utf8Size) rest := by
  simp only [isForeign, isTriviaStart, Bool.not_eq_true', Bool.or_eq_false_iff,
    decide_eq_false_iff_not] at h
  obtain ⟨⟨hac, hblank, hsign⟩, hmark⟩ := h
  have hopen : isOpenAt false c = false := by simp [isOpenAt, hsign]
  have hstray : isStray c = true := by simp [isStray, hac, hblank, hmark]
  rw [straysFrom, hopen, hstray]
  rfl

open Decomposition in
/-- **The errors of a decomposition are the strays of its text.** -/
theorem filter_tokens_error {d : Decomposition} (hd : d.IsProper []) (file : String) :
    ∀ offset, (d.tokens file offset).filter (fun t => t.category = .error)
      = (straysFrom false offset d.text).map (Token.ofStray file) := by
  induction d with
  | trivia w =>
      intro offset
      have hw := straysFrom_of_isTrivia hd offset
      rw [List.append_nil] at hw
      show [] = (straysFrom false offset w).map _
      rw [hw]
      rfl
  | lexeme g k l d ih =>
      intro offset
      obtain ⟨hg, hl, -, hd⟩ := hd
      rw [List.append_nil] at hg
      show (_ :: d.tokens file _).filter _ = (straysFrom false offset (g ++ (l ++ d.text))).map _
      rw [straysFrom_of_isTrivia hg, List.filter_cons, ih hd]
      by_cases hk : k = .error
      · subst hk
        cases hl with
        | fixed hlit => cases hlit
        | error hc =>
            rw [List.singleton_append, straysFrom_of_isForeign hc]
            rfl
      · rw [straysFrom_of_not_isStray (hl.not_isStray hk), if_neg (by simpa using hk)]

/-! ## §4. Texts. -/

/-- Dumping a source ends well, but for errors that are denied. -/
theorem Program.status_dumpSource {feed : Feed} {file? : Option String} {errors : Nat}
    (h : ((Scanner.ofFeed feed file?).dump none).ending = .complete errors) (denyErrors : Bool)
    (elapsed : String) :
    (dumpSource denyErrors elapsed feed file?).status
      = if rejects denyErrors errors then 1 else 0 := by
  unfold dumpSource
  simp only [h]
  split <;> rfl

/-- **A text of letters, digits, blanks, marks and comments has no strays**,
however these are put together. -/
theorem strays_eq_nil {t : Text}
    (h : ∀ c ∈ t, c.isAlphanum ∨ isBlank c ∨ c ∈ marks ∨ c = '#') : strays t = [] := by
  rw [List.eq_nil_iff_forall_not_mem]
  rintro ⟨offset, c⟩ hstray
  obtain ⟨before, behind, rfl, -, hc, hclosed⟩ := mem_strays_iff.1 hstray
  obtain ⟨hac, hblank, hmark⟩ := isStray_iff.1 hc
  rcases h c (List.mem_append_right before List.mem_cons_self) with h | h | h | h
  · rw [hac] at h
    cases h
  · rw [hblank] at h
    cases h
  · exact hmark h
  · -- a number sign is in the comment that it begins
    exact hclosed (endsInComment_concat.2 (.inl h))

/-- The error tokens of a text are those of its strays. -/
theorem filter_error_of_tokenize {source : Text} {file? : Option String} {ts : List Token}
    (hts : tokenize source file? = .ok ts) :
    ts.filter (fun t => t.category = .error)
      = (strays source).map (Token.ofStray (file?.getD Scanner.defaultFile)) := by
  obtain ⟨d, rfl, hd, rfl⟩ := exists_proper_of_tokenize hts
  -- the end of the text is no error
  rw [List.filter_append, filter_tokens_error hd]
  exact List.append_nil _

/-- **The errors of a text are its strays**, in their places.  Strays are the
characters outside of comments that are no letter, digit, blank or mark, from
first to last.  So what a dump counts, and what decides whether a source is
rejected, is seen from the characters alone; and letters, digits, blanks, marks
and comments give no errors, however they are put together. -/
theorem errors_are_strays (source : Text) (file? : Option String) :
    ∃ ts : List Token,
      tokenize source file? = .ok ts
        ∧ ts.filter (fun t => t.category = .error)
            = (strays source).map (Token.ofStray (file?.getD Scanner.defaultFile))
        ∧ (∀ (offset : Nat) (c : Char), (offset, c) ∈ strays source ↔
            ∃ before behind, source = before ++ c :: behind ∧ offset = Utf8.size before
              ∧ (c.isAlphanum = false ∧ isBlank c = false ∧ c ∉ marks)
              ∧ ¬ EndsInComment (before ++ [c]))
        ∧ (strays source).Pairwise (·.1 < ·.1)
        ∧ ((Scanner.ofText source file?).dump none).ending = .complete (strays source).length
        ∧ (∀ (denyErrors : Bool) (elapsed : String),
            (Program.dumpSource denyErrors elapsed (.ofText source) file?).status
              = if denyErrors && strays source ≠ [] then 1 else 0)
        ∧ ((∀ c ∈ source, c.isAlphanum ∨ isBlank c ∨ c ∈ marks ∨ c = '#') →
            ∀ t ∈ ts, t.category ≠ .error) := by
  obtain ⟨ts, hts⟩ := exists_tokenize source file?
  have herrors := filter_error_of_tokenize hts
  have hending : ((Scanner.ofText source file?).dump none).ending
      = .complete (strays source).length := by
    rw [Scanner.dump_ofText hts]
    show DumpEnd.complete _ = _
    rw [Token.countErrors, List.countP_eq_length_filter, herrors, List.length_map]
  refine ⟨ts, hts, herrors, ?_, pairwise_straysFrom source false 0, hending, ?_, ?_⟩
  · intro offset c
    rw [mem_strays_iff, isStray_iff]
  · intro denyErrors elapsed
    rw [Program.status_dumpSource hending]
    simp [rejects, List.length_pos_iff]
  · intro hall t ht hcategory
    rw [strays_eq_nil hall, List.map_nil, List.filter_eq_nil_iff] at herrors
    exact herrors t ht (decide_eq_true hcategory)

end LineLexer
