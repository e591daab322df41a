/-
  LineLexer.Proofs.Matching
  ─────────────────────────
  **THE WINNER IS A MAXIMAL LEXEME.**

  A lexeme is found in two steps that know nothing of each other: the matcher
  picks the longest hit of the first precedence, and the vocabulary classifies
  the text of that hit.  Both agree with the grammar:

      beats_of_race           — what comes out of a race beats all that match,
                                those that are not tried any more included
      isBest_of_longestMatch  — what the winner of a matcher is, whatever the
                                vocabulary behind it
      mem_entries_of_ofCategories, fixed_mem_rules
                              — the literals and the rules that come from some
                                categories
      pick_append             — a maximal lexeme is picked whole
      resolve_of_isLexeme     — and classified as what it is
      exists_lexeme_front     — some maximal lexeme stands wherever no trivia
                                does
-/
import LineLexer.Matcher
import LineLexer.Proofs.Grammar

namespace LineLexer

/-! ## §1. The longest hit of the first precedence. -/

/-- One hit is at least as good as another: it has an earlier precedence, or
the same one and no smaller length. -/
structure Hit.Beats (h g : Hit) : Prop where
  /-- The other one has no earlier precedence. -/
  precedence_le : h.rule.precedence ≤ g.rule.precedence
  /-- With the same precedence, it is no longer. -/
  length_le : g.rule.precedence = h.rule.precedence → g.length ≤ h.length

namespace Hit.Beats

theorem refl (h : Hit) : h.Beats h :=
  ⟨Nat.le_refl _, fun _ => Nat.le_refl _⟩

theorem trans {h g k : Hit} (hg : h.Beats g) (hk : g.Beats k) : h.Beats k := by
  refine ⟨Nat.le_trans hg.precedence_le hk.precedence_le, fun heq => ?_⟩
  have hhg := hg.precedence_le
  have hgk := hk.precedence_le
  have hkg := hk.length_le (by omega)
  have hgh := hg.length_le (by omega)
  omega

/-- A hit of an earlier precedence is better, however short it is. -/
theorem of_lt {h g : Hit} (hlt : h.rule.precedence < g.rule.precedence) : h.Beats g := by
  refine ⟨Nat.le_of_lt hlt, fun heq => ?_⟩
  omega

end Hit.Beats

namespace Rule

/-- The order of rules refines their precedence. -/
theorem precedence_le_of_rank_le {a b : Rule} (h : a.rank ≤ b.rank) :
    a.precedence ≤ b.precedence := by
  cases b with
  | fixed d =>
      have hd : d.rank < Category.all.length := List.idxOf_lt_length_of_mem d.mem_all
      cases a <;> simp only [rank, precedence] at h ⊢ <;> omega
  | _ => cases a <;> simp only [rank, precedence] at h ⊢ <;> omega

end Rule

namespace Matcher

/-- No hit has an earlier precedence, and none of the same precedence is
longer. -/
structure IsBest (m : Matcher) (t : Text) (h : Hit) : Prop where
  /-- It is a hit. -/
  mem : h ∈ m.hits t
  /-- No hit has an earlier precedence. -/
  precedence_le : ∀ g ∈ m.hits t, h.rule.precedence ≤ g.rule.precedence
  /-- No rival is longer. -/
  length_le : ∀ g ∈ m.hits t, g.rule.precedence = h.rule.precedence → g.length ≤ h.length

/-- No rule of an earlier precedence matches anything. -/
theorem IsBest.precedence_le_of_front {m : Matcher} {t : Text} {h : Hit} (hbest : m.IsBest t h)
    {r : Rule} (hr : r ∈ m.rules) (hne : r.front t ≠ []) :
    h.rule.precedence ≤ r.precedence := by
  have hlen : r.matchLength? t = some (Utf8.size (r.front t)) :=
    Rule.matchLength?_eq_some_iff.2 ⟨hne, rfl⟩
  exact hbest.precedence_le ⟨r, _⟩ (mem_hits.2 ⟨hr, hlen⟩)

/-- The rules of a vocabulary come in their order. -/
theorem rules_ranked (v : Vocabulary) :
    (ofVocabulary v).rules.Pairwise (fun a b => a.rank ≤ b.rank) := by
  have htrans : ∀ a b c : Rule, decide (a.rank ≤ b.rank) = true →
      decide (b.rank ≤ c.rank) = true → decide (a.rank ≤ c.rank) = true := by
    intro a b c hab hbc
    rw [decide_eq_true_eq] at hab hbc ⊢
    omega
  have htotal : ∀ a b : Rule, (decide (a.rank ≤ b.rank) || decide (b.rank ≤ a.rank)) = true := by
    intro a b
    rw [Bool.or_eq_true, decide_eq_true_eq, decide_eq_true_eq]
    omega
  have hsort := List.pairwise_mergeSort htrans htotal
  exact (hsort _).imp fun h => by simpa using h

/-- So they come by falling precedence. -/
theorem rules_sorted (v : Vocabulary) :
    (ofVocabulary v).rules.Pairwise (fun a b => a.precedence ≤ b.precedence) :=
  (rules_ranked v).imp Rule.precedence_le_of_rank_le

/-- What holds of the match of a rule, and of those of further rules, holds of all
their matches. -/
theorem forall_match_cons {P : Hit → Prop} {t : Text} {r : Rule} {rs : List Rule}
    (hr : ∀ n, r.matchLength? t = some n → P ⟨r, n⟩)
    (hrs : ∀ g : Hit, g.rule ∈ rs → g.rule.matchLength? t = some g.length → P g) :
    ∀ g : Hit, g.rule ∈ r :: rs → g.rule.matchLength? t = some g.length → P g := by
  intro g hg hlen
  rcases List.mem_cons.1 hg with heq | hg
  · obtain ⟨rule, n⟩ := g
    obtain rfl : rule = r := heq
    exact hr n hlen
  · exact hrs g hg hlen

/-- Where the rules come by falling precedence, what comes out of a race beats
the best hit before and every match of a rule: those that are not tried any
more have a later precedence than the best hit. -/
theorem beats_of_race {t : Text} {best? : Option Hit} {rs : List Rule} {h : Hit}
    (hsort : rs.Pairwise (fun a b => a.precedence ≤ b.precedence))
    (hfirst : ∀ b ∈ best?, ∀ r ∈ rs, b.rule.precedence ≤ r.precedence)
    (hrace : race t best? rs = some h) :
    (∀ b ∈ best?, h.Beats b)
      ∧ ∀ g : Hit, g.rule ∈ rs → g.rule.matchLength? t = some g.length → h.Beats g := by
  -- over the rules that are left, with any best hit so far
  fun_induction race t best? rs with
  | case1 best? =>
      refine ⟨fun b hb => ?_, fun g hg => absurd hg List.not_mem_nil⟩
      rw [← Option.mem_unique hrace hb]
      exact .refl h
  | case2 best? r rs hout =>
      subst hrace
      have hlt : h.rule.precedence < r.precedence := by simpa using hout
      -- the rules behind this one have no earlier precedence
      have hlater : ∀ x ∈ r :: rs, h.rule.precedence < x.precedence := by
        have hle := (List.pairwise_cons.1 hsort).1
        exact List.forall_mem_cons.2 ⟨hlt, fun x hx => Nat.lt_of_lt_of_le hlt (hle x hx)⟩
      exact ⟨fun b hb => Option.some.inj hb ▸ .refl h, fun g hg _ => .of_lt (hlater _ hg)⟩
  | case3 best? r rs hin hno ih =>
      obtain ⟨-, hsort⟩ := List.pairwise_cons.1 hsort
      obtain ⟨hbest, hrest⟩ := ih hsort (fun b hb r hr => hfirst b hb r (.tail _ hr)) hrace
      refine ⟨hbest, forall_match_cons (fun n hn => ?_) hrest⟩
      rw [hno] at hn
      cases hn
  | case4 best? r rs hin n hn hlonger ih =>
      -- the new hit is longer than the best one, and no earlier
      obtain ⟨hle, hsort⟩ := List.pairwise_cons.1 hsort
      obtain ⟨hnew, hrest⟩ := ih hsort (fun b hb => Option.some.inj hb ▸ hle) hrace
      have hnew : h.Beats ⟨r, n⟩ := hnew _ rfl
      refine ⟨fun b hb => hnew.trans ?_, forall_match_cons (fun k hk => ?_) hrest⟩
      · subst hb
        have hlength : b.length < n := by simpa using hlonger
        exact ⟨by simpa using hin, fun _ => Nat.le_of_lt hlength⟩
      · obtain rfl : n = k := Option.some.inj (hn.symm.trans hk)
        exact hnew
  | case5 best? r rs hin n hn hlonger ih =>
      -- the new hit is no longer than the best one
      obtain ⟨-, hsort⟩ := List.pairwise_cons.1 hsort
      obtain ⟨hbest, hrest⟩ := ih hsort (fun b hb r hr => hfirst b hb r (.tail _ hr)) hrace
      refine ⟨hbest, forall_match_cons (fun k hk => ?_) hrest⟩
      obtain rfl : n = k := Option.some.inj (hn.symm.trans hk)
      cases best? with
      | none => exact absurd rfl hlonger
      | some b =>
          have hlength : n ≤ b.length := by simpa using hlonger
          exact (hbest b rfl).trans ⟨hfirst b rfl r List.mem_cons_self, fun _ => hlength⟩

/-- **The winner is the longest hit of the first precedence that has any.** -/
theorem isBest_of_longestMatch {v : Vocabulary} {t : Text} {h : Hit}
    (hm : (ofVocabulary v).longestMatch t = some h) : (ofVocabulary v).IsBest t h := by
  obtain ⟨-, hbeats⟩ := beats_of_race (rules_sorted v) (by simp) hm
  refine ⟨mem_hits_of_longestMatch hm, fun g hg => ?_, fun g hg => ?_⟩
  · obtain ⟨hr, hlen⟩ := mem_hits.1 hg
    exact (hbeats g hr hlen).precedence_le
  · obtain ⟨hr, hlen⟩ := mem_hits.1 hg
    exact (hbeats g hr hlen).length_le

/-- A race comes to nothing only if there was no hit before and no rule
matches. -/
theorem race_eq_none_iff {t : Text} {best? : Option Hit} {rs : List Rule} :
    race t best? rs = none ↔ best? = none ∧ ∀ r ∈ rs, r.matchLength? t = none := by
  fun_induction race t best? rs with
  | case1 => simp
  | case2 best? r rs hout =>
      cases best? with
      | none => exact Bool.noConfusion hout
      | some b => simp
  | case3 best? r rs hin hno ih => simp [ih, hno]
  | case4 best? r rs hin n hn hlonger ih => simp [ih, hn]
  | case5 best? r rs hin n hn hlonger ih =>
      cases best? with
      | none => exact absurd rfl hlonger
      | some b => simp [ih]

/-- Nothing wins where nothing hits. -/
theorem longestMatch_eq_none_iff {m : Matcher} {t : Text} :
    m.longestMatch t = none ↔ m.hits t = [] := by
  rw [longestMatch, race_eq_none_iff, hits, List.filterMap_eq_nil_iff]
  simp

/-- The rules of a vocabulary: its operators, and the three open forms. -/
theorem mem_rules_ofVocabulary {v : Vocabulary} {r : Rule} :
    r ∈ (ofVocabulary v).rules
      ↔ (∃ k ∈ v.entries.map (·.2), k.isKeyword = false ∧ r = .fixed k)
        ∨ r = .word ∨ r = .numeral ∨ r = .any := by
  simp only [ofVocabulary, List.mem_mergeSort, List.mem_append, List.mem_map, List.mem_filter,
    List.mem_cons, List.not_mem_nil, or_false, Bool.not_eq_true', eq_comm (a := r), and_assoc]

section OpenForms

variable (v : Vocabulary)

theorem word_mem_rules : .word ∈ (ofVocabulary v).rules := by
  simp [mem_rules_ofVocabulary]

theorem numeral_mem_rules : .numeral ∈ (ofVocabulary v).rules := by
  simp [mem_rules_ofVocabulary]

theorem any_mem_rules : .any ∈ (ofVocabulary v).rules := by
  simp [mem_rules_ofVocabulary]

end OpenForms

end Matcher

/-! ## §2. Classification. -/

namespace Vocabulary

/-- Look-up finds exactly the bindings. -/
theorem classify_eq_some_iff {v : Vocabulary} {l : Text} {k : Category} :
    v.classify l = some k ↔ (l, k) ∈ v.entries := by
  unfold classify
  rw [List.lookup_eq_some_iff]
  constructor
  · rintro ⟨before, behind, h, -⟩
    rw [h]
    exact List.mem_append_right _ List.mem_cons_self
  · intro h
    obtain ⟨before, behind, hsplit⟩ := List.append_of_mem h
    refine ⟨before, behind, hsplit, fun e he => ?_⟩
    have hnodup := v.nodup
    rw [hsplit, List.map_append, List.nodup_append] at hnodup
    rw [bne_iff_ne]
    exact (hnodup.2.2 e.1 (List.mem_map_of_mem he) l List.mem_cons_self).symm

/-- One more category binds its literal, if it has one. -/
theorem mem_entries_of_extend {v w : Vocabulary} {c : Category} (h : v.extend c = .ok w)
    {l : Text} {k : Category} :
    (l, k) ∈ w.entries ↔ (l, k) ∈ v.entries ∨ (k = c ∧ c.literal? = some l) := by
  unfold extend at h
  split at h
  next hc =>
    cases h
    simp [hc]
  next literal hc =>
    split at h
    · cases h
    · cases h
      simp [hc, and_comm, or_comm, eq_comm]

theorem mem_entries_of_foldlM {cs : List Category} {v w : Vocabulary}
    (h : cs.foldlM extend v = .ok w) {l : Text} {k : Category} :
    (l, k) ∈ w.entries ↔ (l, k) ∈ v.entries ∨ (k ∈ cs ∧ k.literal? = some l) := by
  induction cs generalizing v with
  | nil =>
      cases h
      simp
  | cons c cs ih =>
      rw [List.foldlM_cons] at h
      cases hc : v.extend c with
      | error e =>
          rw [hc] at h
          cases h
      | ok u =>
          rw [hc] at h
          rw [ih h, mem_entries_of_extend hc, or_assoc, List.mem_cons, or_and_right]
          -- the literal that was added is that of the category itself
          have hsame : (k = c ∧ c.literal? = some l) ↔ (k = c ∧ k.literal? = some l) :=
            and_congr_right fun hk => by rw [hk]
          rw [hsame]

/-- **What is built from categories binds their literals**, and nothing else. -/
theorem mem_entries_of_ofCategories {cs : List Category} {v : Vocabulary}
    (h : ofCategories cs = .ok v) {l : Text} {k : Category} :
    (l, k) ∈ v.entries ↔ k ∈ cs ∧ k.literal? = some l := by
  rw [mem_entries_of_foldlM h]
  exact or_iff_right List.not_mem_nil

/-- The categories that a vocabulary binds, in the order of its bindings. -/
def categories (v : Vocabulary) : List Category :=
  v.entries.map (·.2)

/-- These are the fixed ones among those that it was built from. -/
theorem mem_categories_of_ofCategories {cs : List Category} {v : Vocabulary}
    (h : ofCategories cs = .ok v) {k : Category} : k ∈ v.categories ↔ k ∈ cs ∧ k.isFixed := by
  rw [categories, List.mem_map, Category.isFixed, Option.isSome_iff_exists]
  constructor
  · rintro ⟨⟨l, k⟩, he, rfl⟩
    obtain ⟨hk, hl⟩ := (mem_entries_of_ofCategories h).1 he
    exact ⟨hk, l, hl⟩
  · rintro ⟨hk, l, hl⟩
    exact ⟨(l, k), (mem_entries_of_ofCategories h).2 ⟨hk, hl⟩, rfl⟩

/-- The standard vocabulary binds every literal. -/
theorem classify_standard {l : Text} {k : Category} :
    standard.classify l = some k ↔ k.literal? = some l := by
  rw [classify_eq_some_iff, mem_entries_of_ofCategories ofCategories_fixed, Category.mem_fixed]
  exact and_iff_right_of_imp Category.isFixed_of_literal?

/-- No lexeme is classified as the end of a source. -/
theorem resolve_ne_eof (v : Vocabulary) (l : Text) : v.resolve l ≠ .eof := by
  unfold resolve
  cases h : v.classify l with
  | none =>
      show Category.ofShape l ≠ .eof
      unfold Category.ofShape
      split
      · decide
      · split
        · decide
        · split <;> decide
  | some k =>
      -- what is bound has a literal, and the end of a source has none
      rintro rfl
      cases v.bound _ (classify_eq_some_iff.1 h)

end Vocabulary

theorem not_isAlpha_of_isDigit {c : Char} (h : c.isDigit) : c.isAlpha = false := by
  simp only [Char.isDigit, Bool.and_eq_true, decide_eq_true_eq, UInt32.le_iff_toNat_le,
    ge_iff_le] at h
  unfold Char.isAlpha Char.isUpper Char.isLower
  simp only [Bool.or_eq_false_iff, Bool.and_eq_false_iff, decide_eq_false_iff_not,
    UInt32.le_iff_toNat_le, ge_iff_le]
  have h9 : '9'.val.toNat = 57 := rfl
  have hA : 'A'.val.toNat = 65 := rfl
  have ha : 'a'.val.toNat = 97 := rfl
  omega

theorem isAlphanum_of_isDigit {c : Char} (h : c.isDigit) : c.isAlphanum := by
  simp [Char.isAlphanum, h]

namespace Category

/-! What a lexeme is by its shape, and that such a lexeme is no other literal. -/

theorem ofShape_of_isWord {l : Text} (h : isWord l) : ofShape l = .ident := by
  cases l with
  | nil => simp [isWord] at h
  | cons c t => exact if_pos h

theorem ofShape_of_isDigit {l : Text} (hne : l ≠ []) (h : ∀ c ∈ l, c.isDigit) :
    ofShape l = .numeral := by
  obtain ⟨c, t, rfl⟩ := List.exists_cons_of_ne_nil hne
  have hc := h c List.mem_cons_self
  have hα := not_isAlpha_of_isDigit hc
  have ht : t.all Char.isDigit := List.all_eq_true.2 fun d hd => h d (List.mem_cons_of_mem _ hd)
  simp [ofShape, hα, hc, ht]

theorem ofShape_singleton {c : Char} (h : c.isAlphanum = false) : ofShape [c] = .error := by
  rw [Char.isAlphanum, Bool.or_eq_false_iff] at h
  simp [ofShape, h.1, h.2]

/-- A literal that is a word is a keyword. -/
theorem isKeyword_of_isWord {k : Category} {l : Text} (hl : k.literal? = some l)
    (hw : isWord l) : k.isKeyword := by
  rcases isOperator_or_isKeyword hl with hop | hkey
  · -- an operator does not begin with a letter
    obtain ⟨c, t, rfl⟩ := List.exists_cons_of_ne_nil (IsLexeme.fixed hl).ne_nil
    have hmark := (k.isMark_of_isOperator hop hl).1 c List.mem_cons_self
    have halnum := isAlphanum_of_isWord hw c List.mem_cons_self
    simp [not_alphanum_of_isMark hmark] at halnum
  · exact hkey

/-- No literal begins with a digit. -/
theorem literal?_ne_of_isDigit (k : Category) {c : Char} (hc : c.isDigit) (t : Text) :
    k.literal? ≠ some (c :: t) := by
  intro hl
  rcases k.start_of_literal? hl with hs | hs
  · have := not_alphanum_of_isMark hs
    simp [isAlphanum_of_isDigit hc] at this
  · simp [not_isAlpha_of_isDigit hc] at hs

end Category

/-- **A lexeme is classified as what it is.** -/
theorem resolve_of_isLexeme {k : Category} {l : Text} (h : IsLexeme k l) :
    Vocabulary.standard.resolve l = k := by
  unfold Vocabulary.resolve
  -- a lexeme of an open category is no literal, so its shape decides
  have hopen (hno : ∀ m : Category, m.literal? ≠ some l) :
      Vocabulary.standard.classify l = none := by
    rw [Option.eq_none_iff_forall_not_mem]
    exact fun m hm => hno m (Vocabulary.classify_standard.1 hm)
  cases h with
  | fixed hl => rw [Vocabulary.classify_standard.2 hl, Option.getD_some]
  | ident hw hk =>
      rw [hopen, Option.getD_none]
      · exact Category.ofShape_of_isWord hw
      · -- keywords are left out
        exact fun m hm => hk m (Category.isKeyword_of_isWord hm hw) hm
  | numeral hne hd =>
      rw [hopen, Option.getD_none]
      · exact Category.ofShape_of_isDigit hne hd
      · obtain ⟨c, t, rfl⟩ := List.exists_cons_of_ne_nil hne
        exact fun m => m.literal?_ne_of_isDigit (hd c List.mem_cons_self) t
  | @error c hc =>
      obtain ⟨hα, hdigit, -, hmark⟩ := classes_of_isForeign hc
      rw [hopen, Option.getD_none]
      · apply Category.ofShape_singleton
        rw [Char.isAlphanum, hα, hdigit]
        rfl
      · intro m hm
        rcases m.start_of_literal? hm with hs | hs
        · simp [hmark] at hs
        · simp [hα] at hs

/-! ## §3. A maximal lexeme is picked whole. -/

/-- The rule that finds the lexemes of a category. -/
def Category.rule (k : Category) : Rule :=
  if k.isOperator then .fixed k
  else if k = .ident ∨ k.isKeyword then .word
  else if k = .numeral then .numeral
  else .any

namespace Rule

/-- The characters with which the matches of a rule begin. -/
def startsWith : Rule → Char → Bool
  | fixed _, c => isMark c
  | word, c => c.isAlpha
  | numeral, c => c.isDigit
  | any, _ => true

end Rule

/-- The operators among some categories have rules of their own. -/
theorem fixed_mem_rules {cs : List Category} {v : Vocabulary}
    (hcs : Vocabulary.ofCategories cs = .ok v) {k : Category} :
    Rule.fixed k ∈ (Matcher.ofVocabulary v).rules ↔ k ∈ cs ∧ k.isOperator := by
  have hbound := Vocabulary.mem_categories_of_ofCategories hcs (k := k)
  rw [Matcher.mem_rules_ofVocabulary, Category.isOperator, Bool.and_eq_true, Bool.not_eq_true',
    ← and_assoc, ← hbound]
  simp only [Rule.fixed.injEq, reduceCtorEq, or_false]
  constructor
  · rintro ⟨k, hk, hkey, rfl⟩
    exact ⟨hk, hkey⟩
  · rintro ⟨hk, hkey⟩
    exact ⟨k, hk, hkey, rfl⟩

/-- The rules that tokens are matched with are those of the operators, and
the three open forms. -/
theorem fixed_mem_standard {k : Category} :
    Rule.fixed k ∈ Matcher.standard.rules ↔ k.isOperator := by
  unfold Matcher.standard
  rw [fixed_mem_rules Vocabulary.ofCategories_fixed, Category.mem_fixed]
  refine and_iff_right_of_imp fun hk => ?_
  simp only [Category.isOperator, Bool.and_eq_true] at hk
  exact hk.1

theorem rule_mem_standard (k : Category) : k.rule ∈ Matcher.standard.rules := by
  unfold Category.rule
  split
  next h => exact fixed_mem_standard.2 h
  next =>
    unfold Matcher.standard
    split
    · exact Matcher.word_mem_rules _
    · split
      · exact Matcher.numeral_mem_rules _
      · exact Matcher.any_mem_rules _

/-- The rule of a fixed category matches its literal, or nothing. -/
theorem exists_literal_of_front {k : Category} {t : Text} (h : (Rule.fixed k).front t ≠ []) :
    ∃ l, k.literal? = some l ∧ l <+: t ∧ (Rule.fixed k).front t = l := by
  simp only [Rule.front] at h ⊢
  split at h
  next l hl =>
    split at h
    next hpre => exact ⟨l, hl, List.isPrefixOf_iff_prefix.1 hpre, if_pos hpre⟩
    next => exact absurd rfl h
  next => exact absurd rfl h

/-- What a rule matches begins with one of its characters. -/
theorem startsWith_of_front {r : Rule} {c : Char} {t : Text}
    (hr : r ∈ Matcher.standard.rules) (h : r.front (c :: t) ≠ []) : r.startsWith c := by
  cases r with
  | fixed k =>
      obtain ⟨l, hl, ⟨v, hv⟩, -⟩ := exists_literal_of_front h
      obtain ⟨d, u, rfl⟩ := List.exists_cons_of_ne_nil (IsLexeme.fixed hl).ne_nil
      obtain ⟨rfl, -⟩ := List.cons.inj hv
      exact (k.isMark_of_isOperator (fixed_mem_standard.1 hr) hl).1 d List.mem_cons_self
  | word =>
      simp only [Rule.front] at h
      split at h
      next hc => exact hc
      next => exact absurd rfl h
  | numeral =>
      cases hc : c.isDigit with
      | true => exact hc
      | false => simp [Rule.front, hc] at h
  | any => rfl

/-- A word is matched as far as it goes. -/
theorem front_word_append {l rest : Text} (hl : isWord l) (hstop : Stops Char.isAlphanum rest) :
    Rule.word.front (l ++ rest) = l := by
  cases l with
  | nil => simp [isWord] at hl
  | cons c t =>
      simp only [isWord, Bool.and_eq_true, List.all_eq_true] at hl
      rw [List.cons_append, Rule.front, if_pos hl.1, takeWhile_append_of_stops hl.2 hstop]

/-- The rule of a category matches a maximal lexeme, and all of it. -/
theorem front_append {k : Category} {l rest : Text} (hl : IsLexeme k l)
    (hmax : IsMaximal k l rest) : k.rule.front (l ++ rest) = l := by
  unfold Category.rule
  cases hl with
  | fixed hlit =>
      rcases Category.isOperator_or_isKeyword hlit with hop | hkey
      · rw [if_pos hop, Rule.front, hlit]
        exact if_pos (List.isPrefixOf_iff_prefix.2 (List.prefix_append l rest))
      · rw [if_neg (by simp [Category.isOperator, hkey]), if_pos (.inr hkey)]
        exact front_word_append (k.isWord_of_isKeyword hkey hlit) (hmax.word (.inr hkey))
  | ident hw => exact front_word_append hw (hmax.word (.inl rfl))
  | numeral hne hd => exact takeWhile_append_of_stops hd (hmax.numeral rfl)
  | error => rfl

/-- Where a letter stands, the rule of words is the first that can match. -/
theorem eq_word_of_startsWith {c : Char} {r : Rule} (hc : c.isAlpha)
    (hstart : r.startsWith c) (hp : r.precedence ≤ Rule.word.precedence) : r = .word := by
  cases r with
  | fixed m =>
      have := not_alphanum_of_isMark hstart
      simp [Char.isAlphanum, hc] at this
  | word => rfl
  | _ => exact absurd hp (by decide)

/-- A rule that matches where a lexeme stands, and is no later one than the
rule of the lexeme, is that rule or the rule of another operator. -/
theorem eq_rule_of_front {k : Category} {l rest : Text} {r : Rule} (hl : IsLexeme k l)
    (hr : r ∈ Matcher.standard.rules) (hf : r.front (l ++ rest) ≠ [])
    (hp : r.precedence ≤ k.rule.precedence) :
    r = k.rule ∨ (k.isOperator ∧ ∃ m, r = .fixed m) := by
  obtain ⟨c, t, rfl⟩ := List.exists_cons_of_ne_nil hl.ne_nil
  have hstart := startsWith_of_front hr hf
  cases hl with
  | fixed hlit =>
      rcases Category.isOperator_or_isKeyword hlit with hop | hkey
      · -- only the rules of operators have the first precedence
        rw [Category.rule, if_pos hop] at hp
        cases r with
        | fixed m => exact .inr ⟨hop, m, rfl⟩
        | _ => exact absurd hp (by simp [Rule.precedence])
      · have hα := k.isWord_of_isKeyword hkey hlit
        simp only [isWord, Bool.and_eq_true] at hα
        have hrule : k.rule = .word := by
          rw [Category.rule, if_neg (by simp [Category.isOperator, hkey]), if_pos (.inr hkey)]
        rw [hrule] at hp ⊢
        exact .inl (eq_word_of_startsWith hα.1 hstart hp)
  | ident hw =>
      simp only [isWord, Bool.and_eq_true] at hw
      exact .inl (eq_word_of_startsWith hw.1 hstart hp)
  | numeral _ hd =>
      -- no operator and no word begins with a digit
      have hc := hd c List.mem_cons_self
      cases r with
      | fixed m =>
          have := not_alphanum_of_isMark hstart
          simp [isAlphanum_of_isDigit hc] at this
      | word => exact absurd hstart (by simp [Rule.startsWith, not_isAlpha_of_isDigit hc])
      | numeral => exact .inl rfl
      | any => exact absurd hp (by decide)
  | error hc =>
      obtain ⟨hα, hdigit, -, hmark⟩ := classes_of_isForeign hc
      cases r with
      | fixed m => exact absurd hstart (by simp [Rule.startsWith, hmark])
      | word => exact absurd hstart (by simp [Rule.startsWith, hα])
      | numeral => exact absurd hstart (by simp [Rule.startsWith, hdigit])
      | any => exact .inl rfl

/-- A prefix that takes as many bytes is the whole text. -/
theorem eq_of_isPrefix_of_size_le {s t : Text} (h : s <+: t) (hsize : Utf8.size t ≤ Utf8.size s) :
    s = t := by
  obtain ⟨x, rfl⟩ := h
  have hlength := Utf8.length_le_size x
  rw [Utf8.size_append] at hsize
  rw [List.length_eq_zero_iff.1 (show x.length = 0 by omega), List.append_nil]

/-- Of two prefixes of a text, one that takes no more bytes is no longer. -/
theorem length_le_of_size_le {s s' t : Text} (h : s <+: t) (h' : s' <+: t)
    (hsize : Utf8.size s' ≤ Utf8.size s) : s'.length ≤ s.length := by
  apply Nat.le_of_not_lt
  intro hlt
  have hpre := List.prefix_of_prefix_length_le h h' (Nat.le_of_lt hlt)
  rw [eq_of_isPrefix_of_size_le hpre hsize] at hlt
  exact Nat.lt_irrefl _ hlt

/-- An operator that stands where a maximal one does, and takes as many bytes,
is that one. -/
theorem eq_of_isOperator {k m : Category} {l l' rest : Text} (hl : IsLexeme k l)
    (hmax : IsMaximal k l rest) (hk : k.isOperator) (hm : m.isOperator)
    (hl' : m.literal? = some l') (hpre : l' <+: l ++ rest)
    (hsize : Utf8.size l ≤ Utf8.size l') : m = k ∧ l' = l := by
  -- the other one is a prefix of the maximal one, and nothing is missing
  have hfront := List.prefix_of_prefix_length_le hpre (List.prefix_append l rest)
    (hmax.operator hk m l' hm hl' hpre)
  obtain rfl := eq_of_isPrefix_of_size_le hfront hsize
  exact ⟨Category.literal?_injective hl' (hl.literal?_of_isOperator hk), rfl⟩

/-- **A maximal lexeme is picked whole, by the rule of its category.** -/
theorem pick_append {k : Category} {l rest : Text} (hl : IsLexeme k l)
    (hmax : IsMaximal k l rest) :
    Matcher.standard.pick (l ++ rest) = ⟨k.rule, Utf8.size l⟩ := by
  have hfront := front_append hl hmax
  have hown : ⟨k.rule, Utf8.size l⟩ ∈ Matcher.standard.hits (l ++ rest) := by
    refine Matcher.mem_hits.2 ⟨rule_mem_standard k, ?_⟩
    rw [Rule.matchLength?_eq_some_iff, hfront]
    exact ⟨hl.ne_nil, rfl⟩
  unfold Matcher.pick
  cases hm : Matcher.standard.longestMatch (l ++ rest) with
  | none =>
      rw [Matcher.longestMatch_eq_none_iff] at hm
      simp [hm] at hown
  | some h =>
      have hbest := Matcher.isBest_of_longestMatch hm
      obtain ⟨r, n⟩ := h
      obtain ⟨hr, hlen⟩ := Matcher.mem_hits.1 hbest.mem
      obtain ⟨hne, hsize⟩ := Rule.matchLength?_eq_some_iff.1 hlen
      dsimp only at hr hne hsize
      subst hsize
      rw [Option.getD_some]
      rcases eq_rule_of_front hl hr hne (hbest.precedence_le _ hown) with rfl | ⟨hop, m, rfl⟩
      · rw [hfront]
      · -- another operator is no longer, and as the best hit no shorter
        obtain ⟨l', hl', hpre, hm'⟩ := exists_literal_of_front hne
        have hk : k.rule = .fixed k := if_pos hop
        have hlonger := hbest.length_le _ hown (by rw [hk]; rfl)
        rw [hm'] at hlonger ⊢
        obtain ⟨rfl, rfl⟩ := eq_of_isOperator hl hmax hop (fixed_mem_standard.1 hr) hl' hpre
          hlonger
        rw [hk]

/-- There is one way to cut a lexeme off. -/
theorem IsLexeme.unique {k k' : Category} {l l' r r' : Text} (hl : IsLexeme k l)
    (hmax : IsMaximal k l r) (hl' : IsLexeme k' l') (hmax' : IsMaximal k' l' r')
    (h : l ++ r = l' ++ r') : k = k' ∧ l = l' ∧ r = r' := by
  have hsize : Utf8.size l = Utf8.size l' := by
    have hpick := pick_append hl hmax
    rw [h, pick_append hl' hmax'] at hpick
    exact (congrArg Hit.length hpick).symm
  obtain ⟨rfl, hrest⟩ := Utf8.append_inj_of_size h hsize
  refine ⟨?_, rfl, hrest⟩
  rw [← resolve_of_isLexeme hl, resolve_of_isLexeme hl']

/-! ## §4. Some lexeme stands wherever no trivia does. -/

theorem isMaximal_of_isOperator {k : Category} {l rest : Text} (hk : k.isOperator)
    (h : ∀ (m : Category) (l' : Text), m.isOperator → m.literal? = some l' →
      l' <+: l ++ rest → l'.length ≤ l.length) : IsMaximal k l rest := by
  refine ⟨fun hword => ?_, fun hnum => ?_, fun _ => h⟩
  · simp only [Category.isOperator, Bool.and_eq_true, Bool.not_eq_true'] at hk
    rcases hword with rfl | hkey
    · exact absurd hk.1 (by decide)
    · simp [hk.2] at hkey
  · subst hnum
    exact absurd hk (by decide)

/-- A mark is an operator, or the first half of one. -/
theorem exists_operator_front {c : Char} (hc : isMark c) (t : Text) :
    ∃ k l rest, c :: t = l ++ rest ∧ IsLexeme k l ∧ IsMaximal k l rest := by
  by_cases hlong : ∃ (m : Category) (d : Char), m.isOperator ∧ m.literal? = some [c, d]
      ∧ d ∈ t.head?
  · -- no operator has more than two characters
    obtain ⟨m, d, hm, hl, hd⟩ := hlong
    obtain ⟨u, rfl⟩ := List.head?_eq_some_iff.1 hd
    refine ⟨m, [c, d], u, rfl, .fixed hl, isMaximal_of_isOperator hm ?_⟩
    intro m' l' hm' hl' _
    exact (m'.isMark_of_isOperator hm' hl').2
  · obtain ⟨k, hk, hl⟩ := exists_operator_of_isMark hc
    refine ⟨k, [c], t, rfl, .fixed hl, isMaximal_of_isOperator hk ?_⟩
    intro m l' hm hl' hpre
    apply Nat.le_of_not_lt
    intro hlt
    obtain ⟨d, hd, rfl⟩ := eq_append_of_longer (List.cons_ne_nil c []) hm hl' hpre hlt
    exact hlong ⟨m, d, hm, hl', hd⟩

/-- **Some maximal lexeme stands wherever no trivia does.** -/
theorem exists_lexeme_front {t : Text} (hne : t ≠ []) (hstop : Stops isTriviaStart t) :
    ∃ k l rest, t = l ++ rest ∧ IsLexeme k l ∧ IsMaximal k l rest := by
  obtain ⟨c, t, rfl⟩ := List.exists_cons_of_ne_nil hne
  by_cases hmark : isMark c
  · exact exists_operator_front hmark t
  by_cases hα : c.isAlpha
  · -- the whole run of letters and digits, which may spell a keyword
    have hw : isWord (c :: t.takeWhile Char.isAlphanum) := by
      simp [isWord, hα, List.all_takeWhile]
    have hsplit : c :: t = (c :: t.takeWhile Char.isAlphanum) ++ t.dropWhile Char.isAlphanum := by
      rw [List.cons_append, List.takeWhile_append_dropWhile]
    have hend := stops_dropWhile Char.isAlphanum t
    by_cases hkey : ∃ k : Category, k.isKeyword
        ∧ k.literal? = some (c :: t.takeWhile Char.isAlphanum)
    · obtain ⟨k, hk, hl⟩ := hkey
      refine ⟨k, _, _, hsplit, .fixed hl, fun _ => hend, fun hnum => ?_, fun hop => ?_⟩
      · subst hnum
        exact absurd hk (by decide)
      · simp [Category.isOperator, hk] at hop
    · refine ⟨.ident, _, _, hsplit, .ident hw fun k hk hl => hkey ⟨k, hk, hl⟩, fun _ => hend,
        fun hnum => absurd hnum (by decide), fun hop => absurd hop (by decide)⟩
  by_cases hdigit : c.isDigit
  · refine ⟨.numeral, (c :: t).takeWhile Char.isDigit, (c :: t).dropWhile Char.isDigit,
      List.takeWhile_append_dropWhile.symm, .numeral ?_ ?_, fun hword => ?_,
      fun _ => stops_dropWhile _ _, fun hop => absurd hop (by decide)⟩
    · simp [hdigit]
    · exact fun d hd => List.all_eq_true.1 List.all_takeWhile d hd
    · exact absurd hword (by decide)
  · -- the character is of no other class
    refine ⟨.error, [c], t, rfl, .error ?_, fun hword => absurd hword (by decide),
      fun hnum => absurd hnum (by decide), fun hop => absurd hop (by decide)⟩
    have := stops_cons.1 hstop
    simp [isForeign, Char.isAlphanum, hα, hdigit, hmark, this]

end LineLexer
