/-
  LineLexer.Proofs.Policy
  ───────────────────────
  **WHICH HIT WINS, FOR EVERY VOCABULARY.**

  A matcher keeps the best hit so far, and breaks off at the first rule of a
  later precedence.  What comes out can be said without any rule being tried:
  the longest literal that stands at the front of the text, or else the whole
  run of letters and digits, or of digits, or else the first character.

      StandsFirst           — a literal of some categories is at the front
      Wins                  — the policy, with one case for each form of rule
      Wins.unique           — one hit wins at most
      Matcher.IsBest.wins   — the best hit wins
      longestMatch_policy   — so it is the one that the policy names

  This holds of any categories, and not only of all the fixed ones: of two
  operators one of which begins the other, either may be missing.
-/
import LineLexer.Proofs.Matching

namespace LineLexer

/-! ## §1. The policy. -/

/-- The literal of one of the categories, which is no keyword, stands at the
front of the text. -/
structure StandsFirst (cs : List Category) (t : Text) (k : Category) (l : Text) : Prop where
  /-- The category is one of them. -/
  mem : k ∈ cs
  /-- It is no keyword. -/
  not_isKeyword : k.isKeyword = false
  /-- The literal is its own. -/
  literal : k.literal? = some l
  /-- The text begins with it. -/
  front : l <+: t

theorem StandsFirst.isOperator {cs : List Category} {t : Text} {k : Category} {l : Text}
    (h : StandsFirst cs t k l) : k.isOperator := by
  rw [Category.isOperator, Category.isFixed_of_literal? h.literal, h.not_isKeyword]
  rfl

/-- No operator begins with a letter. -/
theorem not_standsFirst_of_isAlpha {cs : List Category} {c : Char} {t : Text} (hc : c.isAlpha) :
    ∀ k l, ¬ StandsFirst cs (c :: t) k l := by
  intro k l h
  obtain ⟨d, l, rfl⟩ := List.exists_cons_of_ne_nil (IsLexeme.fixed h.literal).ne_nil
  obtain ⟨rfl, -⟩ := List.cons_prefix_cons.1 h.front
  have hmark := (k.isMark_of_isOperator h.isOperator h.literal).1 _ List.mem_cons_self
  have halnum := not_alphanum_of_isMark hmark
  simp [Char.isAlphanum, hc] at halnum

/-- The hit that is to win at the front of a text. -/
inductive Wins (cs : List Category) (t : Text) : Hit → Prop where
  /-- The longest of the literals that stand at the front. -/
  | literal {k : Category} {l : Text} (hl : StandsFirst cs t k l)
      (hmax : ∀ (m : Category) (l' : Text), StandsFirst cs t m l' → l'.length ≤ l.length) :
      Wins cs t ⟨.fixed k, Utf8.size l⟩
  /-- Where there is none, a letter with the letters and digits behind it. -/
  | word {w rest : Text} (hno : ∀ k l, ¬ StandsFirst cs t k l) (ht : t = w ++ rest)
      (hw : isWord w) (hend : Stops Char.isAlphanum rest) : Wins cs t ⟨.word, Utf8.size w⟩
  /-- Or a run of digits. -/
  | numeral {w rest : Text} (hno : ∀ k l, ¬ StandsFirst cs t k l) (ht : t = w ++ rest)
      (hne : w ≠ []) (hw : ∀ c ∈ w, c.isDigit) (hend : Stops Char.isDigit rest) :
      Wins cs t ⟨.numeral, Utf8.size w⟩
  /-- Or any other character. -/
  | any {c : Char} {rest : Text} (hno : ∀ k l, ¬ StandsFirst cs t k l) (ht : t = c :: rest)
      (hc : c.isAlphanum = false) : Wins cs t ⟨.any, c.utf8Size⟩

/-! ## §2. What each rule matches by itself. -/

namespace Rule

variable {t : Text} {n : Nat}

theorem matchLength?_fixed_iff {k : Category} :
    (fixed k).matchLength? t = some n
      ↔ ∃ l, k.literal? = some l ∧ l <+: t ∧ Utf8.size l = n := by
  rw [matchLength?_eq_some_iff]
  constructor
  · rintro ⟨hne, hsize⟩
    obtain ⟨l, hl, hpre, hfront⟩ := exists_literal_of_front hne
    exact ⟨l, hl, hpre, hfront ▸ hsize⟩
  · rintro ⟨l, hl, hpre, hsize⟩
    have hfront : (fixed k).front t = l := by
      rw [front, hl]
      exact if_pos (List.isPrefixOf_iff_prefix.2 hpre)
    rw [hfront]
    exact ⟨(IsLexeme.fixed hl).ne_nil, hsize⟩

theorem matchLength?_word_iff :
    word.matchLength? t = some n
      ↔ ∃ w rest, t = w ++ rest ∧ isWord w ∧ Stops Char.isAlphanum rest ∧ Utf8.size w = n := by
  rw [matchLength?_eq_some_iff]
  constructor
  · rintro ⟨hne, hsize⟩
    cases t with
    | nil => exact absurd rfl hne
    | cons c t =>
        have hc : c.isAlpha := startsWith_of_front (rule_mem_standard .ident) hne
        have hfront : word.front (c :: t) = c :: t.takeWhile Char.isAlphanum := if_pos hc
        rw [hfront] at hsize
        refine ⟨_, t.dropWhile Char.isAlphanum, ?_, ?_, stops_dropWhile _ t, hsize⟩
        · rw [List.cons_append, List.takeWhile_append_dropWhile]
        · simp [isWord, hc, List.all_takeWhile]
  · rintro ⟨w, rest, rfl, hw, hend, hsize⟩
    rw [front_word_append hw hend]
    refine ⟨?_, hsize⟩
    rintro rfl
    exact Bool.noConfusion hw

theorem matchLength?_numeral_iff :
    numeral.matchLength? t = some n
      ↔ ∃ w rest, t = w ++ rest ∧ w ≠ [] ∧ (∀ c ∈ w, c.isDigit) ∧ Stops Char.isDigit rest
        ∧ Utf8.size w = n := by
  rw [matchLength?_eq_some_iff]
  constructor
  · rintro ⟨hne, hsize⟩
    refine ⟨_, t.dropWhile Char.isDigit, List.takeWhile_append_dropWhile.symm, hne, ?_,
      stops_dropWhile _ t, hsize⟩
    exact fun c hc => List.all_eq_true.1 List.all_takeWhile c hc
  · rintro ⟨w, rest, rfl, hne, hw, hend, hsize⟩
    have hfront : numeral.front (w ++ rest) = w := takeWhile_append_of_stops hw hend
    rw [hfront]
    exact ⟨hne, hsize⟩

theorem matchLength?_any_iff :
    any.matchLength? t = some n ↔ ∃ c rest, t = c :: rest ∧ c.utf8Size = n := by
  cases t with
  | nil => simp [matchLength?, front]
  | cons c t => simp [matchLength?, front]

/-- Nothing matches where there is nothing. -/
theorem matchLength?_nil (r : Rule) : r.matchLength? [] = none := by
  rw [Option.eq_none_iff_forall_not_mem]
  intro n hn
  exact (matchLength?_eq_some_iff.1 hn).1 (List.prefix_nil.1 (r.front_isPrefix []))

/-- The form that a text has by its first character, if no literal stands
there. -/
def ofFirst (c : Char) : Rule :=
  if c.isAlpha then word else if c.isDigit then numeral else any

theorem ofFirst_mem_rules (c : Char) (v : Vocabulary) :
    ofFirst c ∈ (Matcher.ofVocabulary v).rules := by
  unfold ofFirst
  split
  · exact Matcher.word_mem_rules v
  · split
    · exact Matcher.numeral_mem_rules v
    · exact Matcher.any_mem_rules v

/-- This rule matches. -/
theorem front_ofFirst_ne_nil (c : Char) (t : Text) : (ofFirst c).front (c :: t) ≠ [] := by
  unfold ofFirst
  split
  next hα => simp [front, hα]
  next =>
    split
    next hdigit => simp [front, hdigit]
    next => simp [front]

/-- It is the last one only where there is no letter and no digit. -/
theorem not_isAlphanum_of_ofFirst {c : Char} (h : any.precedence ≤ (ofFirst c).precedence) :
    c.isAlphanum = false := by
  unfold ofFirst at h
  split at h
  · exact absurd h (by decide)
  · split at h
    · exact absurd h (by decide)
    · simp_all [Char.isAlphanum]

end Rule

/-! ## §3. One hit wins at most. -/

namespace Wins

variable {cs : List Category} {t : Text}

/-- What wins is what its rule matches by itself. -/
theorem matchLength? {hit : Hit} (h : Wins cs t hit) :
    hit.rule.matchLength? t = some hit.length := by
  cases h with
  | literal hl _ => exact Rule.matchLength?_fixed_iff.2 ⟨_, hl.literal, hl.front, rfl⟩
  | word _ ht hw hend => exact Rule.matchLength?_word_iff.2 ⟨_, _, ht, hw, hend, rfl⟩
  | numeral _ ht hne hw hend =>
      exact Rule.matchLength?_numeral_iff.2 ⟨_, _, ht, hne, hw, hend, rfl⟩
  | any _ ht _ => exact Rule.matchLength?_any_iff.2 ⟨_, _, ht, rfl⟩

/-- Where no literal stands, the first character tells which rule wins. -/
theorem rule_eq_ofFirst {hit : Hit} (h : Wins cs t hit) (hno : ∀ k l, ¬ StandsFirst cs t k l) :
    ∃ c ∈ t.head?, hit.rule = Rule.ofFirst c := by
  cases h with
  | literal hl => exact absurd hl (hno _ _)
  | @word w rest _ ht hw =>
      cases w with
      | nil => exact Bool.noConfusion hw
      | cons c w =>
          have hc : c.isAlpha := (Bool.and_eq_true_iff.1 hw).1
          exact ⟨c, ht ▸ rfl, (if_pos hc).symm⟩
  | @numeral w rest _ ht hne hw =>
      obtain ⟨c, w, rfl⟩ := List.exists_cons_of_ne_nil hne
      have hc := hw c List.mem_cons_self
      refine ⟨c, ht ▸ rfl, ?_⟩
      rw [Rule.ofFirst, not_isAlpha_of_isDigit hc, hc]
      rfl
  | @any c rest _ ht hc =>
      rw [Char.isAlphanum, Bool.or_eq_false_iff] at hc
      refine ⟨c, ht ▸ rfl, ?_⟩
      rw [Rule.ofFirst, hc.1, hc.2]
      rfl

/-- Where some literal stands, one of them wins. -/
theorem exists_literal {hit : Hit} (h : Wins cs t hit) {m : Category} {l' : Text}
    (hm : StandsFirst cs t m l') :
    ∃ k l, hit.rule = .fixed k ∧ StandsFirst cs t k l
      ∧ ∀ (m : Category) (l' : Text), StandsFirst cs t m l' → l'.length ≤ l.length := by
  cases h with
  | literal hl hmax => exact ⟨_, _, rfl, hl, hmax⟩
  | word hno => exact absurd hm (hno m l')
  | numeral hno => exact absurd hm (hno m l')
  | any hno => exact absurd hm (hno m l')

/-- **One hit wins at most.** -/
theorem unique {a b : Hit} (ha : Wins cs t a) (hb : Wins cs t b) : a = b := by
  -- the length is settled by the rule
  have hrule : a.rule = b.rule := by
    by_cases hlit : ∃ k l, StandsFirst cs t k l
    · obtain ⟨k, l, hkl⟩ := hlit
      obtain ⟨k, l, ha, hl, hmax⟩ := ha.exists_literal hkl
      obtain ⟨k', l', hb, hl', hmax'⟩ := hb.exists_literal hkl
      -- two literals at the front that are equally long are one
      have hlen : l.length = l'.length :=
        Nat.le_antisymm (hmax' k l hl) (hmax k' l' hl')
      have hsame : l = l' :=
        (List.prefix_of_prefix_length_le hl.front hl'.front (Nat.le_of_eq hlen)).eq_of_length hlen
      have hliteral := hl.literal
      rw [hsame] at hliteral
      rw [ha, hb, Category.literal?_injective hliteral hl'.literal]
    · have hno : ∀ k l, ¬ StandsFirst cs t k l := fun k l h => hlit ⟨k, l, h⟩
      obtain ⟨c, hc, hrule⟩ := ha.rule_eq_ofFirst hno
      obtain ⟨d, hd, hrule'⟩ := hb.rule_eq_ofFirst hno
      rw [hrule, hrule', Option.mem_unique hc hd]
  have hlength := ha.matchLength?
  rw [hrule, hb.matchLength?] at hlength
  obtain ⟨r, n⟩ := a
  obtain ⟨r', n'⟩ := b
  obtain rfl : r = r' := hrule
  obtain rfl : n' = n := Option.some.inj hlength
  rfl

end Wins

/-! ## §4. The best hit wins. -/

/-- Nothing wins only where there is nothing. -/
theorem longestMatch_eq_none_iff_nil (v : Vocabulary) {t : Text} :
    (Matcher.ofVocabulary v).longestMatch t = none ↔ t = [] := by
  rw [Matcher.longestMatch_eq_none_iff, List.eq_nil_iff_forall_not_mem]
  constructor
  · intro h
    cases t with
    | nil => rfl
    | cons c t =>
        -- the first character is a hit
        have hany : (⟨.any, c.utf8Size⟩ : Hit) ∈ (Matcher.ofVocabulary v).hits (c :: t) := by
          apply Matcher.mem_hits.2
          exact ⟨Matcher.any_mem_rules v, Rule.matchLength?_any_iff.2 ⟨c, t, rfl, rfl⟩⟩
        exact absurd hany (h _)
  · rintro rfl hit h
    have hlen := (Matcher.mem_hits.1 h).2
    rw [Rule.matchLength?_nil] at hlen
    cases hlen

section Building

variable {cs : List Category} {v : Vocabulary} (hcs : Vocabulary.ofCategories cs = .ok v)
  {t : Text}
include hcs

/-- A literal at the front is a hit. -/
theorem StandsFirst.mem_hits {k : Category} {l : Text} (h : StandsFirst cs t k l) :
    ⟨.fixed k, Utf8.size l⟩ ∈ (Matcher.ofVocabulary v).hits t := by
  apply Matcher.mem_hits.2
  constructor
  · exact (fixed_mem_rules hcs).2 ⟨h.mem, h.isOperator⟩
  · exact Rule.matchLength?_fixed_iff.2 ⟨l, h.literal, h.front, rfl⟩

/-- **The best hit wins.** -/
theorem Matcher.IsBest.wins {hit : Hit} (h : (Matcher.ofVocabulary v).IsBest t hit) :
    Wins cs t hit := by
  obtain ⟨r, n⟩ := hit
  obtain ⟨hr, hlen⟩ := Matcher.mem_hits.1 h.mem
  have hfirst (hlater : 0 < r.precedence) : ∀ k l, ¬ StandsFirst cs t k l := by
    -- a literal would have an earlier precedence
    intro k l hkl
    exact absurd (h.precedence_le _ (hkl.mem_hits hcs)) (Nat.not_le_of_lt hlater)
  cases r with
  | fixed k =>
      obtain ⟨l, hl, hpre, rfl⟩ := Rule.matchLength?_fixed_iff.1 hlen
      obtain ⟨hk, hoperator⟩ := (fixed_mem_rules hcs).1 hr
      rw [Category.isOperator, Bool.and_eq_true, Bool.not_eq_true'] at hoperator
      refine .literal ⟨hk, hoperator.2, hl, hpre⟩ fun m l' hm => ?_
      have hle : Utf8.size l' ≤ Utf8.size l := h.length_le _ (hm.mem_hits hcs) rfl
      exact length_le_of_size_le hpre hm.front hle
  | word =>
      obtain ⟨w, rest, ht, hw, hend, rfl⟩ := Rule.matchLength?_word_iff.1 hlen
      exact .word (hfirst Nat.zero_lt_one) ht hw hend
  | numeral =>
      obtain ⟨w, rest, ht, hne, hw, hend, rfl⟩ := Rule.matchLength?_numeral_iff.1 hlen
      exact .numeral (hfirst Nat.zero_lt_two) ht hne hw hend
  | any =>
      obtain ⟨c, rest, ht, rfl⟩ := Rule.matchLength?_any_iff.1 hlen
      refine .any (hfirst (Nat.zero_lt_succ 2)) ht (Rule.not_isAlphanum_of_ofFirst ?_)
      -- the rule of the first character matches, so it is no earlier one
      subst ht
      exact h.precedence_le_of_front (Rule.ofFirst_mem_rules c v) (Rule.front_ofFirst_ne_nil c rest)

/-- The policy names the hit that wins. -/
theorem longestMatch_eq_some_iff {hit : Hit} :
    (Matcher.ofVocabulary v).longestMatch t = some hit ↔ Wins cs t hit := by
  constructor
  · exact fun h => (Matcher.isBest_of_longestMatch h).wins hcs
  · intro h
    cases hm : (Matcher.ofVocabulary v).longestMatch t with
    | none =>
        -- a hit takes some of the text
        have hlen := h.matchLength?
        rw [(longestMatch_eq_none_iff_nil v).1 hm, Rule.matchLength?_nil] at hlen
        cases hlen
    | some best => rw [((Matcher.isBest_of_longestMatch hm).wins hcs).unique h]

end Building

/-- **The hit that wins is the one that the policy names**, whatever categories
the vocabulary was built from.  Nothing wins only where there is no text.  What
wins is a rule that matches as much by itself, and no rule of its precedence
matches more. -/
theorem longestMatch_policy {cs : List Category} {v : Vocabulary}
    (hcs : Vocabulary.ofCategories cs = .ok v) (t : Text) :
    let m := Matcher.ofVocabulary v
    (m.longestMatch t = none ↔ t = [])
      ∧ (∀ hit : Hit, m.longestMatch t = some hit ↔ Wins cs t hit)
      ∧ ∀ hit : Hit, m.longestMatch t = some hit →
          hit.rule ∈ m.rules ∧ hit.rule.matchLength? t = some hit.length
            ∧ ∀ r ∈ m.rules, r.precedence = hit.rule.precedence →
                ∀ n : Nat, r.matchLength? t = some n → n ≤ hit.length := by
  intro m
  refine ⟨longestMatch_eq_none_iff_nil v, fun hit => longestMatch_eq_some_iff hcs, ?_⟩
  intro hit h
  have hbest := Matcher.isBest_of_longestMatch h
  obtain ⟨hr, hlen⟩ := Matcher.mem_hits.1 hbest.mem
  refine ⟨hr, hlen, fun r hr' hprecedence n hn => ?_⟩
  exact hbest.length_le ⟨r, n⟩ (Matcher.mem_hits.2 ⟨hr', hn⟩) hprecedence

/-- An arrow is longer than the assignment with which it begins; and a keyword
that is a category of the vocabulary is matched as a word. -/
theorem longestMatch_of_assign_if_maps :
    ∃ v, Vocabulary.ofCategories [.assign, .ifWord, .maps] = .ok v
      ∧ (Matcher.ofVocabulary v).longestMatch ['=', '>', '='] = some ⟨.fixed .maps, 2⟩
      ∧ (Matcher.ofVocabulary v).longestMatch ['i', 'f', '='] = some ⟨.word, 2⟩ := by
  obtain ⟨v, hcs⟩ : ∃ v, Vocabulary.ofCategories [.assign, .ifWord, .maps] = .ok v := ⟨_, rfl⟩
  refine ⟨v, hcs, ?_, ?_⟩
  · apply ((longestMatch_policy hcs ['=', '>', '=']).2.1 _).2
    have harrow : StandsFirst [.assign, .ifWord, .maps] ['=', '>', '='] .maps ['=', '>'] :=
      ⟨by decide, rfl, rfl, by decide⟩
    -- no operator has more than two characters
    exact .literal harrow fun m l' hm => (m.isMark_of_isOperator hm.isOperator hm.literal).2
  · apply ((longestMatch_policy hcs ['i', 'f', '=']).2.1 _).2
    have hcut : ['i', 'f', '='] = ['i', 'f'] ++ ['='] := rfl
    exact .word (not_standsFirst_of_isAlpha rfl) hcut rfl (stops_cons.2 rfl)

end LineLexer
