/-
  LineLexer.Proofs.Classification
  ───────────────────────────────
  **THE CATEGORY OF A MATCH IS THAT OF ITS RULE.**

  A lexeme is recognised twice, by two mechanisms that know nothing of each
  other.  The matcher tries rules at the front of a text and tells which one
  won; the vocabulary looks up the text of the match, and where that fails
  judges it by its shape.  The two never contradict each other, whatever
  categories the vocabulary was built from:

      Rule.Denotes              — the category that goes with a rule
      Rule.Denotes.unique       — there is one for each lexeme
      resolve_of_notMem         — a lexeme that is no literal has its shape
      Wins.denotes              — what the winner is classified as
      longestMatch_denotes      — so the vocabulary agrees with the matcher

  A keyword that the vocabulary leaves out is an identifier, and a mark that
  it leaves out is an error.
-/
import LineLexer.Proofs.Policy

namespace LineLexer

/-! ## §1. The category that goes with a rule. -/

/-- A lexeme that the rule has matched is of the category.  Rules for words
leave it to the keywords among the categories which one that is. -/
inductive Rule.Denotes (cs : List Category) (l : Text) : Rule → Category → Prop where
  /-- The rule of a literal names the category. -/
  | fixed (k : Category) : Denotes cs l (.fixed k) k
  /-- A word is the keyword that it spells. -/
  | keyword {k : Category} (hk : k ∈ cs) (hkey : k.isKeyword) (hl : k.literal? = some l) :
      Denotes cs l .word k
  /-- A word that spells no keyword is an identifier. -/
  | ident (hno : ∀ k ∈ cs, k.isKeyword → k.literal? ≠ some l) : Denotes cs l .word .ident
  /-- Digits are a numeral. -/
  | numeral : Denotes cs l .numeral .numeral
  /-- Any other character is an error. -/
  | any : Denotes cs l .any .error

/-- There is one category for each lexeme and the rule that matched it. -/
theorem Rule.Denotes.unique {cs : List Category} {l : Text} {r : Rule} {k m : Category}
    (hk : r.Denotes cs l k) (hm : r.Denotes cs l m) : k = m := by
  cases hk with
  | fixed => cases hm; rfl
  | keyword hmem hkey hl =>
      cases hm with
      | keyword _ _ hl' => exact Category.literal?_injective hl hl'
      | ident hno => exact absurd hl (hno _ hmem hkey)
  | ident hno =>
      cases hm with
      | keyword hmem hkey hl => exact absurd hl (hno _ hmem hkey)
      | ident => rfl
  | numeral => cases hm; rfl
  | any => cases hm; rfl

/-! ## §2. What a vocabulary makes of a lexeme. -/

namespace Vocabulary

variable {cs : List Category} {v : Vocabulary} (hcs : ofCategories cs = .ok v)
include hcs

/-- The literal of one of the categories is classified as that. -/
theorem resolve_of_mem {k : Category} {l : Text} (hk : k ∈ cs) (hl : k.literal? = some l) :
    v.resolve l = k := by
  have hfound : v.classify l = some k :=
    classify_eq_some_iff.2 ((mem_entries_of_ofCategories hcs).2 ⟨hk, hl⟩)
  unfold resolve
  rw [hfound]
  rfl

/-- A lexeme that is the literal of none is classified by its shape. -/
theorem resolve_of_notMem {l : Text} (hno : ∀ k ∈ cs, k.literal? ≠ some l) :
    v.resolve l = .ofShape l := by
  have hnone : v.classify l = none := by
    rw [Option.eq_none_iff_forall_not_mem]
    intro k hk
    obtain ⟨hmem, hl⟩ := (mem_entries_of_ofCategories hcs).1 (classify_eq_some_iff.1 hk)
    exact hno k hmem hl
  unfold resolve
  rw [hnone]
  rfl

end Vocabulary

/-! ## §3. The two agree. -/

/-- The text of a hit, as it is cut off where the hit was found. -/
theorem Wins.takeBytes {cs : List Category} {t : Text} {hit : Hit} (h : Wins cs t hit) :
    Utf8.takeBytes hit.length t = hit.rule.front t := by
  obtain ⟨-, hsize⟩ := Rule.matchLength?_eq_some_iff.1 h.matchLength?
  obtain ⟨rest, hrest⟩ := hit.rule.front_isPrefix t
  rw [← hsize]
  conv => lhs; arg 2; rw [← hrest]
  rw [Utf8.takeBytes_size_append]

/-- A mark that wins only as a character is the literal of none of the
categories. -/
theorem literal?_ne_of_not_standsFirst {cs : List Category} {c : Char} {rest : Text}
    (hno : ∀ k l, ¬ StandsFirst cs (c :: rest) k l) (hc : c.isAlphanum = false) :
    ∀ k ∈ cs, k.literal? ≠ some [c] := by
  intro k hk hl
  have hkey : k.isKeyword = false := by
    -- a keyword begins with a letter
    apply Bool.eq_false_iff.2
    intro hkey
    have hw := k.isWord_of_isKeyword hkey hl
    simp [isAlphanum_of_isWord hw c List.mem_cons_self] at hc
  exact hno k [c] ⟨hk, hkey, hl, ⟨rest, rfl⟩⟩

section Building

variable {cs : List Category} {v : Vocabulary} (hcs : Vocabulary.ofCategories cs = .ok v)
include hcs

/-- **What wins is classified as its rule has it.** -/
theorem Wins.denotes {t : Text} {hit : Hit} (h : Wins cs t hit) :
    hit.rule.Denotes cs (Utf8.takeBytes hit.length t)
      (v.resolve (Utf8.takeBytes hit.length t)) := by
  cases h with
  | @literal k l hl _ =>
      obtain ⟨rest, rfl⟩ := hl.front
      rw [Utf8.takeBytes_size_append, Vocabulary.resolve_of_mem hcs hl.mem hl.literal]
      exact .fixed k
  | @word w rest _ ht hw _ =>
      subst ht
      rw [Utf8.takeBytes_size_append]
      by_cases hkey : ∃ k ∈ cs, k.literal? = some w
      · obtain ⟨k, hk, hl⟩ := hkey
        rw [Vocabulary.resolve_of_mem hcs hk hl]
        exact .keyword hk (k.isKeyword_of_isWord hl hw) hl
      · have hno : ∀ k ∈ cs, k.literal? ≠ some w := fun k hk hl => hkey ⟨k, hk, hl⟩
        rw [Vocabulary.resolve_of_notMem hcs hno, Category.ofShape_of_isWord hw]
        exact .ident fun k hk _ => hno k hk
  | @numeral w rest _ ht hne hw _ =>
      subst ht
      rw [Utf8.takeBytes_size_append, Vocabulary.resolve_of_notMem hcs,
        Category.ofShape_of_isDigit hne hw]
      · exact .numeral
      · intro k _
        obtain ⟨c, w, rfl⟩ := List.exists_cons_of_ne_nil hne
        exact k.literal?_ne_of_isDigit (hw c List.mem_cons_self) w
  | @any c rest hno ht hc =>
      subst ht
      have htake : Utf8.takeBytes c.utf8Size (c :: rest) = [c] := by
        have hcut := Utf8.takeBytes_size_append [c] rest
        simpa using hcut
      show Rule.Denotes cs (Utf8.takeBytes c.utf8Size (c :: rest)) .any
        (v.resolve (Utf8.takeBytes c.utf8Size (c :: rest)))
      rw [htake, Vocabulary.resolve_of_notMem hcs (literal?_ne_of_not_standsFirst hno hc),
        Category.ofShape_singleton hc]
      exact .any

end Building

/-- **Matching and classification agree**, whatever categories the vocabulary
was built from.  Some rule wins wherever there is a text; what it matches can be
cut off that, and is classified as the one category that goes with the rule:
the category of the literal, the keyword that the word spells, or else an
identifier, a numeral, or an error. -/
theorem longestMatch_denotes {cs : List Category} {v : Vocabulary}
    (hcs : Vocabulary.ofCategories cs = .ok v) {t : Text} (hne : t ≠ []) :
    ∃ hit : Hit, (Matcher.ofVocabulary v).longestMatch t = some hit ∧
      let l := Utf8.takeBytes hit.length t
      l <+: t ∧ Utf8.size l = hit.length
        ∧ ∀ k, v.resolve l = k ↔ hit.rule.Denotes cs l k := by
  cases hm : (Matcher.ofVocabulary v).longestMatch t with
  | none => exact absurd ((longestMatch_eq_none_iff_nil v).1 hm) hne
  | some hit =>
      have hwins := (longestMatch_eq_some_iff hcs).1 hm
      refine ⟨hit, rfl, ?_, ?_, ?_⟩
      · rw [hwins.takeBytes]
        exact hit.rule.front_isPrefix t
      · rw [hwins.takeBytes]
        exact (Rule.matchLength?_eq_some_iff.1 hwins.matchLength?).2
      · intro k
        constructor
        · intro hk
          rw [← hk]
          exact hwins.denotes hcs
        · exact fun hk => (hwins.denotes hcs).unique hk

/-- A word that spells a keyword is an identifier where the vocabulary does not
have that keyword. -/
theorem longestMatch_denotes_unbound_keyword :
    ∃ v, Vocabulary.ofCategories [.assign, .ifWord] = .ok v
      ∧ ['e', 'l', 's', 'e', '=', '='] ≠ []
      ∧ (Matcher.ofVocabulary v).longestMatch ['e', 'l', 's', 'e', '=', '='] = some ⟨.word, 4⟩
      ∧ v.resolve ['e', 'l', 's', 'e'] = .ident := by
  obtain ⟨v, hcs⟩ : ∃ v, Vocabulary.ofCategories [.assign, .ifWord] = .ok v := ⟨_, rfl⟩
  have hne : ['e', 'l', 's', 'e', '=', '='] ≠ [] := List.cons_ne_nil _ _
  have hcut : ['e', 'l', 's', 'e', '=', '='] = ['e', 'l', 's', 'e'] ++ ['=', '='] := rfl
  have hword : (Matcher.ofVocabulary v).longestMatch ['e', 'l', 's', 'e', '=', '=']
      = some ⟨.word, 4⟩ :=
    (longestMatch_eq_some_iff hcs).2
      (.word (not_standsFirst_of_isAlpha rfl) hcut rfl (stops_cons.2 rfl))
  obtain ⟨hit, hm, -, -, hdenotes⟩ := longestMatch_denotes hcs hne
  obtain rfl : (⟨.word, 4⟩ : Hit) = hit := Option.some.inj (hword.symm.trans hm)
  have hno : ∀ k ∈ [Category.assign, .ifWord], k.isKeyword →
      k.literal? ≠ some ['e', 'l', 's', 'e'] := by
    intro k hk _
    simp only [List.mem_cons, List.not_mem_nil, or_false] at hk
    rcases hk with rfl | rfl <;> decide
  exact ⟨v, hcs, hne, hword, (hdenotes .ident).2 (.ident hno)⟩

end LineLexer
