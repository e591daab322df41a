/-
  LineLexer.Matcher
  ─────────────────
  **WHICH RULE WINS.**

  A matcher is a list of rules in their order.  Keywords have no rule: they
  are matched as words, and the vocabulary tells them from identifiers, so a
  word that merely begins with a keyword stays whole.

      hits          — every rule that matches, with the length of its match
      race          — the rules are tried one by one, against the best hit so
                      far, until one of a later precedence comes
      longestMatch  — the hit that is the best one in the end
-/
import LineLexer.Rule
import LineLexer.Vocabulary

namespace LineLexer

/-- A rule that matches, and how many bytes it matches. -/
structure Hit where
  /-- The rule. -/
  rule : Rule
  /-- The number of bytes. -/
  length : Nat
  deriving Repr, DecidableEq

/-- Rules, tried in their order. -/
structure Matcher where
  /-- The rules, by falling precedence. -/
  rules : List Rule
  deriving Repr, DecidableEq

namespace Matcher

/-- The rules for a vocabulary: one for each of its literals that is no
keyword, and the three forms that need no literal. -/
def ofVocabulary (v : Vocabulary) : Matcher :=
  let fixed := (v.entries.map (·.2)).filter (fun c => !c.isKeyword)
  let rules := fixed.map Rule.fixed ++ [Rule.word, Rule.numeral, Rule.any]
  -- the order of the entries is forgotten
  ⟨rules.mergeSort (fun a b => a.rank ≤ b.rank)⟩

/-- The rules for the standard vocabulary. -/
def standard : Matcher :=
  ofVocabulary .standard

/-- The rules that match at the front of a text, each with the length of its
match. -/
def hits (m : Matcher) (t : Text) : List Hit :=
  m.rules.filterMap (fun r => (r.matchLength? t).map (⟨r, ·⟩))

/-- Tries the rules one by one, and keeps the best hit so far: one that is
longer takes its place. -/
def race (t : Text) (best? : Option Hit) : List Rule → Option Hit
  | [] => best?
  | r :: rs =>
      -- rules of a later precedence are out of the race once one has matched
      if best?.any (fun best => best.rule.precedence < r.precedence) then best?
      else
        match r.matchLength? t with
        | none => race t best? rs
        | some n =>
            if best?.all (fun best => best.length < n) then race t (some ⟨r, n⟩) rs
            else race t best? rs

/-- The hit that wins at the front of a text. -/
def longestMatch (m : Matcher) (t : Text) : Option Hit :=
  race t none m.rules

/-- The number of bytes of the first character, or one if there is none. -/
def firstSize : Text → Nat
  | [] => 1
  | c :: _ => c.utf8Size

/-- The hit that wins; where no rule matches, one character is taken. -/
def pick (m : Matcher) (t : Text) : Hit :=
  (m.longestMatch t).getD ⟨.any, firstSize t⟩

/-! ## Hits are not empty. -/

theorem mem_hits {m : Matcher} {t : Text} {h : Hit} :
    h ∈ m.hits t ↔ h.rule ∈ m.rules ∧ h.rule.matchLength? t = some h.length := by
  simp only [hits, List.mem_filterMap, Option.map_eq_some_iff]
  constructor
  · rintro ⟨r, hr, n, hn, rfl⟩
    exact ⟨hr, hn⟩
  · exact fun ⟨hr, hn⟩ => ⟨h.rule, hr, h.length, hn, rfl⟩

/-- What comes out of a race was the best hit before, or is the match of one of
the rules. -/
theorem eq_or_mem_of_race {t : Text} {best? : Option Hit} {rs : List Rule} {h : Hit}
    (hrace : race t best? rs = some h) :
    best? = some h ∨ h.rule ∈ rs ∧ h.rule.matchLength? t = some h.length := by
  fun_induction race t best? rs with
  | case1 => exact .inl hrace
  | case2 => exact .inl hrace
  | case3 best? r rs hin hno ih =>
      exact (ih hrace).imp_right fun ⟨hr, hlen⟩ => ⟨List.mem_cons_of_mem _ hr, hlen⟩
  | case4 best? r rs hin n hn hlonger ih =>
      rcases ih hrace with hnew | ⟨hr, hlen⟩
      · cases hnew
        exact .inr ⟨List.mem_cons_self, hn⟩
      · exact .inr ⟨List.mem_cons_of_mem _ hr, hlen⟩
  | case5 best? r rs hin n hn hlonger ih =>
      exact (ih hrace).imp_right fun ⟨hr, hlen⟩ => ⟨List.mem_cons_of_mem _ hr, hlen⟩

/-- The winner is one of the hits. -/
theorem mem_hits_of_longestMatch {m : Matcher} {t : Text} {h : Hit}
    (hm : m.longestMatch t = some h) : h ∈ m.hits t :=
  mem_hits.2 ((eq_or_mem_of_race hm).resolve_left nofun)

/-- The winner takes at least one byte. -/
theorem length_pick_pos (m : Matcher) (t : Text) : 0 < (m.pick t).length := by
  simp only [pick]
  cases hm : m.longestMatch t with
  | none =>
      cases t with
      | nil => simp [firstSize]
      | cons c t => simpa [firstSize] using c.utf8Size_pos
  | some h =>
      simpa using Rule.matchLength?_pos (mem_hits.1 (mem_hits_of_longestMatch hm)).2

end Matcher

end LineLexer
