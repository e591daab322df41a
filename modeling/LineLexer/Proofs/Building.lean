/-
  LineLexer.Proofs.Building
  ─────────────────────────
  **WHAT A LIST OF CATEGORIES BUILDS.**

  A vocabulary is built from a list of categories, one by one, and a matcher
  from the vocabulary.  Building stops at the first fixed category that was
  there before.  Where none repeats, the list decides what comes out only
  through its members:

      RepeatsAt             — a fixed category stands where it is a repetition
      extend_cases          — all that one more category can do
      Builds.concat         — so what building has come to, for a longer list
      ofCategories_outcome  — when it fails, with which error, and what a
                              vocabulary holds that was built
      rules_eq_inOrder      — the rules are those of the operators, in order
      ofVocabulary_canonical
                            — so neither the order in which the bindings are
                              visited nor that of the list matters, and
                              keywords and open categories do not at all
-/
import Mathlib.Data.List.Basic
import Mathlib.Data.List.Induction
import LineLexer.Proofs.Policy

namespace LineLexer

/-! ## §1. Repetitions. -/

/-- At this place of the list stands a fixed category that already stood
before it. -/
structure RepeatsAt (cs : List Category) (i : Nat) (c : Category) : Prop where
  /-- The category stands at the place. -/
  here : cs[i]? = some c
  /-- It is fixed. -/
  isFixed : c.isFixed
  /-- It stands at an earlier place, too. -/
  before : c ∈ cs.take i

/-- There is no repetition at an earlier place. -/
structure IsFirstRepeat (cs : List Category) (i : Nat) (c : Category) : Prop
    extends RepeatsAt cs i c where
  /-- Every repetition stands there, or later. -/
  least : ∀ j d, RepeatsAt cs j d → i ≤ j

/-- A longer list has the same repetitions, and perhaps one more. -/
theorem repeatsAt_concat {cs : List Category} {d : Category} {i : Nat} {c : Category} :
    RepeatsAt (cs ++ [d]) i c
      ↔ RepeatsAt cs i c ∨ (i = cs.length ∧ d = c ∧ c.isFixed ∧ c ∈ cs) := by
  constructor
  · intro h
    obtain ⟨hhere, hfixed, hbefore⟩ := h
    by_cases hlt : i < cs.length
    · rw [List.getElem?_append_left hlt] at hhere
      rw [List.take_append_of_le_length (Nat.le_of_lt hlt)] at hbefore
      exact .inl ⟨hhere, hfixed, hbefore⟩
    · -- there is one more place, and this is it
      have hi : i = cs.length := by
        have hbound := (List.getElem?_eq_some_iff.1 hhere).1
        simp only [List.length_append, List.length_singleton] at hbound
        omega
      subst hi
      rw [List.getElem?_concat_length, Option.some.injEq] at hhere
      rw [List.take_left' rfl] at hbefore
      exact .inr ⟨rfl, hhere, hfixed, hbefore⟩
  · intro h
    rcases h with ⟨hhere, hfixed, hbefore⟩ | ⟨rfl, rfl, hfixed, hmem⟩
    · have hlt := (List.getElem?_eq_some_iff.1 hhere).1
      refine ⟨?_, hfixed, ?_⟩
      · rw [List.getElem?_append_left hlt, hhere]
      · rw [List.take_append_of_le_length (Nat.le_of_lt hlt)]
        exact hbefore
    · refine ⟨List.getElem?_concat_length, hfixed, ?_⟩
      rw [List.take_left' rfl]
      exact hmem

/-- A fixed category that is there twice repeats at some place. -/
theorem exists_repeatsAt_iff {cs : List Category} {c : Category} :
    (∃ i, RepeatsAt cs i c) ↔ c.isFixed ∧ 2 ≤ cs.count c := by
  -- from the end, where a place is added that all the others precede
  induction cs using List.reverseRecOn with
  | nil =>
      constructor
      · intro h
        obtain ⟨i, h⟩ := h
        cases h.here
      · intro h
        simp at h
  | append_singleton cs d ih =>
      have hstep : (∃ i, RepeatsAt (cs ++ [d]) i c)
          ↔ (∃ i, RepeatsAt cs i c) ∨ (d = c ∧ c.isFixed ∧ c ∈ cs) := by
        simp only [repeatsAt_concat, exists_or, exists_eq_left]
      have hcount : (cs ++ [d]).count c = cs.count c + if d = c then 1 else 0 := by
        simp [List.count_append, List.count_singleton]
      have hmem : c ∈ cs ↔ 0 < cs.count c := List.count_pos_iff.symm
      rw [hstep, ih, hcount, hmem]
      by_cases hd : d = c
      · rw [if_pos hd]
        by_cases hfixed : c.isFixed
        · simp only [hd, hfixed, true_and]
          omega
        · simp [hfixed]
      · simp [hd]

/-! ## §2. One category after the other. -/

namespace Vocabulary

/-- **All that one more category can do**: an open one binds nothing, the
literal of a fixed one is claimed already, or it is bound now. -/
theorem extend_cases (v : Vocabulary) (c : Category) :
    (c.literal? = none ∧ v.extend c = .ok v)
      ∨ (∃ l first, c.literal? = some l ∧ v.classify l = some first
        ∧ v.extend c = .error ⟨.duplicateLiteral l first c, .null⟩)
      ∨ ∃ l w, c.literal? = some l ∧ v.classify l = none ∧ v.extend c = .ok w
        ∧ w.entries = (l, c) :: v.entries := by
  unfold extend
  split
  next hc => exact .inl ⟨hc, rfl⟩
  next l hc =>
    split
    next first hfound => exact .inr (.inl ⟨l, first, hc, hfound, rfl⟩)
    next hfree => exact .inr (.inr ⟨l, _, hc, hfree, rfl, rfl⟩)

/-- What the list of categories has come to, if the last one is still to be
looked at. -/
theorem ofCategories_concat (cs : List Category) (c : Category) :
    ofCategories (cs ++ [c]) = ofCategories cs >>= fun v => v.extend c := by
  unfold ofCategories
  rw [List.foldlM_append]
  simp only [List.foldlM_cons, List.foldlM_nil, bind_pure]

/-- Open categories are passed over. -/
theorem foldlM_extend_filter (cs : List Category) :
    ∀ v : Vocabulary, (cs.filter Category.isFixed).foldlM extend v = cs.foldlM extend v := by
  induction cs with
  | nil => exact fun _ => rfl
  | cons c cs ih =>
      intro v
      rw [List.foldlM_cons]
      by_cases hc : c.isFixed
      · rw [List.filter_cons_of_pos hc, List.foldlM_cons]
        exact congrArg _ (funext ih)
      · have hopen : v.extend c = .ok v := by
          rcases extend_cases v c with ⟨-, h⟩ | ⟨l, -, hl, -⟩ | ⟨l, -, hl, -⟩
          · exact h
          · exact absurd (Category.isFixed_of_literal? hl) hc
          · exact absurd (Category.isFixed_of_literal? hl) hc
        rw [List.filter_cons_of_neg hc, hopen]
        exact ih v

/-- What is bound by a vocabulary is one of the categories that it was built
from. -/
theorem mem_of_classify {cs : List Category} {v : Vocabulary} (hcs : ofCategories cs = .ok v)
    {l : Text} {c : Category} : v.classify l = some c ↔ c ∈ cs ∧ c.literal? = some l := by
  rw [classify_eq_some_iff]
  exact mem_entries_of_ofCategories hcs

end Vocabulary

/-! ## §3. What building comes to. -/

/-- What building from the categories can come to: a vocabulary, if none
repeats, or the error of the first that does. -/
inductive Builds (cs : List Category) : Except Error Vocabulary → Prop where
  /-- Each fixed category has a binding of its own. -/
  | ok {v : Vocabulary} (hno : ∀ i c, ¬ RepeatsAt cs i c)
      (hsize : v.size = cs.countP Category.isFixed) : Builds cs (.ok v)
  /-- The category claims a literal that it already has. -/
  | error {i : Nat} {c : Category} {l : Text} (h : IsFirstRepeat cs i c)
      (hl : c.literal? = some l) : Builds cs (.error ⟨.duplicateLiteral l c c, .null⟩)

/-- The first repetition stays the first in a longer list. -/
theorem IsFirstRepeat.concat {cs : List Category} {i : Nat} {c : Category}
    (h : IsFirstRepeat cs i c) (d : Category) : IsFirstRepeat (cs ++ [d]) i c := by
  refine ⟨repeatsAt_concat.2 (.inl h.toRepeatsAt), ?_⟩
  intro j e hj
  rcases repeatsAt_concat.1 hj with hj | ⟨rfl, -⟩
  · exact h.least j e hj
  · exact Nat.le_of_lt (List.getElem?_eq_some_iff.1 h.here).1

theorem IsFirstRepeat.unique {cs : List Category} {i j : Nat} {c d : Category}
    (h : IsFirstRepeat cs i c) (h' : IsFirstRepeat cs j d) : c = d := by
  have hij : i = j := Nat.le_antisymm (h.least j d h'.toRepeatsAt) (h'.least i c h.toRepeatsAt)
  have hhere := h.here
  rw [hij, h'.here, Option.some.injEq] at hhere
  exact hhere.symm

/-- **One more category keeps to what building can come to.** -/
theorem Builds.concat {cs : List Category} (h : Builds cs (Vocabulary.ofCategories cs))
    (d : Category) : Builds (cs ++ [d]) (Vocabulary.ofCategories (cs ++ [d])) := by
  rw [Vocabulary.ofCategories_concat]
  generalize hcs : Vocabulary.ofCategories cs = built at h
  cases h with
  | error hfirst hl => exact .error (hfirst.concat d) hl
  | @ok v hno hsize =>
      show Builds (cs ++ [d]) (v.extend d)
      have hcount : (cs ++ [d]).countP Category.isFixed
          = v.size + if d.isFixed then 1 else 0 := by
        rw [List.countP_append, List.countP_singleton, hsize]
      have hold : ∀ i c, RepeatsAt (cs ++ [d]) i c →
          i = cs.length ∧ d = c ∧ c.isFixed ∧ c ∈ cs := by
        intro i c hi
        exact (repeatsAt_concat.1 hi).resolve_left (hno i c)
      rcases Vocabulary.extend_cases v d with
        ⟨hopen, hext⟩ | ⟨l, first, hl, hfound, hext⟩ | ⟨l, w, hl, hfree, hext, hentries⟩
      · -- an open category cannot repeat
        have hd : d.isFixed = false := by
          rw [Category.isFixed, hopen]
          rfl
        rw [hext]
        refine .ok ?_ ?_
        · intro i c hi
          obtain ⟨-, rfl, hfixed, -⟩ := hold i c hi
          simp [hd] at hfixed
        · rw [hcount, hd]
          rfl
      · -- no other category has the literal, so this one was there before
        obtain ⟨hmem, hl'⟩ := (Vocabulary.mem_of_classify hcs).1 hfound
        obtain rfl := Category.literal?_injective hl hl'
        have hfixed := Category.isFixed_of_literal? hl
        rw [hext]
        refine .error ⟨repeatsAt_concat.2 (.inr ⟨rfl, rfl, hfixed, hmem⟩), ?_⟩ hl
        intro j c hj
        exact Nat.le_of_eq (hold j c hj).1.symm
      · -- a literal that is free belongs to no earlier category
        have hd := Category.isFixed_of_literal? hl
        rw [hext]
        refine .ok ?_ ?_
        · intro i c hi
          obtain ⟨-, rfl, -, hmem⟩ := hold i c hi
          have hbound := (Vocabulary.mem_of_classify hcs).2 ⟨hmem, hl⟩
          rw [hfree] at hbound
          cases hbound
        · rw [hcount, if_pos hd, Vocabulary.size, hentries]
          rfl

theorem builds (cs : List Category) : Builds cs (Vocabulary.ofCategories cs) := by
  induction cs using List.reverseRecOn with
  | nil => exact .ok (fun i c h => by cases h.here) rfl
  | append_singleton cs d ih => exact ih.concat d

namespace Vocabulary

variable {cs : List Category}

/-- Building fails if and only if some category repeats, and then by the first
that does. -/
theorem ofCategories_eq_error_iff {e : Error} :
    ofCategories cs = .error e
      ↔ ∃ i c l, IsFirstRepeat cs i c ∧ c.literal? = some l
        ∧ e = ⟨.duplicateLiteral l c c, .null⟩ := by
  have h := builds cs
  generalize ofCategories cs = built at h
  cases h with
  | ok hno =>
      constructor
      · intro he
        cases he
      · intro h
        obtain ⟨i, c, l, hfirst, -⟩ := h
        exact absurd hfirst.toRepeatsAt (hno i c)
  | @error i c l hfirst hl =>
      constructor
      · intro he
        cases he
        exact ⟨i, c, l, hfirst, hl, rfl⟩
      · intro h
        obtain ⟨j, d, l', hfirst', hl', he⟩ := h
        obtain rfl := hfirst.unique hfirst'
        obtain rfl : l = l' := Option.some.inj (hl.symm.trans hl')
        rw [he]

/-- A binding is visited once. -/
theorem nodup_literals (v : Vocabulary) : v.literals.Nodup := by
  have hsorted : v.literals.Perm v.entries := List.mergeSort_perm _ _
  rw [hsorted.nodup_iff]
  exact (List.pairwise_map.1 v.nodup).imp fun hne he => hne (congrArg Prod.fst he)

theorem mem_literals {v : Vocabulary} {e : Text × Category} : e ∈ v.literals ↔ e ∈ v.entries :=
  List.mem_mergeSort

end Vocabulary

/-- The vocabulary binds the literal of each of the categories that has one, and
nothing else. -/
structure Vocabulary.Binds (v : Vocabulary) (cs : List Category) : Prop where
  /-- A lexeme is looked up among the literals of the categories. -/
  classify : ∀ l c, v.classify l = some c ↔ c ∈ cs ∧ c.literal? = some l
  /-- These are the bindings that are visited. -/
  mem_literals : ∀ l c, (l, c) ∈ v.literals ↔ c ∈ cs ∧ c.literal? = some l
  /-- Each of them is visited once. -/
  nodup_literals : v.literals.Nodup
  /-- There are as many as there are fixed categories. -/
  size : v.size = cs.countP Category.isFixed

theorem Vocabulary.binds_of_ofCategories {cs : List Category} {v : Vocabulary}
    (hcs : ofCategories cs = .ok v) : v.Binds cs where
  classify := fun _ _ => mem_of_classify hcs
  mem_literals := by
    intro l c
    rw [Vocabulary.mem_literals]
    exact mem_entries_of_ofCategories hcs
  nodup_literals := v.nodup_literals
  size := by
    have h := builds cs
    rw [hcs] at h
    cases h with
    | ok _ hsize => exact hsize

/-- **What a list of categories builds.**  Building fails if and only if a fixed
category is there twice; the error then names the literal of the first category
that repeats, and that category twice, at no position.  Otherwise there is a
vocabulary, which binds the literals of the fixed categories of the list.  Open
categories make no difference. -/
theorem ofCategories_outcome (cs : List Category) :
    ((∃ e, Vocabulary.ofCategories cs = .error e)
        ↔ ∃ c : Category, c.isFixed ∧ 2 ≤ cs.count c)
      ∧ (∀ e, Vocabulary.ofCategories cs = .error e
        ↔ ∃ i c l, IsFirstRepeat cs i c ∧ c.literal? = some l
          ∧ e = ⟨.duplicateLiteral l c c, .null⟩)
      ∧ ((¬ ∃ c : Category, c.isFixed ∧ 2 ≤ cs.count c) →
        ∃ v, Vocabulary.ofCategories cs = .ok v ∧ v.Binds cs)
      ∧ Vocabulary.ofCategories (cs.filter Category.isFixed) = Vocabulary.ofCategories cs := by
  have hfails : (∃ e, Vocabulary.ofCategories cs = .error e)
      ↔ ∃ c : Category, c.isFixed ∧ 2 ≤ cs.count c := by
    constructor
    · intro h
      obtain ⟨e, he⟩ := h
      obtain ⟨i, c, l, hfirst, -⟩ := Vocabulary.ofCategories_eq_error_iff.1 he
      exact ⟨c, exists_repeatsAt_iff.1 ⟨i, hfirst.toRepeatsAt⟩⟩
    · intro h
      obtain ⟨c, hc⟩ := h
      obtain ⟨i, hi⟩ := exists_repeatsAt_iff.2 hc
      have hbuilt := builds cs
      cases hcs : Vocabulary.ofCategories cs with
      | error e => exact ⟨e, rfl⟩
      | ok v =>
          rw [hcs] at hbuilt
          cases hbuilt with
          | ok hno => exact absurd hi (hno i c)
  refine ⟨hfails, fun e => Vocabulary.ofCategories_eq_error_iff, ?_, ?_⟩
  · intro hno
    cases hcs : Vocabulary.ofCategories cs with
    | error e => exact absurd (hfails.1 ⟨e, hcs⟩) hno
    | ok v => exact ⟨v, rfl, Vocabulary.binds_of_ofCategories hcs⟩
  · exact Vocabulary.foldlM_extend_filter cs Vocabulary.empty

/-! ## §4. The rules of a vocabulary. -/

namespace Rule

theorem rank_lt_of_fixed (c : Category) : (fixed c).rank < Category.all.length :=
  List.idxOf_lt_length_of_mem c.mem_all

/-- No two rules have one place. -/
theorem rank_injective {a b : Rule} (h : a.rank = b.rank) : a = b := by
  cases a with
  | fixed c =>
      have hc := rank_lt_of_fixed c
      cases b with
      | fixed d => rw [Category.rank_injective (show c.rank = d.rank from h)]
      | _ => simp only [rank] at h hc; omega
  | _ =>
      cases b with
      | fixed d =>
          have hd := rank_lt_of_fixed d
          simp only [rank] at h hd
          omega
      | _ => simp_all [rank]

/-- The rules for the operators among some categories, in the order in which
categories are declared, and behind them the three open forms. -/
def inOrder (cs : List Category) : List Rule :=
  (Category.all.filter (fun c => c.isOperator && decide (c ∈ cs))).map fixed
    ++ [word, numeral, any]

theorem mem_inOrder {cs : List Category} {r : Rule} :
    r ∈ inOrder cs
      ↔ (∃ c, (c.isOperator ∧ c ∈ cs) ∧ fixed c = r) ∨ r = word ∨ r = numeral ∨ r = any := by
  simp [inOrder, Category.mem_all]

/-- These rules come in their order, each of them once. -/
theorem inOrder_ranked (cs : List Category) :
    (inOrder cs).Pairwise (fun a b => a.rank < b.rank) := by
  have hall : Category.all.Pairwise (fun a b => a.rank < b.rank) := by decide
  have hopen : [word, numeral, any].Pairwise (fun a b => a.rank < b.rank) := by decide
  rw [inOrder, List.pairwise_append]
  refine ⟨(hall.sublist List.filter_sublist).map fixed fun _ _ h => h, hopen, ?_⟩
  intro a ha b hb
  obtain ⟨c, -, rfl⟩ := List.mem_map.1 ha
  have hc := rank_lt_of_fixed c
  -- the open forms stand behind every category
  simp only [List.mem_cons, List.not_mem_nil, or_false] at hb
  rcases hb with rfl | rfl | rfl <;> (simp only [rank] at hc ⊢; omega)

/-- Only the operators among the categories matter. -/
theorem inOrder_congr {cs cs' : List Category}
    (h : ∀ c : Category, c.isOperator → (c ∈ cs ↔ c ∈ cs')) : inOrder cs = inOrder cs' := by
  have hfilter : Category.all.filter (fun c => c.isOperator && decide (c ∈ cs))
      = Category.all.filter (fun c => c.isOperator && decide (c ∈ cs')) := by
    apply List.filter_congr
    intro c _
    by_cases hc : c.isOperator
    · simp [h c hc]
    · simp [hc]
  rw [inOrder, hfilter, inOrder]

end Rule

namespace Vocabulary

theorem nodup_categories (v : Vocabulary) : v.categories.Nodup := by
  refine List.pairwise_map.2 ((List.pairwise_map.1 v.nodup).imp_of_mem ?_)
  intro a b ha hb hne hsame
  -- one category has one literal
  have hl := v.bound a ha
  rw [hsame, v.bound b hb] at hl
  exact hne (Option.some.inj hl).symm

theorem isFixed_of_mem_categories {v : Vocabulary} {c : Category} (h : c ∈ v.categories) :
    c.isFixed := by
  obtain ⟨e, he, rfl⟩ := List.mem_map.1 h
  exact Category.isFixed_of_literal? (v.bound e he)

/-- The rules of a vocabulary are all different. -/
theorem nodup_rules (v : Vocabulary) : (Matcher.ofVocabulary v).rules.Nodup := by
  unfold Matcher.ofVocabulary
  rw [(List.mergeSort_perm _ _).nodup_iff, List.nodup_append]
  refine ⟨?_, by decide, ?_⟩
  · refine List.pairwise_map.2 ((v.nodup_categories.filter _).imp ?_)
    intro c d hne h
    exact hne (Rule.fixed.inj h)
  · intro a ha b hb
    obtain ⟨c, -, rfl⟩ := List.mem_map.1 ha
    intro h
    subst h
    simp at hb

/-- **The rules of a vocabulary are those of its operators, in order**, and the
three open forms, however its bindings are ordered. -/
theorem rules_eq_inOrder (v : Vocabulary) :
    (Matcher.ofVocabulary v).rules = Rule.inOrder v.categories := by
  have hlt := Rule.inOrder_ranked v.categories
  have hnodup : (Rule.inOrder v.categories).Nodup := by
    refine hlt.imp ?_
    intro a b h hab
    rw [hab] at h
    exact Nat.lt_irrefl _ h
  -- both lists are sorted, and no two rules have one place in the order
  refine List.Perm.eq_of_pairwise ?_ (Matcher.rules_ranked v) (hlt.imp Nat.le_of_lt) ?_
  · exact fun a b _ _ hab hba => Rule.rank_injective (Nat.le_antisymm hab hba)
  · rw [List.perm_ext_iff_of_nodup v.nodup_rules hnodup]
    intro r
    rw [Matcher.mem_rules_ofVocabulary, Rule.mem_inOrder]
    refine or_congr (exists_congr fun c => ?_) Iff.rfl
    constructor
    · intro h
      obtain ⟨hmem, hkey, rfl⟩ := h
      have hfixed := isFixed_of_mem_categories hmem
      exact ⟨⟨by simp [Category.isOperator, hfixed, hkey], hmem⟩, rfl⟩
    · intro h
      obtain ⟨⟨hop, hmem⟩, rfl⟩ := h
      simp only [Category.isOperator, Bool.and_eq_true, Bool.not_eq_true'] at hop
      exact ⟨hmem, hop.2, rfl⟩

/-- The order of the bindings does not show in the rules. -/
theorem rules_of_perm {cs : List Category} {v w : Vocabulary} (hcs : ofCategories cs = .ok v)
    (hw : w.entries.Perm v.entries) : (Matcher.ofVocabulary w).rules = Rule.inOrder cs := by
  rw [rules_eq_inOrder]
  apply Rule.inOrder_congr
  intro c hc
  have hmem : c ∈ w.categories ↔ c ∈ v.categories := (hw.map (·.2)).mem_iff
  rw [hmem, mem_categories_of_ofCategories hcs]
  simp only [Category.isOperator, Bool.and_eq_true] at hc
  exact and_iff_left hc.1

end Vocabulary

/-- What is found at the front of a text: a piece of trivia, and the hit that
wins. -/
def Matcher.found (m : Matcher) (t : Text) : Option Nat × Option Hit :=
  (Trivia.pieceLength? t, m.longestMatch t)

/-- **The rules are canonical.**  Two lists of categories may differ in their
order, in keywords and in open categories; and the bindings of what they build
may be visited in any order.  As long as they have the same operators, the
rules are the same: those of the operators, each once, in the order in which
categories are declared, and behind them the three open forms, so that no rule
comes before one of an earlier precedence.  So the same is found in every
text. -/
theorem ofVocabulary_canonical {cs cs' : List Category} {v v' w w' : Vocabulary}
    (hcs : Vocabulary.ofCategories cs = .ok v) (hcs' : Vocabulary.ofCategories cs' = .ok v')
    (hw : w.entries.Perm v.entries) (hw' : w'.entries.Perm v'.entries)
    (hsame : ∀ c : Category, c.isOperator → (c ∈ cs ↔ c ∈ cs')) :
    (Matcher.ofVocabulary w).rules = Rule.inOrder cs
      ∧ (Matcher.ofVocabulary w').rules = Rule.inOrder cs
      ∧ (Rule.inOrder cs).Pairwise (fun a b => a.rank < b.rank ∧ a.precedence ≤ b.precedence)
      ∧ ∀ t, (Matcher.ofVocabulary w).found t = (Matcher.ofVocabulary w').found t := by
  have hrules := Vocabulary.rules_of_perm hcs hw
  have hrules' := Vocabulary.rules_of_perm hcs' hw'
  rw [← Rule.inOrder_congr hsame] at hrules'
  refine ⟨hrules, hrules', ?_, ?_⟩
  · refine (Rule.inOrder_ranked cs).imp ?_
    intro a b h
    exact ⟨h, Rule.precedence_le_of_rank_le (Nat.le_of_lt h)⟩
  · intro t
    have hsame : Matcher.ofVocabulary w = Matcher.ofVocabulary w' :=
      congrArg Matcher.mk (hrules.trans hrules'.symm)
    rw [hsame]

/-- Two operators, with a keyword and an open category among them or not, in
either order, and with the bindings the other way round. -/
theorem ofVocabulary_canonical_maps_assign :
    ∃ v v' w : Vocabulary, Vocabulary.ofCategories [.assign, .ident, .ifWord, .maps] = .ok v
      ∧ Vocabulary.ofCategories [.maps, .assign] = .ok v'
      ∧ w.entries = v.entries.reverse
      ∧ (∀ c : Category, c.isOperator →
        (c ∈ [Category.assign, .ident, .ifWord, .maps] ↔ c ∈ [Category.maps, .assign]))
      ∧ (Matcher.ofVocabulary w).rules = [.fixed .maps, .fixed .assign, .word, .numeral, .any]
      ∧ (Matcher.ofVocabulary v').rules
        = [.fixed .maps, .fixed .assign, .word, .numeral, .any] := by
  obtain ⟨v, hcs⟩ : ∃ v, Vocabulary.ofCategories [.assign, .ident, .ifWord, .maps] = .ok v :=
    ⟨_, rfl⟩
  obtain ⟨v', hcs'⟩ : ∃ v', Vocabulary.ofCategories [.maps, .assign] = .ok v' := ⟨_, rfl⟩
  obtain ⟨w, hw⟩ : ∃ w : Vocabulary, w.entries = v.entries.reverse := by
    refine ⟨⟨v.entries.reverse, ?_, ?_⟩, rfl⟩
    · intro e he
      exact v.bound e (List.mem_reverse.1 he)
    · exact ((List.reverse_perm _).map _).nodup_iff.2 v.nodup
  have hsame : ∀ c : Category, c.isOperator →
      (c ∈ [Category.assign, .ident, .ifWord, .maps] ↔ c ∈ [Category.maps, .assign]) := by
    intro c hc
    have hident : c ≠ .ident := by
      rintro rfl
      exact absurd hc (by decide)
    have hif : c ≠ .ifWord := by
      rintro rfl
      exact absurd hc (by decide)
    simp [hident, hif, or_comm]
  have hperm : w.entries.Perm v.entries := hw ▸ List.reverse_perm v.entries
  obtain ⟨hrules, hrules', -⟩ := ofVocabulary_canonical hcs hcs' hperm (.refl _) hsame
  exact ⟨v, v', w, hcs, hcs', hw, hsame, hrules, hrules'⟩

end LineLexer
