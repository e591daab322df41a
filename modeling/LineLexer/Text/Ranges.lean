/-
  LineLexer.Text.Ranges
  ─────────────────────
  **SETS OF CHARACTERS AS RANGES OF NUMBERS.**

  A property of characters that a standard lists is kept as a table of closed
  ranges of their numbers.  The ranges ascend and do not touch, so a look-up
  stops at the first range that begins behind the number; `Table.has_iff` says
  that it finds what it would find in the whole table.
-/

namespace LineLexer

/-- Closed ranges of numbers. -/
abbrev Ranges := List (Nat × Nat)

namespace Ranges

/-- Whether a number lies in one of the ranges. -/
def holds : Ranges → Nat → Bool
  | [], _ => false
  | (first, last) :: rs, n => first ≤ n && (n ≤ last || holds rs n)

/-- Whether the ranges ascend, with a gap between any two. -/
def ascend : Ranges → Bool
  | [] => true
  | [(first, last)] => first ≤ last
  | (first, last) :: (next, stop) :: rs =>
      first ≤ last && last + 1 < next && ascend ((next, stop) :: rs)

/-- No range of an ascending table begins before the first one. -/
theorem first_le_of_mem {first last : Nat} {rs : Ranges}
    (h : ascend ((first, last) :: rs)) {r : Nat × Nat} (hr : r ∈ rs) : first ≤ r.1 := by
  induction rs generalizing first last with
  | nil => cases hr
  | cons next rs ih =>
      simp only [ascend, Bool.and_eq_true, decide_eq_true_eq] at h
      obtain ⟨⟨hle, hlt⟩, hrest⟩ := h
      rcases List.mem_cons.1 hr with rfl | hr
      · omega
      · have := ih hrest hr
        omega

theorem ascend_of_cons {r : Nat × Nat} {rs : Ranges} (h : ascend (r :: rs)) :
    ascend rs := by
  cases rs with
  | nil => rfl
  | cons next rs =>
      simp only [ascend, Bool.and_eq_true] at h
      exact h.2

/-- A look-up finds a number exactly if it lies in a range of the table. -/
theorem holds_eq_true_iff {rs : Ranges} (h : ascend rs) {n : Nat} :
    holds rs n = true ↔ ∃ r ∈ rs, r.1 ≤ n ∧ n ≤ r.2 := by
  induction rs with
  | nil => simp [holds]
  | cons r rs ih =>
      have hrest := ih (ascend_of_cons h)
      simp only [holds, Bool.and_eq_true, Bool.or_eq_true, decide_eq_true_eq, hrest,
        List.mem_cons, exists_eq_or_imp]
      constructor
      · rintro ⟨hle, hlast | hlater⟩
        · exact .inl ⟨hle, hlast⟩
        · exact .inr hlater
      · rintro (⟨hle, hlast⟩ | ⟨s, hs, hsn⟩)
        · exact ⟨hle, .inl hlast⟩
        · -- a later range begins behind the first one
          exact ⟨Nat.le_trans (first_le_of_mem h hs) hsn.1, .inr ⟨s, hs, hsn⟩⟩

/-- Ranges in which a number can be looked up. -/
structure Table where
  /-- The ranges. -/
  ranges : Ranges
  /-- They ascend. -/
  ascend : Ranges.ascend ranges = true

/-- Whether a number lies in a table. -/
def Table.has (t : Table) (n : Nat) : Bool :=
  holds t.ranges n

/-- **A look-up misses nothing.** -/
theorem Table.has_iff (t : Table) {n : Nat} :
    t.has n = true ↔ ∃ r ∈ t.ranges, r.1 ≤ n ∧ n ≤ r.2 :=
  holds_eq_true_iff t.ascend

end Ranges

end LineLexer
