/-
  LineLexer.Proofs.Lines
  ──────────────────────
  **A SOURCE IS ITS LINES.**

  A line ends behind a line feed; the last one may lack it.  Lines are cut in
  the same way from bytes and from characters, so the cut is defined for any
  list:

      Lines.first sep l, Lines.others sep l  — the first line, and the rest
      Lines.cut sep l                        — all the lines
      Lines.sound bs                         — the lines before the first one
                                               that is not UTF-8

  Only the line feed is written with its byte, so it does not matter whether a
  text is cut or its bytes are (`cut_encode`).  That is why one can tell line
  by line whether bytes are UTF-8 (`isWellFormed_iff_lines`).
-/
import Mathlib.Data.List.TakeWhile
import LineLexer.Feed
import LineLexer.Proofs.WellFormed

namespace LineLexer

/-! ## §1. Cutting a list behind a separator. -/

namespace Lines

theorem ne_of_notMem {α : Type} {sep : α} {l : List α} (h : sep ∉ l) : ∀ a ∈ l, a ≠ sep := by
  rintro a ha rfl
  exact h ha

section Cut

variable {α : Type} [DecidableEq α] {sep : α}

/-- The first line, with its separator if it has one. -/
def first (sep : α) (l : List α) : List α :=
  l.takeWhile (· ≠ sep) ++ (l.dropWhile (· ≠ sep)).take 1

/-- What is left behind the first line. -/
def others (sep : α) (l : List α) : List α :=
  (l.dropWhile (· ≠ sep)).drop 1

/-- All the lines. -/
def cut (sep : α) : List α → List (List α)
  | [] => []
  | a :: l =>
      if a = sep then [a] :: cut sep l
      else
        match cut sep l with
        | [] => [[a]]
        | line :: lines => (a :: line) :: lines

theorem first_append_others (sep : α) (l : List α) : first sep l ++ others sep l = l := by
  unfold first others
  rw [List.append_assoc, List.take_append_drop, List.takeWhile_append_dropWhile]

theorem first_ne_nil (sep : α) {l : List α} (h : l ≠ []) : first sep l ≠ [] := by
  intro hnil
  obtain ⟨a, l, rfl⟩ := List.exists_cons_of_ne_nil h
  by_cases ha : a = sep <;> simp [first, ha] at hnil

/-- A line that has its separator ends with it. -/
theorem first_append {l : List α} (h : sep ∉ l) (m : List α) :
    first sep (l ++ sep :: m) = l ++ [sep] ∧ others sep (l ++ sep :: m) = m := by
  have hall : ∀ a ∈ l, decide (a ≠ sep) = true := by simpa using ne_of_notMem h
  unfold first others
  rw [List.takeWhile_append_of_pos hall, List.dropWhile_append_of_pos hall]
  simp

/-- A line goes on where there is no separator yet. -/
theorem first_append_of_notMem {l : List α} (h : sep ∉ l) (m : List α) :
    first sep (l ++ m) = l ++ first sep m ∧ others sep (l ++ m) = others sep m := by
  have hall : ∀ a ∈ l, decide (a ≠ sep) = true := by simpa using ne_of_notMem h
  unfold first others
  rw [List.takeWhile_append_of_pos hall, List.dropWhile_append_of_pos hall, List.append_assoc]
  exact ⟨rfl, rfl⟩

/-- The lines are the first one and those of the rest. -/
theorem cut_of_ne_nil {l : List α} (h : l ≠ []) :
    cut sep l = first sep l :: cut sep (others sep l) := by
  induction l with
  | nil => exact absurd rfl h
  | cons a l ih =>
      by_cases ha : a = sep
      · simp [cut, first, others, ha]
      · by_cases hl : l = []
        · simp [cut, first, others, ha, hl]
        · rw [cut, if_neg ha, ih hl]
          simp [first, others, ha]

@[simp] theorem flatten_cut (sep : α) (l : List α) : (cut sep l).flatten = l := by
  induction l with
  | nil => rfl
  | cons a l ih =>
      by_cases ha : a = sep
      · simp [cut, ha, ih]
      · rw [cut, if_neg ha]
        split
        next hnil =>
          rw [hnil] at ih
          simp [← ih]
        next line lines hcons =>
          rw [hcons] at ih
          simp [← ih]

/-- Every line but the last has its separator. -/
theorem getLast?_of_mem_dropLast_cut (l : List α) :
    ∀ line ∈ (cut sep l).dropLast, line.getLast? = some sep := by
  induction l with
  | nil => simp [cut]
  | cons a l ih =>
      intro line hline
      by_cases ha : a = sep
      · rw [cut, if_pos ha] at hline
        rcases hcut : cut sep l with _ | ⟨first, more⟩
        · simp [hcut] at hline
        · rw [hcut, List.dropLast_cons_of_ne_nil (List.cons_ne_nil _ _), List.mem_cons] at hline
          rcases hline with rfl | hline
          · simp [ha]
          · exact ih line (hcut ▸ hline)
      · rw [cut, if_neg ha] at hline
        rcases hcut : cut sep l with _ | ⟨first, _ | ⟨second, more⟩⟩
        · simp [hcut] at hline
        · simp [hcut] at hline
        · -- what is put in front of a line does not change its end
          simp only [hcut] at hline
          rw [hcut, List.dropLast_cons_of_ne_nil (List.cons_ne_nil _ _)] at ih
          rw [List.dropLast_cons_of_ne_nil (List.cons_ne_nil _ _), List.mem_cons] at hline
          rcases hline with rfl | hline
          · rw [List.getLast?_cons, ih first List.mem_cons_self]
            rfl
          · exact ih line (List.mem_cons_of_mem _ hline)

/-- The lines up to some place are all the lines of what they hold. -/
theorem cut_flatten_of_append {l : List α} {front back : List (List α)}
    (h : cut sep l = front ++ back) : cut sep front.flatten = front := by
  induction l generalizing front with
  | nil =>
      rw [(List.append_eq_nil_iff.1 h.symm).1]
      rfl
  | cons a l ih =>
      cases front with
      | nil => rfl
      | cons line front =>
          by_cases ha : a = sep
          · rw [cut, if_pos ha, List.cons_append] at h
            obtain ⟨rfl, hrest⟩ := List.cons.inj h
            rw [List.flatten_cons, List.singleton_append, cut, if_pos ha, ih hrest]
          · rw [cut, if_neg ha] at h
            cases hcut : cut sep l with
            | nil =>
                rw [hcut, List.cons_append] at h
                obtain ⟨rfl, hrest⟩ := List.cons.inj h
                rw [(List.append_eq_nil_iff.1 hrest.symm).1]
                simp [cut, ha]
            | cons first more =>
                -- the first line without its first character is one of `l`
                rw [hcut, List.cons_append] at h
                obtain ⟨rfl, hrest⟩ := List.cons.inj h
                have hfront : cut sep (first :: front).flatten = first :: front := by
                  apply ih
                  rw [hcut, hrest]
                  rfl
                rw [List.flatten_cons] at hfront
                rw [List.flatten_cons, List.cons_append, cut, if_neg ha, hfront]

/-- A line is cut off behind its separator. -/
theorem cut_append {l : List α} (h : sep ∉ l) (m : List α) :
    cut sep (l ++ sep :: m) = (l ++ [sep]) :: cut sep m := by
  rw [cut_of_ne_nil (List.append_ne_nil_of_right_ne_nil _ (List.cons_ne_nil _ _)),
    (first_append h m).1, (first_append h m).2]

/-- Lines that have their separators are cut apart again, whatever follows
them. -/
theorem cut_flatten_append {lines : List (List α)}
    (h : ∀ line ∈ lines, ∃ l, sep ∉ l ∧ line = l ++ [sep]) (m : List α) :
    cut sep (lines.flatten ++ m) = lines ++ cut sep m := by
  induction lines with
  | nil => rfl
  | cons line lines ih =>
      obtain ⟨⟨l, hl, rfl⟩, hmore⟩ := List.forall_mem_cons.1 h
      rw [List.flatten_cons, List.append_assoc, List.append_assoc, List.singleton_append,
        cut_append hl, ih hmore, List.cons_append]

example : cut '\n' ['a', '\n', '\n', 'b'] = [['a', '\n'], ['\n'], ['b']] := by decide

end Cut

/-! ## §2. The lines of a text and those of its bytes. -/

/-- The bytes of a character that takes several are none of ASCII. -/
theorem le_toNat_of_mem_utf8EncodeChar {c : Char} (hc : 128 ≤ c.val.toNat) {b : UInt8}
    (hb : b ∈ String.utf8EncodeChar c) : 128 ≤ b.toNat := by
  simp only [String.utf8EncodeChar] at hb
  split at hb
  · omega
  · split at hb
    · simp only [List.mem_cons, List.not_mem_nil, or_false] at hb
      rcases hb with rfl | rfl <;> rw [UInt8.toNat_ofNat'] <;> omega
    · split at hb
      · simp only [List.mem_cons, List.not_mem_nil, or_false] at hb
        rcases hb with rfl | rfl | rfl <;> rw [UInt8.toNat_ofNat'] <;> omega
      · simp only [List.mem_cons, List.not_mem_nil, or_false] at hb
        rcases hb with rfl | rfl | rfl | rfl <;> rw [UInt8.toNat_ofNat'] <;> omega

/-- Only the line feed is written with the byte of the line feed. -/
theorem lineFeed_mem_utf8EncodeChar {c : Char} :
    Feed.lineFeed ∈ String.utf8EncodeChar c ↔ c = '\n' := by
  constructor
  · intro h
    by_cases hc : 128 ≤ c.val.toNat
    · exact absurd (le_toNat_of_mem_utf8EncodeChar hc h) (by decide)
    · have hten : c.val.toNat = 10 := by
        simp only [String.utf8EncodeChar] at h
        rw [if_pos (by omega), List.mem_singleton] at h
        have := congrArg UInt8.toNat h
        rw [UInt8.toNat_ofNat'] at this
        have hlf : Feed.lineFeed.toNat = 10 := rfl
        omega
      exact Char.ext (UInt32.toNat_inj.1 hten)
  · rintro rfl
    decide

theorem lineFeed_mem_encode {t : Text} : Feed.lineFeed ∈ Utf8.encode t ↔ '\n' ∈ t := by
  simp [Utf8.encode, lineFeed_mem_utf8EncodeChar]

/-- Cutting at a line feed does not mind whether characters or bytes are
cut. -/
theorem first_encode (t : Text) :
    first Feed.lineFeed (Utf8.encode t) = Utf8.encode (first '\n' t)
      ∧ others Feed.lineFeed (Utf8.encode t) = Utf8.encode (others '\n' t) := by
  by_cases h : '\n' ∈ t
  · obtain ⟨l, m, rfl, hl⟩ := List.eq_append_cons_of_mem h
    have hbytes : Feed.lineFeed ∉ Utf8.encode l := fun hmem => hl (lineFeed_mem_encode.1 hmem)
    have hsplit : Utf8.encode (l ++ '\n' :: m)
        = Utf8.encode l ++ Feed.lineFeed :: Utf8.encode m := by
      rw [Utf8.encode_append, Utf8.encode_cons]
      rfl
    rw [hsplit, (first_append hbytes _).1, (first_append hbytes _).2, (first_append hl m).1,
      (first_append hl m).2, Utf8.encode_append]
    exact ⟨rfl, rfl⟩
  · have hbytes : Feed.lineFeed ∉ Utf8.encode t := fun hmem => h (lineFeed_mem_encode.1 hmem)
    have hb := first_append_of_notMem hbytes []
    have ht := first_append_of_notMem h []
    rw [List.append_nil] at hb ht
    rw [hb.1, hb.2, ht.1, ht.2, Utf8.encode_append]
    exact ⟨rfl, rfl⟩

/-- The lines of the bytes are the bytes of the lines. -/
theorem cut_encode (t : Text) :
    cut Feed.lineFeed (Utf8.encode t) = (cut '\n' t).map Utf8.encode := by
  -- by the length of the text, of which every line takes some
  induction hn : t.length using Nat.strongRecOn generalizing t with
  | _ n ih =>
    by_cases hnil : t = []
    · rw [hnil]
      rfl
    · have hlen := congrArg List.length (first_append_others '\n' t)
      have hpos := List.length_pos_iff.2 (first_ne_nil '\n' hnil)
      rw [List.length_append] at hlen
      rw [cut_of_ne_nil (Utf8.encode_ne_nil hnil), cut_of_ne_nil hnil, List.map_cons,
        (first_encode t).1, (first_encode t).2, ih (others '\n' t).length (by omega) _ rfl]

/-- **Bytes are UTF-8 if and only if each of their lines is**: cutting behind
line feeds cuts no character in two, and lines that are spoilt do not make up
for each other. -/
theorem isWellFormed_iff_lines {bs : List UInt8} :
    Utf8.IsWellFormed bs ↔ ∀ line ∈ cut Feed.lineFeed bs, Utf8.IsWellFormed line := by
  constructor
  · intro h
    obtain ⟨t, rfl⟩ := Utf8.isWellFormed_iff.1 h
    rw [cut_encode]
    intro line hline
    obtain ⟨u, -, rfl⟩ := List.mem_map.1 hline
    exact Utf8.isWellFormed_encode u
  · intro h
    rw [← flatten_cut Feed.lineFeed bs]
    exact Utf8.isWellFormed_flatten h

/-- The lines before the first one that is not UTF-8. -/
def sound (bs : List UInt8) : List (List UInt8) :=
  (cut Feed.lineFeed bs).takeWhile (fun line => Utf8.IsWellFormed line)

/-- The first line decides whether there is a sound one. -/
theorem sound_of_ne_nil {bs : List UInt8} (h : bs ≠ []) :
    sound bs = if Utf8.IsWellFormed (first Feed.lineFeed bs)
      then first Feed.lineFeed bs :: sound (others Feed.lineFeed bs) else [] := by
  rw [sound, cut_of_ne_nil h, List.takeWhile_cons]
  simp only [decide_eq_true_eq, sound]

theorem isWellFormed_iff_first {bs : List UInt8} (h : bs ≠ []) :
    Utf8.IsWellFormed bs ↔ Utf8.IsWellFormed (first Feed.lineFeed bs)
      ∧ Utf8.IsWellFormed (others Feed.lineFeed bs) := by
  rw [isWellFormed_iff_lines, cut_of_ne_nil h, List.forall_mem_cons, ← isWellFormed_iff_lines]

theorem sound_of_isWellFormed {bs : List UInt8} (h : Utf8.IsWellFormed bs) :
    sound bs = cut Feed.lineFeed bs := by
  rw [sound, List.takeWhile_eq_self_iff]
  simpa using isWellFormed_iff_lines.1 h

/-- Behind the sound lines of bytes that are not UTF-8 stands one that is
not. -/
theorem exists_bad {bs : List UInt8} (h : ¬ Utf8.IsWellFormed bs) :
    ∃ bad later, cut Feed.lineFeed bs = sound bs ++ bad :: later ∧ ¬ Utf8.IsWellFormed bad := by
  cases hrest : (cut Feed.lineFeed bs).dropWhile (fun line => Utf8.IsWellFormed line) with
  | nil =>
      refine absurd (isWellFormed_iff_lines.2 ?_) h
      simpa using List.dropWhile_eq_nil_iff.1 hrest
  | cons bad later =>
      refine ⟨bad, later, ?_, ?_⟩
      · rw [sound, ← hrest, List.takeWhile_append_dropWhile]
      · have := List.head?_dropWhile_not (fun line => decide (Utf8.IsWellFormed line))
          (cut Feed.lineFeed bs)
        rw [hrest] at this
        simpa using this

end Lines

end LineLexer
