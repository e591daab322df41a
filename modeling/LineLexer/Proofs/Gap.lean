/-
  LineLexer.Proofs.Gap
  ────────────────────
  **A GAP IS CROSSED IN STEPS.**

  The gap in front of a text is the trivia up to where no further trivia
  begins.  It is crossed piece by piece; and a scanner, which holds one line
  at a time, crosses it line by line as well, so that a run of blanks over
  several lines comes to several pieces.  It ends in the same place:

      IsGap                 — the gap, told by what stands on its two sides
      Crossing              — pieces cut off one by one, until none is left
      Crossing.exists_front — together they are the gap
      skipLines             — one line after the other, until one is not used up
      skipLines_eq          — whose ends do not show
      offset_seek           — and that is how far a scanner seeks

  Lines end behind line feeds, which are blanks and belong to no comment.  So
  the end of a line cuts a run of blanks at most, and the grammar, which knows
  the blanks one by one, does not see the cut.
-/
import Mathlib.Algebra.Ring.Nat
import LineLexer.Proofs.Bounds

namespace LineLexer

namespace Trivia

/-! ## §1. Gaps. -/

/-- The gap in front of the text is so many bytes long. -/
structure IsGap (n : Nat) (t : Text) : Prop where
  /-- It is made of whole characters of the text. -/
  boundary : Utf8.IsBoundary n t
  /-- They are trivia where they stand: a comment among them reaches up to
  the next line break, or to the end of the text. -/
  trivia : IsTrivia (Utf8.takeBytes n t) (Utf8.dropBytes n t)
  /-- No further trivia begins behind them. -/
  stop : Stops isTriviaStart (Utf8.dropBytes n t)

theorem isGap_append {w rest : Text} (hw : IsTrivia w rest) (hr : Stops isTriviaStart rest) :
    IsGap (Utf8.size w) (w ++ rest) := by
  constructor
  · exact Utf8.isBoundary_append w rest
  · rw [Utf8.takeBytes_size_append, Utf8.dropBytes_size_append]
    exact hw
  · rw [Utf8.dropBytes_size_append]
    exact hr

/-- **There is one gap in front of a text, and that is what is skipped.** -/
theorem isGap_iff {n : Nat} {t : Text} : IsGap n t ↔ n = skip t := by
  constructor
  · intro h
    have hskip := skip_append h.trivia h.stop
    rw [Utf8.takeBytes_append_dropBytes] at hskip
    rw [hskip]
    exact h.boundary.symm
  · intro h
    obtain ⟨w, rest, rfl, hw, hr⟩ := exists_trivia_front t
    rw [h, skip_append hw hr]
    exact isGap_append hw hr

/-! ## §2. Piece by piece. -/

/-- Pieces of trivia are cut off a text one after the other, until none is
left: the lengths of the pieces, and the text behind them. -/
inductive Crossing : Text → List Nat → Text → Prop where
  /-- No piece is in front. -/
  | done {t : Text} (h : pieceLength? t = none) : Crossing t [] t
  /-- A piece is cut off, and then the others. -/
  | piece {t rest : Text} {n : Nat} {ns : List Nat} (hn : pieceLength? t = some n)
      (h : Crossing (Utf8.dropBytes n t) ns rest) : Crossing t (n :: ns) rest

/-- **Cutting pieces off comes to an end.** -/
theorem exists_crossing (t : Text) : ∃ ns rest, Crossing t ns rest := by
  fun_induction skip t with
  | case1 t hnone => exact ⟨[], t, .done hnone⟩
  | case2 t n hn ih =>
      obtain ⟨ns, rest, hcross⟩ := ih
      exact ⟨n :: ns, rest, .piece hn hcross⟩

/-- **The pieces together are the trivia in front.** -/
theorem Crossing.exists_front {t rest : Text} {ns : List Nat} (h : Crossing t ns rest) :
    ∃ w, t = w ++ rest ∧ Utf8.size w = ns.sum ∧ IsTrivia w rest
      ∧ Stops isTriviaStart rest := by
  induction h with
  | @done t hnone => exact ⟨[], rfl, rfl, .nil t, pieceLength?_eq_none_iff.1 hnone⟩
  | @piece t rest n ns hn _ ih =>
      -- the piece is trivia in front of what it leaves, and that begins with the others
      obtain ⟨w, behind, rfl, rfl, -, hw⟩ := exists_piece hn
      rw [Utf8.dropBytes_size_append] at ih
      obtain ⟨v, rfl, hsize, hv, hstop⟩ := ih
      refine ⟨w ++ v, (List.append_assoc w v rest).symm, ?_, hw.append hv, hstop⟩
      rw [Utf8.size_append, hsize, List.sum_cons]

-- A run of blanks is one piece; its lines make two of it.
example : Crossing [' ', '\n', ' ', '#', 'x'] [3, 2] []
    ∧ Crossing [' ', '\n'] [2] [] ∧ Crossing [' ', '#', 'x'] [1, 2] [] :=
  ⟨.piece rfl (.piece rfl (.done rfl)), .piece rfl (.done rfl),
    .piece rfl (.piece rfl (.done rfl))⟩

/-- So every crossing ends where skipping does. -/
theorem Crossing.sum_eq {t rest : Text} {ns : List Nat} (h : Crossing t ns rest) :
    ns.sum = skip t ∧ rest = Utf8.dropBytes (skip t) t := by
  obtain ⟨w, rfl, hsize, hw, hstop⟩ := h.exists_front
  rw [skip_append hw hstop, Utf8.dropBytes_size_append]
  exact ⟨hsize.symm, rfl⟩

/-! ## §3. Line by line. -/

/-- The bytes of trivia in front of lines: the trivia of one line is skipped
after the other, until something is left of a line. -/
def skipLines : List Text → Nat
  | [] => 0
  | line :: lines =>
      if Utf8.dropBytes (skip line) line = [] then skip line + skipLines lines
      else skip line

/-- A line that is trivia is used up, and the next one counts. -/
theorem skipLines_of_trivia {w : Text} (hw : IsTrivia w []) (lines : List Text) :
    skipLines (w :: lines) = Utf8.size w + skipLines lines := by
  rw [skipLines, skip_of_isTrivia hw, if_pos (Utf8.dropBytes_eq_nil_of_size_le (Nat.le_refl _))]

/-- On any other line the gap ends. -/
theorem skipLines_of_lexeme {w rest : Text} (hw : IsTrivia w rest) (hne : rest ≠ [])
    (hr : Stops isTriviaStart rest) (lines : List Text) :
    skipLines ((w ++ rest) :: lines) = Utf8.size w := by
  rw [skipLines, skip_append hw hr, Utf8.dropBytes_size_append, if_neg hne]

/-- Trivia is skipped first, and then what follows it. -/
theorem skip_trivia_append {w t : Text} (hw : IsTrivia w t) :
    skip (w ++ t) = Utf8.size w + skip t := by
  obtain ⟨v, rest, rfl, hv, hr⟩ := exists_trivia_front t
  have hall : IsTrivia (w ++ v) rest := hw.append hv
  rw [← List.append_assoc, skip_append hall hr, skip_append hv hr, Utf8.size_append]

/-- What follows the gap is of no account, if anything follows it. -/
theorem skip_append_append {w rest : Text} (hw : IsTrivia w rest) (hne : rest ≠ [])
    (hr : Stops isTriviaStart rest) (s : Text) :
    skip ((w ++ rest) ++ s) = Utf8.size w := by
  have hstop : Stops isTriviaStart (rest ++ s) := by
    obtain ⟨c, rest, rfl⟩ := List.exists_cons_of_ne_nil hne
    exact stops_cons.2 (stops_cons.1 hr)
  rw [List.append_assoc]
  exact skip_append (hw.of_stops hne hr _) hstop

/-- Only the last line can break off inside a comment; so a line that is trivia
stays so in front of the others. -/
theorem isTrivia_flatten {w : Text} {lines : List Text} (hw : IsTrivia w [])
    (h : ∀ line ∈ (w :: lines).dropLast, line.getLast? = some '\n') :
    IsTrivia w lines.flatten ∧ ∀ line ∈ lines.dropLast, line.getLast? = some '\n' := by
  cases lines with
  | nil => exact ⟨hw, fun _ hmem => absurd hmem List.not_mem_nil⟩
  | cons next lines =>
      rw [List.dropLast_cons_of_ne_nil (List.cons_ne_nil next lines)] at h
      obtain ⟨hlast, hmore⟩ := List.forall_mem_cons.1 h
      refine ⟨hw.of_getLast? ?_ _, hmore⟩
      rw [hlast]
      intro b hb
      cases hb
      rfl

/-- **The ends of the lines do not show**, if the lines do end. -/
theorem skipLines_eq {lines : List Text}
    (h : ∀ line ∈ lines.dropLast, line.getLast? = some '\n') :
    skipLines lines = skip lines.flatten := by
  -- over the lines, as long as they are used up
  induction lines with
  | nil => exact (skip_of_stops (stops_nil _)).symm
  | cons line lines ih =>
      obtain ⟨w, rest, rfl, hw, hr⟩ := exists_trivia_front line
      rw [List.flatten_cons]
      by_cases hne : rest = []
      · subst hne
        rw [List.append_nil] at h ⊢
        obtain ⟨hbears, hmore⟩ := isTrivia_flatten hw h
        rw [skipLines_of_trivia hw, skip_trivia_append hbears, ih hmore]
      · rw [skipLines_of_lexeme hw hne hr, skip_append_append hw hne hr]

/-- It does not matter whether a text is cut into its lines first. -/
theorem skipLines_cut (t : Text) : skipLines (Lines.cut '\n' t) = skip t := by
  rw [skipLines_eq (Lines.getLast?_of_mem_dropLast_cut t), Lines.flatten_cut]

end Trivia

/-! ## §4. How far a scanner seeks. -/

namespace Scanner

variable {s : Scanner}

theorem skipLines_of_not_isUsedUp (h : ¬ s.IsUsedUp) (hs : s.IsPlaced) (lines : List Text) :
    Trivia.skipLines (s.remainder :: lines) = Trivia.skip s.remainder := by
  obtain ⟨before, text, hat⟩ := hs
  obtain ⟨w, rest, rfl, hw, hr⟩ := exists_trivia_front text
  have hne : rest ≠ [] := by
    intro hnil
    subst hnil
    rw [List.append_nil] at hat
    exact h (hat.isUsedUp hw)
  rw [hat.remainder, Trivia.skipLines_of_lexeme hw hne hr, Trivia.skip_append hw hr]

theorem skipLines_of_isUsedUp (h : s.IsUsedUp) (hs : s.IsPlaced) (lines : List Text) :
    s.offset + Trivia.skipLines (s.remainder :: lines)
      = s.lineStart + Utf8.size s.line + Trivia.skipLines lines := by
  obtain ⟨before, text, hat⟩ := hs
  obtain ⟨w, rest, rfl, hw, hr⟩ := exists_trivia_front text
  have hnil : rest = [] := by
    unfold IsUsedUp at h
    rwa [hat.remainder, Trivia.skip_append hw hr, hat.advance.remainder] at h
  subst hnil
  rw [hat.remainder, hat.offset, List.append_nil, Trivia.skipLines_of_trivia hw, Nat.add_assoc]

/-- **Seeking crosses the gap in front of what is left of the line and of the
lines to come**, whether it ends at a lexeme, at the end of the source or at a
line that cannot be read. -/
theorem offset_seek (h : s.IsPlaced) :
    s.seek.scanner.offset = s.offset + Trivia.skipLines (s.remainder :: s.feed.lines) := by
  fun_induction seek s with
  | case1 s moved hne =>
      rw [skipLines_of_not_isUsedUp hne h]
      exact offset_advance _ s
  | case2 s moved hnil text feed hread loaded sought ih =>
      -- the next line is crossed from its first character
      have hlines : s.feed.lines = text :: feed.lines := (Feed.lines_of_line hread).1
      have hleft : loaded.remainder = text := remainder_load text feed moved
      rw [skipLines_of_isUsedUp (not_ne_iff.1 hnil) h, hlines]
      rw [hleft] at ih
      exact ih ⟨[], text, isAt_load moved text feed⟩
  | case3 s moved hnil feed hread ended =>
      have hlines : s.feed.lines = [] := (Feed.lines_of_finished hread).1
      rw [skipLines_of_isUsedUp (not_ne_iff.1 hnil) h, hlines]
      rfl
  | case4 s moved hnil cause feed hread failed error =>
      have hlines : s.feed.lines = [] := (Feed.lines_of_failed hread).1
      rw [skipLines_of_isUsedUp (not_ne_iff.1 hnil) h, hlines]
      rfl

/-- So a scanner that begins with a text comes to the end of the gap in front
of it, however the text is delivered. -/
theorem offset_seek_ofFeed {feed : Feed} (hfeed : feed.IsClean) {t : Text}
    (ht : feed.bytes = Utf8.encode t) (file? : Option String) :
    (ofFeed feed file?).seek.scanner.offset = Trivia.skip t := by
  have hplaced : (ofFeed feed file?).IsPlaced := ⟨[], [], rfl, rfl⟩
  have hlines : (ofFeed feed file?).feed.lines = Lines.cut '\n' t :=
    (Feed.lines_of_clean hfeed ht).1
  rw [offset_seek hplaced, hlines]
  -- no line has been read yet, and an empty one is used up
  show 0 + Trivia.skipLines ([] :: Lines.cut '\n' t) = _
  rw [Trivia.skipLines_of_trivia (.nil []), Trivia.skipLines_cut, Utf8.size_nil, Nat.zero_add,
    Nat.zero_add]

end Scanner

/-! ## §5. In one step and in many. -/

/-- **Skipping in steps is skipping at once.**  From every text pieces can be
cut off until none is left, and however that is done, as much is cut off as
is skipped: the one gap in front of the text.  It is skipped line by line as
well, by whoever cuts the text into its lines and by a scanner that is given
it in any number of reads.  And every piece is a cut of the text. -/
theorem skip_in_steps (t : Text) :
    let n := Trivia.skip t
    (∃ ns, Trivia.Crossing t ns (Utf8.dropBytes n t))
      ∧ (∀ ns rest, Trivia.Crossing t ns rest → ns.sum = n ∧ rest = Utf8.dropBytes n t)
      ∧ (∀ m, Trivia.IsGap m t ↔ m = n)
      ∧ Trivia.skipLines (Lines.cut '\n' t) = n
      ∧ (∀ (feed : Feed) (file? : Option String), feed.IsClean → feed.bytes = Utf8.encode t →
          (Scanner.ofFeed feed file?).seek.scanner.offset = n)
      ∧ ∀ m, Trivia.pieceLength? t = some m → Utf8.IsCut m t := by
  intro n
  have hcross : ∀ ns rest, Trivia.Crossing t ns rest →
      ns.sum = n ∧ rest = Utf8.dropBytes n t := fun _ _ h => h.sum_eq
  refine ⟨?_, hcross, fun _ => Trivia.isGap_iff, Trivia.skipLines_cut t, ?_, ?_⟩
  · obtain ⟨ns, rest, h⟩ := Trivia.exists_crossing t
    rw [(hcross ns rest h).2] at h
    exact ⟨ns, h⟩
  · intro feed file? hclean hbytes
    exact Scanner.offset_seek_ofFeed hclean hbytes file?
  · intro m hm
    exact Trivia.isCut hm

end LineLexer
