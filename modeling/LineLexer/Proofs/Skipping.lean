/-
  LineLexer.Proofs.Skipping
  ─────────────────────────
  **TRIVIA IS SKIPPED WHOLE.**

  `Trivia.skip` cuts off one run of blanks or one comment after the other.
  The grammar knows blanks and comments one by one, and does not ask for runs
  to be cut at their ends.  The two agree:

      skip_append          — all the trivia in front of a lexeme is skipped
      exists_trivia_front  — every text begins with trivia, perhaps none,
                             behind which no further trivia begins
      IsTrivia.unique      — and there is only one way to cut it so
-/
import LineLexer.Proofs.Grammar

namespace LineLexer

namespace Trivia

/-! ## §1. One piece. -/

theorem pieceLength?_of_piece {t w : Text} (hw : piece t = w) (hne : w ≠ []) :
    pieceLength? t = some (Utf8.size w) :=
  pieceLength?_eq_some_iff.2 ⟨hw ▸ hne, by rw [hw]⟩

/-- Skipping goes on behind the first piece. -/
theorem skip_of_piece {w t : Text} (hw : piece (w ++ t) = w) (hne : w ≠ []) :
    skip (w ++ t) = Utf8.size w + skip t := by
  rw [skip]
  split
  next h => simp [pieceLength?_of_piece hw hne] at h
  next n h =>
    rw [pieceLength?_of_piece hw hne] at h
    cases h
    rw [Utf8.dropBytes_size_append]

/-- There is a piece of trivia exactly where trivia begins. -/
theorem pieceLength?_eq_none_iff {t : Text} :
    pieceLength? t = none ↔ Stops isTriviaStart t := by
  cases t with
  | nil => exact ⟨fun _ => stops_nil _, fun _ => rfl⟩
  | cons c t =>
      rw [stops_cons]
      by_cases hc : c = '#'
      · simp [pieceLength?, piece, isTriviaStart, hc]
      · cases hb : isBlank c <;> simp [pieceLength?, piece, isTriviaStart, hc, hb]

/-- Where no trivia begins, nothing is skipped. -/
theorem skip_of_stops {t : Text} (h : Stops isTriviaStart t) : skip t = 0 := by
  have hp := pieceLength?_eq_none_iff.2 h
  rw [skip]
  split
  next => rfl
  next h' => simp [hp] at h'

/-! ## §2. One blank, or one comment. -/

theorem piece_blank {c : Char} {t : Text} (hc : isBlank c) :
    piece (c :: t) = c :: t.takeWhile isBlank := by
  have hne : c ≠ '#' := by
    rintro rfl
    exact absurd hc (by decide)
  simp [piece, hne, hc]

/-- A run of blanks is skipped blank by blank. -/
theorem skip_blank {c : Char} {t : Text} (hc : isBlank c) :
    skip (c :: t) = c.utf8Size + skip t := by
  have hrun : skip (c :: t)
      = Utf8.size (c :: t.takeWhile isBlank) + skip (t.dropWhile isBlank) := by
    have hpiece : piece ((c :: t.takeWhile isBlank) ++ t.dropWhile isBlank)
        = c :: t.takeWhile isBlank := by
      rw [List.cons_append, List.takeWhile_append_dropWhile, piece_blank hc]
    rw [← skip_of_piece hpiece (List.cons_ne_nil _ _), List.cons_append,
      List.takeWhile_append_dropWhile]
  rw [hrun, Utf8.size_cons, Nat.add_assoc]
  congr 1
  cases t with
  | nil => simp
  | cons d t =>
      by_cases hd : isBlank d
      · -- the rest of the run is a run itself
        have hpiece : piece ((d :: t.takeWhile isBlank) ++ t.dropWhile isBlank)
            = d :: t.takeWhile isBlank := by
          rw [List.cons_append, List.takeWhile_append_dropWhile, piece_blank hd]
        have := skip_of_piece hpiece (List.cons_ne_nil _ _)
        rw [List.cons_append, List.takeWhile_append_dropWhile] at this
        simp [hd, this]
      · simp [hd]

/-- A comment is skipped up to the line break behind it. -/
theorem skip_comment {body t : Text} (hbody : ∀ c ∈ body, !isLineBreak c)
    (hend : Stops (fun c => !isLineBreak c) t) :
    skip ('#' :: (body ++ t)) = Utf8.size ('#' :: body) + skip t := by
  have hpiece : piece (('#' :: body) ++ t) = '#' :: body := by
    show '#' :: (body ++ t).takeWhile (fun d => !isLineBreak d) = '#' :: body
    rw [takeWhile_append_of_stops hbody hend]
  exact skip_of_piece hpiece (List.cons_ne_nil _ _)

/-! ## §3. All of it. -/

/-- **All the trivia is skipped, and nothing behind it.** -/
theorem skip_append {w rest : Text} (hw : IsTrivia w rest) (hr : Stops isTriviaStart rest) :
    skip (w ++ rest) = Utf8.size w := by
  induction hw with
  | nil => exact skip_of_stops hr
  | blank hc _ ih => rw [List.cons_append, skip_blank hc, ih hr, Utf8.size_cons]
  | @comment body w rest hbody hend _ ih =>
      rw [List.cons_append, List.append_assoc, skip_comment hbody hend, ih hr]
      simp [Nat.add_assoc]

/-- Nothing is left of a text that is trivia. -/
theorem skip_of_isTrivia {w : Text} (hw : IsTrivia w []) : skip w = Utf8.size w := by
  have hskip := skip_append hw (stops_nil _)
  rwa [List.append_nil] at hskip

end Trivia

/-- One piece is trivia where it stands. -/
theorem isTrivia_piece {t rest : Text} (h : t = Trivia.piece t ++ rest) :
    IsTrivia (Trivia.piece t) rest := by
  cases t with
  | nil => exact .nil rest
  | cons c t =>
      by_cases hc : c = '#'
      · -- a comment leaves off at the line break behind it
        subst hc
        have hpiece : Trivia.piece ('#' :: t) = '#' :: t.takeWhile (fun d => !isLineBreak d) := rfl
        rw [hpiece, List.cons_append] at h
        have hrest : rest = t.dropWhile (fun d => !isLineBreak d) := by
          have hsplit := List.takeWhile_append_dropWhile (p := fun d => !isLineBreak d) (l := t)
          exact (List.append_cancel_left (hsplit.trans (List.cons.inj h).2)).symm
        rw [hpiece, ← List.append_nil (t.takeWhile _)]
        refine .comment (fun d hd => List.all_eq_true.1 List.all_takeWhile d hd) ?_ (.nil rest)
        rw [hrest]
        exact stops_dropWhile _ t
      · have hpiece : Trivia.piece (c :: t) = (c :: t).takeWhile isBlank := if_neg hc
        rw [hpiece]
        exact isTrivia_of_blanks (fun d hd => List.all_eq_true.1 List.all_takeWhile d hd) rest

/-- A length that is found is that of some trivia in front. -/
theorem Trivia.exists_piece {t : Text} {n : Nat} (h : pieceLength? t = some n) :
    ∃ w rest, t = w ++ rest ∧ n = Utf8.size w ∧ w ≠ [] ∧ IsTrivia w rest := by
  obtain ⟨hne, rfl⟩ := pieceLength?_eq_some_iff.1 h
  obtain ⟨rest, hrest⟩ := piece_isPrefix t
  exact ⟨piece t, rest, hrest.symm, rfl, hne, isTrivia_piece hrest.symm⟩

/-- Every text begins with trivia, and then with something else. -/
theorem exists_trivia_front (t : Text) :
    ∃ w rest, t = w ++ rest ∧ IsTrivia w rest ∧ Stops isTriviaStart rest := by
  -- by the length of the text, since a comment takes many characters at once
  induction hn : t.length using Nat.strongRecOn generalizing t with
  | _ n ih =>
    cases t with
    | nil => exact ⟨[], [], rfl, .nil [], stops_nil _⟩
    | cons c t =>
        by_cases hb : isBlank c
        · obtain ⟨w, rest, rfl, hw, hr⟩ := ih t.length (by simp [← hn]) t rfl
          exact ⟨c :: w, rest, rfl, .blank hb hw, hr⟩
        by_cases hh : c = '#'
        · -- the comment takes all that is no line break
          subst hh
          have hlen := (List.dropWhile_suffix (l := t) (fun d => !isLineBreak d)).length_le
          obtain ⟨w, rest, hsplit, hw, hr⟩ :=
            ih (t.dropWhile (fun d => !isLineBreak d)).length
              (by rw [← hn, List.length_cons]; omega) _ rfl
          refine ⟨'#' :: (t.takeWhile (fun d => !isLineBreak d) ++ w), rest, ?_, ?_, hr⟩
          · rw [List.cons_append, List.append_assoc, ← hsplit, List.takeWhile_append_dropWhile]
          · refine .comment (fun d hd => ?_) ?_ hw
            · exact List.all_eq_true.1 List.all_takeWhile d hd
            · rw [← hsplit]
              exact stops_dropWhile _ t
        · refine ⟨[], c :: t, rfl, .nil _, stops_cons.2 ?_⟩
          simp [isTriviaStart, hb, hh]

/-- There is one way to cut the trivia off. -/
theorem IsTrivia.unique {w v r s : Text} (hw : IsTrivia w r) (hr : Stops isTriviaStart r)
    (hv : IsTrivia v s) (hs : Stops isTriviaStart s) (h : w ++ r = v ++ s) :
    w = v ∧ r = s := by
  -- either way as many bytes are skipped
  have hsize : Utf8.size w = Utf8.size v := by
    rw [← Trivia.skip_append hw hr, ← Trivia.skip_append hv hs, h]
  exact Utf8.append_inj_of_size h hsize

end LineLexer
