/-
  LineLexer.Proofs.Steps
  ──────────────────────
  **A SCANNER GOES STEP BY STEP.**

  A request does not come upon its token at once.  Trivia under the cursor is
  passed piece by piece; where the line is used up, the next one is read; and
  a lexeme under the cursor is matched.  A run is any number of such steps,
  with the records that they leave, the lines that they read and the tokens
  that they give:

      Step      — one step
      Run       — steps, one behind the other
      seek_run  — seeking is a run that gives no token and goes as far as one
                  can without
      next_run  — a request is a run that gives its token
      ask_run   — and so are any requests

  What every step keeps is therefore kept by whatever is asked of a scanner.
-/
import LineLexer.Proofs.Requests

namespace LineLexer

open Log (Record)

namespace Reply

/-- The token of a lexeme that was matched. -/
def matched? : Reply → Option Token
  | token t => if t.isEnd then none else some t
  | failure _ => none

theorem matched?_token {t : Token} (h : t.isEnd = false) : (token t).matched? = some t := by
  simp [matched?, h]

theorem matched?_of_isLast {r : Reply} (h : r.isLast) : r.matched? = none := by
  cases r with
  | token t => exact if_pos h
  | failure e => rfl

end Reply

namespace Scanner

/-! ## §1. Steps. -/

/-- One step of a scanner that has not stopped: the records that it leaves, the
lines that it reads, the tokens that it gives, and the scanner behind it. -/
inductive Step (s : Scanner) : List Record → List Text → List Token → Scanner → Prop where
  /-- A piece of trivia is passed. -/
  | piece {n : Nat} (hs : s.phase = .scanning) (h : Trivia.pieceLength? s.remainder = some n) :
      Step s [] [] [] (s.advance n)
  /-- The line is used up, and the next one is read. -/
  | line {t : Text} {feed : Feed} (hs : s.phase = .scanning) (hend : Utf8.size s.line ≤ s.pos)
      (hread : Feed.nextLine s.feed = (.line t, feed)) :
      Step s [.lineRead (Utf8.size t) s.file (s.lineStart + Utf8.size s.line)] [t] []
        (s.load t feed)
  /-- The line is used up, and there is no other one. -/
  | finished {feed : Feed} (hs : s.phase = .scanning) (hend : Utf8.size s.line ≤ s.pos)
      (hread : Feed.nextLine s.feed = (.finished, feed)) :
      Step s [.ended s.file (s.lineStart + Utf8.size s.line)] [] []
        (s.finish feed)
  /-- The line is used up, and the next one cannot be read. -/
  | failed {cause : ReadFailure} {feed : Feed} (hs : s.phase = .scanning)
      (hend : Utf8.size s.line ≤ s.pos) (hread : Feed.nextLine s.feed = (.failed cause, feed)) :
      Step s [.readFailed s.file (s.lineStart + Utf8.size s.line) cause] [] []
        (s.fail cause feed)
  /-- A lexeme is matched. -/
  | lexeme {t : Token} (hs : s.phase = .scanning) (hne : s.remainder ≠ [])
      (hstop : Trivia.pieceLength? s.remainder = none) (ht : s.take.result = .token t) :
      Step s s.take.records [] [t] s.take.scanner

/-- Steps, one behind the other. -/
inductive Run : Scanner → List Record → List Text → List Token → Scanner → Prop where
  /-- No step at all. -/
  | nil (s : Scanner) : Run s [] [] [] s
  /-- A step, and the steps behind it. -/
  | cons {s mid u : Scanner} {records records' : List Record} {lines lines' : List Text}
      {ts ts' : List Token} (h : s.Step records lines ts mid)
      (hrun : Run mid records' lines' ts' u) :
      Run s (records ++ records') (lines ++ lines') (ts ++ ts') u

variable {s mid u : Scanner} {records records' : List Record} {lines lines' : List Text}
  {ts ts' : List Token}

theorem Step.run (h : s.Step records lines ts u) : s.Run records lines ts u := by
  simpa using Run.cons h (.nil u)

/-- One run behind the other. -/
theorem Run.append (h : s.Run records lines ts mid) (h' : mid.Run records' lines' ts' u) :
    s.Run (records ++ records') (lines ++ lines') (ts ++ ts') u := by
  induction h with
  | nil => exact h'
  | cons hstep _ ih =>
      simp only [List.append_assoc]
      exact .cons hstep (ih h')

/-- The cursor stands between two characters of its line. -/
def IsPlaced (s : Scanner) : Prop :=
  ∃ before rest, s.IsAt before rest

/-- A piece under the cursor is the first part of what is left. -/
theorem IsAt.exists_piece {before text : Text} (h : s.IsAt before text) {n : Nat}
    (hn : Trivia.pieceLength? s.remainder = some n) :
    ∃ w rest : Text, text = w ++ rest ∧ n = Utf8.size w ∧ w ≠ [] ∧ IsTrivia w rest := by
  rw [h.remainder] at hn
  exact Trivia.exists_piece hn

/-- A lexeme under the cursor is matched whole. -/
theorem IsAt.exists_lexeme {before text : Text} (h : s.IsAt before text)
    (hne : s.remainder ≠ []) (hstop : Trivia.pieceLength? s.remainder = none) :
    ∃ k l rest, text = l ++ rest ∧ IsLexeme k l ∧ s.take =
      { result := .token ⟨k, some l, .within s.file s.offset (s.offset + Utf8.size l)⟩
        records := [.matched k l k.rule s.offset (s.offset + Utf8.size l)]
        scanner := { s.advance (Utf8.size l) with lastLexeme? := some l } } := by
  rw [h.remainder] at hne hstop
  obtain ⟨k, l, rest, rfl, hl, hmax⟩ :=
    exists_lexeme_front hne (Trivia.pieceLength?_eq_none_iff.1 hstop)
  exact ⟨k, l, rest, rfl, hl, take_of_lexeme h hl hmax⟩

/-- **Every step leaves the cursor between two characters.** -/
theorem IsPlaced.step (h : s.IsPlaced) (hstep : s.Step records lines ts u) : u.IsPlaced := by
  obtain ⟨before, text, hat⟩ := h
  cases hstep with
  | piece _ hn =>
      obtain ⟨w, rest, rfl, rfl, -⟩ := hat.exists_piece hn
      exact ⟨_, _, hat.advance⟩
  | line => exact ⟨_, _, isAt_load _ _ _⟩
  | finished => exact ⟨[], [], rfl, rfl⟩
  | failed => exact ⟨[], [], rfl, rfl⟩
  | lexeme _ hne hstop =>
      obtain ⟨k, l, rest, rfl, -, htake⟩ := hat.exists_lexeme hne hstop
      rw [htake]
      exact ⟨_, _, hat.advance.line, hat.advance.pos⟩

theorem IsPlaced.run (h : s.IsPlaced) (hrun : s.Run records lines ts u) : u.IsPlaced := by
  induction hrun with
  | nil => exact h
  | cons hstep _ ih => exact ih (h.step hstep)

/-! ## §2. Seeking. -/

/-- All the trivia under the cursor is passed piece by piece. -/
theorem skip_run (hs : s.phase = .scanning) {before text : Text} (h : s.IsAt before text) :
    s.Run [] [] [] (s.advance (Trivia.skip text)) := by
  fun_induction Trivia.skip text generalizing s before with
  | case1 => exact .nil s
  | case2 text n hn ih =>
      have hpiece : Trivia.pieceLength? s.remainder = some n := by rwa [h.remainder]
      obtain ⟨w, rest, rfl, rfl, -⟩ := h.exists_piece hpiece
      rw [Utf8.dropBytes_size_append] at ih ⊢
      have hmore := ih (s := s.advance (Utf8.size w)) hs h.advance
      have hadvance : s.advance (Utf8.size w + Trivia.skip rest)
          = (s.advance (Utf8.size w)).advance (Trivia.skip rest) := by
        simp [advance, Nat.add_assoc]
      rw [hadvance]
      exact .cons (.piece hs hpiece) hmore

/-- Behind the trivia no further piece begins. -/
theorem IsAt.pieceLength?_skip {before text : Text} (h : s.IsAt before text) :
    Trivia.pieceLength? (s.advance (Trivia.skip s.remainder)).remainder = none := by
  obtain ⟨w, rest, rfl, hw, hstop⟩ := exists_trivia_front text
  rw [h.remainder, Trivia.skip_append hw hstop, h.advance.remainder]
  exact Trivia.pieceLength?_eq_none_iff.2 hstop

/-- Where nothing is left of the line, the cursor stands at its end. -/
theorem IsPlaced.size_le (h : s.IsPlaced) (hnil : s.remainder = []) :
    Utf8.size s.line ≤ s.pos := by
  obtain ⟨before, text, hat⟩ := h
  rw [hat.remainder] at hnil
  rw [hat.line, hat.pos, hnil, List.append_nil]

/-- A lexeme is under the cursor. -/
structure HasLexeme (s : Scanner) : Prop where
  /-- Something is left of the line. -/
  ne_nil : s.remainder ≠ []
  /-- It does not begin with trivia. -/
  stop : Trivia.pieceLength? s.remainder = none

/-- **Seeking is a run that gives no token**; it stops where the source does, or
in front of a lexeme. -/
theorem seek_run (hs : s.phase = .scanning) (h : s.IsPlaced) :
    (∃ lines, s.Run s.seek.records lines [] s.seek.scanner)
      ∧ (s.seek.scanner.phase = .scanning → s.seek.scanner.HasLexeme) := by
  have hskip : ∀ s : Scanner, s.phase = .scanning → s.IsPlaced →
      s.Run [] [] [] (s.advance (Trivia.skip s.remainder)) := by
    rintro s hs ⟨before, text, hat⟩
    rw [hat.remainder]
    exact skip_run hs hat
  fun_induction seek s with
  | case1 s moved hne =>
      obtain ⟨before, text, hat⟩ := h
      exact ⟨⟨[], hskip s hs ⟨before, text, hat⟩⟩, fun _ => ⟨hne, hat.pieceLength?_skip⟩⟩
  | case2 s moved hnil text feed hread loaded sought ih =>
      -- the next line is read, and searched in the same way
      have hmoved := hskip s hs h
      have hend := (h.run hmoved).size_le (not_not.1 hnil)
      have hline : moved.Step _ _ _ loaded := .line hs hend hread
      obtain ⟨⟨lines, hrun⟩, hfound⟩ := ih hs ((h.run hmoved).step hline)
      exact ⟨⟨_, hmoved.append (.cons hline hrun)⟩, hfound⟩
  | case3 s moved hnil feed hread ended =>
      have hmoved := hskip s hs h
      have hend := (h.run hmoved).size_le (not_not.1 hnil)
      have hstep : moved.Step _ _ _ ended := .finished hs hend hread
      have hended : ended.phase = .finished := phase_finish hs feed
      refine ⟨⟨_, hmoved.append hstep.run⟩, fun h => ?_⟩
      rw [hended] at h
      cases h
  | case4 s moved hnil cause feed hread failed error =>
      have hmoved := hskip s hs h
      have hend := (h.run hmoved).size_le (not_not.1 hnil)
      have hstep : moved.Step _ _ _ failed := .failed hs hend hread
      exact ⟨⟨_, hmoved.append hstep.run⟩, fun h => Phase.noConfusion h⟩

/-- So a scanner that has sought can do nothing more without a token. -/
theorem not_step_of_hasLexeme (h : s.HasLexeme) : ¬ s.Step records lines [] u := by
  have hlt := pos_lt_of_remainder_ne_nil h.ne_nil
  intro hstep
  cases hstep with
  | piece _ hn =>
      rw [h.stop] at hn
      cases hn
  | line _ hend => omega
  | finished _ hend => omega
  | failed _ hend => omega

theorem not_step_of_stopped (h : s.phase ≠ .scanning) : ¬ s.Step records lines ts u := by
  intro hstep
  cases hstep with
  | piece hs => exact h hs
  | line hs => exact h hs
  | finished hs => exact h hs
  | failed hs => exact h hs
  | lexeme hs => exact h hs

/-! ## §3. Requests. -/

/-- **A request is a run that gives its token.** -/
theorem next_run (h : s.IsPlaced) :
    ∃ lines, s.Run s.next.records lines s.next.result.matched?.toList s.next.scanner := by
  cases hlast : s.lastReply? with
  | some r =>
      rw [next_of_lastReply? hlast, Reply.matched?_of_isLast (isLast_of_lastReply? hlast)]
      exact ⟨[], .nil s⟩
  | none =>
      have hs := lastReply?_eq_none_iff.1 hlast
      obtain ⟨⟨lines, hrun⟩, hfound⟩ := seek_run hs h
      cases hclosed : s.seek.result with
      | some r =>
          rw [next_of_closed hs hclosed, Reply.matched?_of_isLast (isLast_of_seek hclosed)]
          exact ⟨lines, hrun⟩
      | none =>
          have hscanning := lastReply?_eq_none_iff.1 ((lastReply?_seek hs).trans hclosed)
          obtain ⟨hne, hstop⟩ := hfound hscanning
          have hlexeme := Step.lexeme hscanning hne hstop rfl
          have htoken : s.seek.scanner.take.result.matched? = some _ :=
            Reply.matched?_token (isLast_take s.seek.scanner)
          rw [next_of_found hs hclosed, htoken]
          exact ⟨_, hrun.append hlexeme.run⟩

/-- The tokens of one more reply. -/
theorem matched_replies_succ (n : Nat) (s : Scanner) :
    (s.replies (n + 1)).filterMap Reply.matched?
      = s.next.result.matched?.toList ++ (s.next.scanner.replies n).filterMap Reply.matched? := by
  show (s.next.result :: _).filterMap _ = _
  rw [List.filterMap_cons]
  cases s.next.result.matched? <;> rfl

/-- **Any requests are a run**, which gives the tokens that they hand out. -/
theorem ask_run (h : s.IsPlaced) (n : Nat) :
    ∃ lines, s.Run (s.ask n).records lines ((s.replies n).filterMap Reply.matched?)
      (s.ask n).scanner := by
  induction n generalizing s with
  | zero => exact ⟨[], .nil s⟩
  | succ n ih =>
      obtain ⟨lines, hnext⟩ := next_run h
      obtain ⟨lines', hrest⟩ := ih (h.run hnext)
      rw [matched_replies_succ]
      exact ⟨lines ++ lines', hnext.append hrest⟩

theorem serve_run (h : s.IsPlaced) (requests : List Request) :
    let served := s.serve requests
    let given := served.result.flatMap Answer.replies
    ∃ lines, s.Run served.records lines (given.filterMap Reply.matched?) served.scanner := by
  intro served given
  have hask : s.ask given.length = ⟨given, served.records, served.scanner⟩ :=
    s.ask_of_serve requests
  obtain ⟨lines, hrun⟩ := ask_run h given.length
  rw [← result_ask, hask] at hrun
  exact ⟨lines, hrun⟩

theorem isPlaced_ofFeed (feed : Feed) (file? : Option String) : (ofFeed feed file?).IsPlaced :=
  ⟨[], [], rfl, rfl⟩

end Scanner

end LineLexer
