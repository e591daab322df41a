/-
  LineLexer.Proofs.Tally
  ──────────────────────
  **A SCANNER KNOWS WHERE IT STANDS.**

  The offset of a cursor is a sum of two numbers, which change in different
  places: one when a lexeme or trivia is passed, the other when a line is
  used up, and both start afresh where a read comes to nothing.  They tally
  with the lines that were read, whatever was asked of the scanner:

      HasRead       — which lines a scanner has read
      Tally         — how its offset, its line and its phase go with them
      Tally.step    — one step keeps the tally, and covers its way
      Tally.run     — and so does any run, be it of one request or of many
      serve_covers  — the tokens that a scanner gave cover the lines that it
                      read, up to its cursor
-/
import LineLexer.Proofs.Coverage
import LineLexer.Proofs.LastReply
import LineLexer.Proofs.Steps

namespace LineLexer

open Log (Record)

/-! ## §1. Lines that were read. -/

namespace Feed

/-- The lines were read out of the feed, one behind the other, and `rest` is
what is left. -/
inductive Reads (feed : Feed) : List Text → Feed → Prop where
  /-- No line was read yet. -/
  | nil : Reads feed [] feed
  /-- One more line was read. -/
  | line {lines : List Text} {mid rest : Feed} {t : Text} (h : Reads feed lines mid)
      (hread : nextLine mid = (.line t, rest)) : Reads feed (lines ++ [t]) rest

end Feed

namespace Scanner

/-- These are the lines that the scanner has read so far.  Once it has
stopped, its feed has given an end or a failure behind them. -/
def HasRead (feed : Feed) (lines : List Text) (s : Scanner) : Prop :=
  match s.phase with
  | .scanning => feed.Reads lines s.feed
  | .finished => ∃ mid, feed.Reads lines mid ∧ Feed.nextLine mid = (.finished, s.feed)
  | .failed _ cause => ∃ mid, feed.Reads lines mid ∧ Feed.nextLine mid = (.failed cause, s.feed)

/-- The scanner tallies with the lines that it has read from a feed of this
name. -/
structure Tally (feed : Feed) (file : String) (lines : List Text) (s : Scanner) : Prop where
  /-- It knows the name of its source. -/
  file : s.file = file
  /-- It has read the lines. -/
  read : s.HasRead feed lines
  /-- It holds the last of them, or nothing. -/
  held : s.line = [] ∨ lines.getLast? = some s.line
  /-- Its line ends where they end. -/
  total : s.lineStart + Utf8.size s.line = Utf8.size lines.flatten
  /-- Its cursor stands between two characters of its line. -/
  cursor : ∃ before rest, s.IsAt before rest
  /-- Once it has stopped, it holds no line. -/
  closed : s.phase ≠ .scanning → s.line = []
  /-- A failure has its place behind the lines. -/
  failed : ∀ position cause, s.phase = .failed position cause → position = ⟨s.lineStart, s.file⟩

namespace Tally

variable {feed rest : Feed} {file : String} {lines more : List Text} {ts : List Token}
  {records : List Record} {s u : Scanner}

theorem ofFeed (feed : Feed) (file? : Option String) :
    (Scanner.ofFeed feed file?).Tally feed (file?.getD defaultFile) [] where
  file := rfl
  read := .nil
  held := .inl rfl
  total := rfl
  cursor := ⟨[], [], rfl, rfl⟩
  closed := fun h => absurd rfl h
  failed := fun _ _ h => by cases h

theorem reads (h : s.Tally feed file lines) (hs : s.phase = .scanning) :
    feed.Reads lines s.feed := by
  have hread := h.read
  unfold HasRead at hread
  rwa [hs] at hread

/-- The cursor of a scanner that has stopped stands behind all that was read. -/
theorem offset_of_stopped (h : s.Tally feed file lines) (hstopped : s.phase ≠ .scanning) :
    s.offset = Utf8.size lines.flatten := by
  obtain ⟨before, rest, hat⟩ := h.cursor
  -- nothing is left of a line that is empty
  have hrest : rest = [] := (List.append_eq_nil_iff.1 (hat.line.symm.trans (h.closed hstopped))).2
  have := hat.offset
  rw [h.total, hrest] at this
  exact this.symm

/-- The last reply tells where the cursor stands. -/
theorem of_lastReply? (h : s.Tally feed file lines) {r : Reply} (hr : s.lastReply? = some r) :
    s.offset = Utf8.size lines.flatten
      ∧ ∃ failure?, r = .closing file (Utf8.size lines.flatten) failure? := by
  have hstopped : s.phase ≠ .scanning := by
    intro hs
    rw [lastReply?_eq_none_iff.2 hs] at hr
    cases hr
  have hoffset := h.offset_of_stopped hstopped
  refine ⟨hoffset, ?_⟩
  have hstart : s.lineStart = Utf8.size lines.flatten := by
    have := h.total
    rwa [h.closed hstopped] at this
  rw [← hoffset, ← h.file]
  rw [lastReply?_eq] at hr
  cases hphase : s.phase with
  | scanning => exact absurd hphase hstopped
  | finished =>
      rw [hphase] at hr
      exact ⟨none, (Option.some.inj hr).symm⟩
  | failed position cause =>
      rw [hphase] at hr
      refine ⟨some cause, ?_⟩
      rw [← Option.some.inj hr, h.failed position cause hphase, hstart, hoffset]
      rfl

/-- An end stands where the cursor does. -/
theorem stop_of_lastReply? (h : s.Tally feed file lines) {t : Token}
    (ht : s.lastReply? = some (.token t)) : t.span.stop.offset = s.offset := by
  obtain ⟨hoffset, failure?, hclosing⟩ := h.of_lastReply? ht
  cases failure? with
  | none =>
      cases hclosing
      exact hoffset.symm
  | some cause => cases hclosing

/-- A cursor at the end of its line stands where the line ends. -/
theorem offset_of_size_le (h : s.Tally feed file lines) (hend : Utf8.size s.line ≤ s.pos) :
    s.offset = s.lineStart + Utf8.size s.line := by
  obtain ⟨before, rest, hat⟩ := h.cursor
  have hoffset := hat.offset
  unfold offset at hoffset ⊢
  omega

/-! ## §2. Moving on. -/

theorem advance (h : s.Tally feed file lines) {before w rest : Text}
    (hat : s.IsAt before (w ++ rest)) : (s.advance (Utf8.size w)).Tally feed file lines where
  file := h.file
  read := h.read
  held := h.held
  total := h.total
  cursor := ⟨_, _, hat.advance⟩
  closed := h.closed
  failed := h.failed

/-- A line that holds something under the cursor is the last one that was
read. -/
theorem exists_front (h : s.Tally feed file lines) {before t behind : Text}
    (hat : s.IsAt before (t ++ behind)) (hne : t ≠ []) :
    ∃ front, lines = front ++ [s.line] ∧ s.lineStart = Utf8.size front.flatten := by
  have hline : s.line ≠ [] := by
    rw [hat.line]
    simp [hne]
  obtain ⟨front, hfront⟩ := List.getLast?_eq_some_iff.1 (h.held.resolve_left hline)
  have htotal := h.total
  rw [hfront, List.flatten_append, Utf8.size_append, List.flatten_singleton] at htotal
  exact ⟨front, hfront, Nat.add_right_cancel htotal⟩

/-- What is under the cursor stands on the last line that was read. -/
theorem standsAt (h : s.Tally feed file lines) {before t behind : Text}
    (hat : s.IsAt before (t ++ behind)) (hne : t ≠ []) :
    StandsAt lines s.offset t behind := by
  obtain ⟨front, hfront, hstart⟩ := h.exists_front hat hne
  refine ⟨front, before, [], by rw [hfront, hat.line], ?_⟩
  rw [offset, hat.pos, hstart]

/-- The way over trivia. -/
theorem covers_trivia (h : s.Tally feed file lines) {before w behind : Text}
    (hat : s.IsAt before (w ++ behind)) (hw : IsTrivia w behind) :
    Covers file lines s.offset [] (s.offset + Utf8.size w) := by
  by_cases hne : w = []
  · rw [hne]
    exact .nil _
  · exact .trivia (h.standsAt hat hne) hw (.nil _)

theorem load (h : s.Tally feed file lines) (hs : s.phase = .scanning) {t : Text}
    (hread : Feed.nextLine s.feed = (.line t, rest)) :
    (s.load t rest).Tally feed file (lines ++ [t]) where
  file := h.file
  read := by
    unfold HasRead
    rw [show (s.load t rest).phase = .scanning from hs]
    exact (h.reads hs).line hread
  held := .inr List.getLast?_concat
  total := by
    show s.lineStart + Utf8.size s.line + Utf8.size t = _
    rw [h.total, List.flatten_append, Utf8.size_append, List.flatten_singleton]
  cursor := ⟨_, _, isAt_load s t rest⟩
  closed := fun hstopped => absurd hs hstopped
  failed := fun _ _ hfailed => by
    rw [show (s.load t rest).phase = .scanning from hs] at hfailed
    cases hfailed

/-- The source ends behind the lines, or fails there, whichever is noted. -/
theorem stop (h : s.Tally feed file lines) {finished : Bool} {failure? : Option Held}
    (hread : HasRead feed lines { s.load [] rest with finished, failure? })
    (hfailed : ∀ position cause,
      { s.load [] rest with finished, failure? : Scanner }.phase = .failed position cause →
        position = ⟨s.lineStart + Utf8.size s.line, s.file⟩) :
    Tally feed file lines { s.load [] rest with finished, failure? } where
  file := h.file
  read := hread
  held := .inl rfl
  total := h.total
  cursor := ⟨[], [], rfl, rfl⟩
  closed := fun _ => rfl
  failed := hfailed

theorem finish (h : s.Tally feed file lines) (hs : s.phase = .scanning)
    (hread : Feed.nextLine s.feed = (.finished, rest)) :
    (s.finish rest).Tally feed file lines := by
  have hphase := phase_finish hs rest
  apply h.stop
  · show HasRead feed lines (s.finish rest)
    unfold HasRead
    rw [hphase]
    exact ⟨_, h.reads hs, hread⟩
  · intro position cause hfailed
    cases hphase.symm.trans hfailed

theorem fail (h : s.Tally feed file lines) (hs : s.phase = .scanning) {cause : ReadFailure}
    (hread : Feed.nextLine s.feed = (.failed cause, rest)) :
    (s.fail cause rest).Tally feed file lines := by
  apply h.stop
  · exact ⟨_, h.reads hs, hread⟩
  · intro position cause' hfailed
    cases (phase_fail s cause rest).symm.trans hfailed
    rfl

/-- **Every step keeps the tally**, with the lines that it reads, and covers its
way. -/
theorem step (h : s.Tally feed file lines) (hstep : s.Step records more ts u) :
    u.Tally feed file (lines ++ more) ∧ Covers file (lines ++ more) s.offset ts u.offset := by
  obtain ⟨before, text, hat⟩ := h.cursor
  cases hstep with
  | piece _ hn =>
      obtain ⟨w, rest, rfl, rfl, -, hw⟩ := hat.exists_piece hn
      rw [List.append_nil, offset_advance]
      exact ⟨h.advance hat, h.covers_trivia hat hw⟩
  | line hs hend hread =>
      refine ⟨h.load hs hread, ?_⟩
      rw [offset_load, ← h.offset_of_size_le hend]
      exact .nil _
  | finished hs hend hread =>
      rw [List.append_nil]
      refine ⟨h.finish hs hread, ?_⟩
      rw [h.offset_of_size_le hend]
      exact .nil _
  | failed hs hend hread =>
      rw [List.append_nil]
      refine ⟨h.fail hs hread, ?_⟩
      rw [h.offset_of_size_le hend]
      exact .nil _
  | lexeme _ hne hstop ht =>
      obtain ⟨k, l, rest, rfl, hl, htake⟩ := hat.exists_lexeme hne hstop
      have hmoved := h.advance hat
      rw [htake] at ht ⊢
      rw [List.append_nil, ← Reply.token.inj ht]
      refine ⟨{ hmoved with cursor := ⟨_, _, hat.advance.line, hat.advance.pos⟩ }, ?_⟩
      show Covers file lines s.offset _ (s.advance (Utf8.size l)).offset
      rw [offset_advance, h.file]
      exact .token (h.standsAt hat hl.ne_nil) hl (.nil _)

/-- **Every run keeps the tally**, with the lines that it reads, and covers its
way. -/
theorem run (h : s.Tally feed file lines) (hrun : s.Run records more ts u) :
    u.Tally feed file (lines ++ more) ∧ Covers file (lines ++ more) s.offset ts u.offset := by
  induction hrun generalizing lines with
  | nil => exact ⟨by rwa [List.append_nil], .nil _⟩
  | cons hstep _ ih =>
      obtain ⟨hmid, hway⟩ := h.step hstep
      obtain ⟨hlast, hmore⟩ := ih hmid
      rw [← List.append_assoc]
      exact ⟨hlast, (hway.mono _).append hmore⟩

/-! ## §3. Requests. -/

/-- A token that was given ends where the cursor stands. -/
theorem stop_next (h : s.next.scanner.Tally feed file lines) {t : Token}
    (ht : s.next.result = .token t) : t.span.stop.offset = s.next.scanner.offset := by
  cases hend : s.next.result.isLast with
  | true => exact h.stop_of_lastReply? (ht ▸ lastReply?_next hend)
  | false =>
      cases hlast : s.lastReply? with
      | some r =>
          rw [next_of_lastReply? hlast, isLast_of_lastReply? hlast] at hend
          cases hend
      | none =>
          have hs := lastReply?_eq_none_iff.1 hlast
          cases hclosed : s.seek.result with
          | some r =>
              rw [next_of_closed hs hclosed, isLast_of_seek hclosed] at hend
              cases hend
          | none =>
              rw [next_of_found hs hclosed] at ht ⊢
              rw [← Reply.token.inj ht]
              rfl

/-- **One request keeps the tally**, perhaps with more lines, and covers its
way; it stops behind the token that it gives. -/
theorem next (h : s.Tally feed file lines) :
    ∃ more, s.next.scanner.Tally feed file (lines ++ more)
      ∧ Covers file (lines ++ more) s.offset s.next.result.matched?.toList s.next.scanner.offset
      ∧ ∀ t, s.next.result = .token t → t.span.stop.offset = s.next.scanner.offset := by
  obtain ⟨more, hrun⟩ := next_run h.cursor
  obtain ⟨htally, hway⟩ := h.run hrun
  exact ⟨more, htally, hway, fun _ ht => htally.stop_next ht⟩

/-- **Any requests keep the tally**, perhaps with more lines, and cover their
way. -/
theorem ask (h : s.Tally feed file lines) (n : Nat) :
    ∃ more, (s.ask n).scanner.Tally feed file (lines ++ more)
      ∧ Covers file (lines ++ more) s.offset ((s.replies n).filterMap Reply.matched?)
          (s.ask n).scanner.offset := by
  obtain ⟨more, hrun⟩ := ask_run h.cursor n
  exact ⟨more, h.run hrun⟩

/-- The cursor stands behind the token that was given last. -/
theorem offset_of_getLast? (h : s.Tally feed file lines) {n : Nat} {t : Token}
    (ht : (s.replies n).getLast? = some (.token t)) :
    (s.ask n).scanner.offset = t.span.stop.offset := by
  cases n with
  | zero => cases ht
  | succ n =>
      obtain ⟨more, htally, -⟩ := h.ask n
      obtain ⟨-, -, -, hstop⟩ := htally.next
      have hlast := ask_add n 1 s
      rw [ask_one] at hlast
      rw [← result_ask, hlast] at ht
      rw [hlast]
      have hresult : (s.ask n).scanner.next.result = .token t :=
        Option.some.inj (List.getLast?_concat.symm.trans ht)
      exact (hstop t hresult).symm

end Tally

/-- **Requests to a fresh scanner** are a run, which tallies with the lines that
it reads, and covers its way with the tokens that it gives. -/
theorem exists_tally_serve (feed : Feed) (file? : Option String) (requests : List Request) :
    let served := (ofFeed feed file?).serve requests
    let ts := (served.result.flatMap Answer.replies).filterMap Reply.matched?
    let file := file?.getD defaultFile
    ∃ lines, (ofFeed feed file?).Run served.records lines ts served.scanner
      ∧ served.scanner.Tally feed file lines
      ∧ Covers file lines 0 ts served.scanner.offset := by
  intro served ts file
  obtain ⟨lines, hrun⟩ := serve_run (isPlaced_ofFeed feed file?) requests
  exact ⟨lines, hrun, (Tally.ofFeed feed file?).run hrun⟩

end Scanner

/-- **The tokens that a scanner gave cover the lines that it read.**  Whatever
was asked of it, these are in order, and between the beginning of the source
and the cursor there is nothing else but trivia.  The cursor stands behind the
last token; or, once the source has ended or failed, behind all the lines,
which is what the last reply says.  A further request never moves it back, and
moves it on by the length of the lexeme at least, if it gives one. -/
theorem serve_covers (feed : Feed) (file? : Option String) (requests : List Request) :
    let served := (Scanner.ofFeed feed file?).serve requests
    let given := served.result.flatMap Answer.replies
    let ts := given.filterMap Reply.matched?
    let file := file?.getD Scanner.defaultFile
    let s := served.scanner
    ∃ lines : List Text,
      s.HasRead feed lines
        ∧ Covers file lines 0 ts s.offset
        ∧ (∀ t ∈ ts, t.StandsIn file lines.flatten)
        ∧ ts.Pairwise (fun t u => t.span.stop.offset ≤ u.span.start.offset)
        ∧ (∀ t, given.getLast? = some (.token t) → s.offset = t.span.stop.offset)
        ∧ (∀ r ∈ given, r.isLast → s.offset = Utf8.size lines.flatten
          ∧ ∃ failure?, r = .closing file (Utf8.size lines.flatten) failure?)
        ∧ s.offset ≤ s.next.scanner.offset
        ∧ ∀ t, s.next.result = .token t → t.isEnd = false →
          ∃ l, t.lexeme? = some l ∧ s.offset + Utf8.size l ≤ s.next.scanner.offset := by
  intro served given ts file s
  let s₀ := Scanner.ofFeed feed file?
  have hask : s₀.ask given.length = ⟨given, served.records, s⟩ := Scanner.ask_of_serve requests _
  have hreplies : s₀.replies given.length = given := by
    rw [← Scanner.result_ask, hask]
  have hbegin : s₀.Tally feed file [] := .ofFeed feed file?
  obtain ⟨lines, htally, hway⟩ := hbegin.ask given.length
  rw [hask, List.nil_append] at htally
  rw [hask, hreplies, List.nil_append] at hway
  obtain ⟨more, -, hnext, -⟩ := htally.next
  refine ⟨lines, htally.read, hway, hway.standsIn, hway.pairwise, ?_, ?_, hnext.le, ?_⟩
  · intro t ht
    have hstop := hbegin.offset_of_getLast? (n := given.length) (hreplies ▸ ht)
    rwa [hask] at hstop
  · intro r hr hlast
    have hkept := Scanner.lastReply?_ask_iff (s := s₀) rfl given.length r
    rw [hask] at hkept
    exact htally.of_lastReply? (hkept.2 ⟨hr, hlast⟩)
  · intro t ht hnotEnd
    rw [ht, Reply.matched?_token hnotEnd] at hnext
    exact hnext.add_size_le List.mem_cons_self

end LineLexer
