/-
  LineLexer.Proofs.Scanning
  ─────────────────────────
  **A SCANNER FOLLOWS THE DECOMPOSITION OF EACH LINE.**

  While it scans, a scanner stands somewhere on its line, between characters
  (`IsAt`).  What a request does next depends on how the grammar decomposes
  the rest of the line:

      next_of_lexeme    — a lexeme is left: it is the next token
      next_of_line      — only trivia is left: it is the next line that counts
      next_of_finished  — there is no next line: the source ends
      next_of_failed    — the next line cannot be read

  From these steps follows what a whole walk gives, by induction over the
  lines and over the lexemes of each (`drain_result`, `drain_of_lines`).
-/
import LineLexer.Walk
import LineLexer.Proofs.Decomposition
import LineLexer.Proofs.Delivery

namespace LineLexer

open Log (Record)

namespace Scanner

/-! ## §1. The place of the cursor. -/

/-- The cursor stands on the line between `before` and `rest`. -/
structure IsAt (s : Scanner) (before rest : Text) : Prop where
  /-- The line is what stands on the two sides of the cursor. -/
  line : s.line = before ++ rest
  /-- The cursor stands behind the first part. -/
  pos : s.pos = Utf8.size before

theorem IsAt.remainder {s : Scanner} {before rest : Text} (h : s.IsAt before rest) :
    s.remainder = rest := by
  rw [Scanner.remainder, h.line, h.pos, Utf8.dropBytes_size_append]

theorem IsAt.advance {s : Scanner} {before w rest : Text} (h : s.IsAt before (w ++ rest)) :
    (s.advance (Utf8.size w)).IsAt (before ++ w) rest := by
  constructor
  · show s.line = _
    rw [h.line, List.append_assoc]
  · show s.pos + _ = _
    rw [h.pos, Utf8.size_append]

/-- A line begins at its first character. -/
theorem isAt_load (s : Scanner) (t : Text) (feed : Feed) : (s.load t feed).IsAt [] t :=
  ⟨rfl, rfl⟩

/-- The offset and what is left make up all that was read. -/
theorem IsAt.offset {s : Scanner} {before rest : Text} (h : s.IsAt before rest) :
    s.lineStart + Utf8.size s.line = s.offset + Utf8.size rest := by
  rw [h.line, Scanner.offset, h.pos, Utf8.size_append, Nat.add_assoc]

/-- The scanner behind a lexeme. -/
def pass (s : Scanner) (g l : Text) : Scanner :=
  { (s.advance (Utf8.size g)).advance (Utf8.size l) with lastLexeme? := some l }

theorem offset_pass (s : Scanner) (g l : Text) :
    (s.pass g l).offset = s.offset + Utf8.size g + Utf8.size l := by
  show ((s.advance (Utf8.size g)).advance (Utf8.size l)).offset = _
  rw [offset_advance, offset_advance]

theorem IsAt.pass {s : Scanner} {before g l rest : Text}
    (h : s.IsAt before (g ++ (l ++ rest))) : (s.pass g l).IsAt (before ++ g ++ l) rest :=
  ⟨h.advance.advance.line, h.advance.advance.pos⟩

/-! ## §2. Seeking. -/

/-- Only trivia is skipped, where a lexeme stands behind it. -/
theorem seek_of_lexeme {s : Scanner} {before w rest : Text} (h : s.IsAt before (w ++ rest))
    (hw : IsTrivia w rest) (hne : rest ≠ []) (hstop : Stops isTriviaStart rest) :
    s.seek = ⟨none, [], s.advance (Utf8.size w)⟩ := by
  rw [seek, h.remainder, Trivia.skip_append hw hstop]
  exact if_pos (h.advance.remainder ▸ hne)

/-- Nothing but trivia is left of the line. -/
def IsUsedUp (s : Scanner) : Prop :=
  (s.advance (Trivia.skip s.remainder)).remainder = []

theorem IsAt.isUsedUp {s : Scanner} {before w : Text} (h : s.IsAt before w)
    (hw : IsTrivia w []) : s.IsUsedUp := by
  have hat : s.IsAt before (w ++ []) := by simpa using h
  unfold IsUsedUp
  rw [h.remainder, Trivia.skip_of_isTrivia hw]
  exact hat.advance.remainder

theorem seek_of_not_isUsedUp {s : Scanner} (h : ¬ s.IsUsedUp) :
    s.seek = ⟨none, [], s.advance (Trivia.skip s.remainder)⟩ := by
  rw [seek]
  exact if_pos h

/-- Where the line is used up, seeking depends on what the next read comes
to. -/
theorem seek_of_isUsedUp {s : Scanner} (h : s.IsUsedUp) :
    s.seek =
      let offset := s.lineStart + Utf8.size s.line
      match Feed.nextLine s.feed with
      | (.line t, feed) =>
          { (s.load t feed).seek with
            records := .lineRead (Utf8.size t) s.file offset :: (s.load t feed).seek.records }
      | (.finished, feed) =>
          ⟨some (.token (.endOf s.file offset)), [.ended s.file offset], s.finish feed⟩
      | (.failed cause, feed) =>
          ⟨some (.failure ⟨.sourceRead cause, ⟨offset, s.file⟩⟩),
            [.readFailed s.file offset cause], s.fail cause feed⟩ := by
  conv => lhs; rw [seek]
  refine (if_neg (not_not_intro h)).trans ?_
  split
  all_goals
    rename_i hread
    rw [show Feed.nextLine s.feed = _ from hread]
    rfl

section UsedUp

variable {s : Scanner} {feed : Feed}

theorem seek_of_line (h : s.IsUsedUp) {t : Text}
    (hread : Feed.nextLine s.feed = (.line t, feed)) :
    s.seek = { (s.load t feed).seek with
      records := .lineRead (Utf8.size t) s.file (s.lineStart + Utf8.size s.line)
        :: (s.load t feed).seek.records } := by
  rw [seek_of_isUsedUp h, hread]

theorem seek_of_finished (h : s.IsUsedUp)
    (hread : Feed.nextLine s.feed = (.finished, feed)) :
    s.seek =
      let offset := s.lineStart + Utf8.size s.line
      ⟨some (.token (.endOf s.file offset)), [.ended s.file offset], s.finish feed⟩ := by
  rw [seek_of_isUsedUp h, hread]

theorem seek_of_failed (h : s.IsUsedUp) {cause : ReadFailure}
    (hread : Feed.nextLine s.feed = (.failed cause, feed)) :
    s.seek =
      let offset := s.lineStart + Utf8.size s.line
      ⟨some (.failure ⟨.sourceRead cause, ⟨offset, s.file⟩⟩),
        [.readFailed s.file offset cause], s.fail cause feed⟩ := by
  rw [seek_of_isUsedUp h, hread]

end UsedUp

/-! ## §3. One request. -/

/-- While a scanner scans, it has met no end and keeps no failure. -/
theorem phase_eq_scanning_iff {s : Scanner} :
    s.phase = .scanning ↔ s.failure? = none ∧ s.finished = false := by
  unfold phase
  cases s.failure? with
  | none => cases s.finished <;> simp
  | some held => simp

theorem phase_finish {s : Scanner} (hs : s.phase = .scanning) (feed : Feed) :
    (s.finish feed).phase = .finished := by
  obtain ⟨hfailure, -⟩ := phase_eq_scanning_iff.1 hs
  have hkept : (s.finish feed).failure? = none := hfailure
  rw [phase, hkept]
  rfl

theorem phase_fail (s : Scanner) (cause : ReadFailure) (feed : Feed) :
    (s.fail cause feed).phase = .failed ⟨s.lineStart + Utf8.size s.line, s.file⟩ cause := rfl

/-- The last reply goes by the phase. -/
theorem lastReply?_eq (s : Scanner) :
    s.lastReply? =
      match s.phase with
      | .scanning => none
      | .finished => some (.token s.endToken)
      | .failed position cause => some (.failure ⟨.sourceRead cause, position⟩) := by
  unfold lastReply? phase
  cases s.failure? with
  | none => cases s.finished <;> rfl
  | some held => rfl

theorem lastReply?_eq_none_iff {s : Scanner} : s.lastReply? = none ↔ s.phase = .scanning := by
  rw [lastReply?_eq]
  cases s.phase <;> simp

/-- **The reply that can be put together behind a search is the one that the
search came upon**: of a failure enough is kept, and the flag is set at the
end of the source. -/
theorem lastReply?_seek {s : Scanner} (hs : s.phase = .scanning) :
    s.seek.scanner.lastReply? = s.seek.result := by
  fun_induction seek s with
  | case1 => exact lastReply?_eq_none_iff.2 hs
  | case2 s moved hused text feed hread loaded sought ih => exact ih hs
  | case3 s moved hused feed hread ended =>
      have hended : ended.phase = .finished := phase_finish hs feed
      rw [lastReply?_eq, hended]
  | case4 => rfl

/-- A scanner that has given its last reply gives it again, and does nothing
else. -/
theorem next_of_lastReply? {s : Scanner} {r : Reply} (h : s.lastReply? = some r) :
    s.next = ⟨r, [], s⟩ := by
  unfold next
  rw [h]

/-- Where seeking comes upon a last reply, that is the reply. -/
theorem next_of_closed {s : Scanner} {r : Reply} (h : s.phase = .scanning)
    (hlast : s.seek.result = some r) : s.next = ⟨r, s.seek.records, s.seek.scanner⟩ := by
  have hnone : s.lastReply? = none := lastReply?_eq_none_iff.2 h
  conv => lhs; unfold next
  simp only [hnone, hlast]

/-- Where it does not, a lexeme is matched. -/
theorem next_of_found {s : Scanner} (h : s.phase = .scanning) (hlast : s.seek.result = none) :
    s.next =
      let taken := s.seek.scanner.take
      { taken with records := s.seek.records ++ taken.records } := by
  have hnone : s.lastReply? = none := lastReply?_eq_none_iff.2 h
  conv => lhs; unfold next
  simp only [hnone, hlast]

/-- The lexeme under the cursor is matched, and no more than that. -/
theorem take_of_lexeme {s : Scanner} {before l rest : Text} {k : Category}
    (h : s.IsAt before (l ++ rest)) (hl : IsLexeme k l) (hmax : IsMaximal k l rest) :
    s.take =
      { result := .token ⟨k, some l, .within s.file s.offset (s.offset + Utf8.size l)⟩
        records := [.matched k l k.rule s.offset (s.offset + Utf8.size l)]
        scanner := { s.advance (Utf8.size l) with lastLexeme? := some l } } := by
  have hpick : Matcher.standard.pick s.remainder = ⟨k.rule, Utf8.size l⟩ := by
    rw [h.remainder, pick_append hl hmax]
  have htake : Utf8.takeBytes (Utf8.size l) s.remainder = l := by
    rw [h.remainder, Utf8.takeBytes_size_append]
  unfold take
  simp only [hpick, htake, resolve_of_isLexeme hl]
  rw [← offset_advance]
  rfl

/-- **A lexeme that is left of the line is the next token.** -/
theorem next_of_lexeme {s : Scanner} {before g l rest : Text} {k : Category}
    (hs : s.phase = .scanning) (h : s.IsAt before (g ++ (l ++ rest)))
    (hg : IsTrivia g (l ++ rest)) (hl : IsLexeme k l) (hmax : IsMaximal k l rest) :
    s.next =
      let start := s.offset + Utf8.size g
      let stop := start + Utf8.size l
      { result := .token ⟨k, some l, .within s.file start stop⟩
        records := [.matched k l k.rule start stop]
        scanner := s.pass g l } := by
  have hseek := seek_of_lexeme h hg (by simp [hl.ne_nil]) (hl.stops rest)
  rw [next_of_found hs (by rw [hseek]), hseek]
  show { (s.advance (Utf8.size g)).take with
    records := [] ++ (s.advance (Utf8.size g)).take.records } = _
  rw [take_of_lexeme h.advance hl hmax, offset_advance]
  rfl

section UsedUp

variable {s : Scanner} {feed : Feed}

/-- **Where the line is used up, the next line counts.** -/
theorem next_of_line (hs : s.phase = .scanning) (h : s.IsUsedUp) {t : Text}
    (hread : Feed.nextLine s.feed = (.line t, feed)) :
    s.next = { (s.load t feed).next with
      records := .lineRead (Utf8.size t) s.file (s.lineStart + Utf8.size s.line)
        :: (s.load t feed).next.records } := by
  have hseek := seek_of_line h hread
  have hload : (s.load t feed).phase = .scanning := hs
  cases hlast : (s.load t feed).seek.result with
  | some r =>
      have hclosed : s.seek.result = some r := by rw [hseek, hlast]
      rw [next_of_closed hs hclosed, hseek, next_of_closed hload hlast]
  | none =>
      have hfound : s.seek.result = none := by rw [hseek, hlast]
      rw [next_of_found hs hfound, hseek, next_of_found hload hlast]
      rfl

/-- **Where nothing is left at all, the source ends.** -/
theorem next_of_finished (hs : s.phase = .scanning) (h : s.IsUsedUp)
    (hread : Feed.nextLine s.feed = (.finished, feed)) :
    s.next =
      let offset := s.lineStart + Utf8.size s.line
      { result := .token (.endOf s.file offset)
        records := [.ended s.file offset]
        scanner := s.finish feed } := by
  have hseek := seek_of_finished h hread
  rw [next_of_closed hs (by rw [hseek]), hseek]

/-- **Where the next line cannot be read, its failure is the reply.** -/
theorem next_of_failed (hs : s.phase = .scanning) (h : s.IsUsedUp) {cause : ReadFailure}
    (hread : Feed.nextLine s.feed = (.failed cause, feed)) :
    s.next =
      let offset := s.lineStart + Utf8.size s.line
      { result := .failure ⟨.sourceRead cause, ⟨offset, s.file⟩⟩
        records := [.readFailed s.file offset cause]
        scanner := s.fail cause feed } := by
  have hseek := seek_of_failed h hread
  rw [next_of_closed hs (by rw [hseek]), hseek]

end UsedUp

/-! ## §4. Walks. -/

theorem drain_of_isLast {s : Scanner} (h : s.next.result.isLast) :
    s.drain = ⟨[s.next.result], s.next.records, s.next.scanner⟩ := by
  rw [drain]
  exact dif_pos h

theorem drain_of_not_isLast {s : Scanner} (h : s.next.result.isLast = false) :
    s.drain = ⟨s.next.result :: s.next.scanner.drain.result,
      s.next.records ++ s.next.scanner.drain.records, s.next.scanner.drain.scanner⟩ := by
  conv => lhs; rw [drain]
  exact dif_neg (by simp [h])

/-- What a walk gives hangs on the first reply and on the scanner behind
it. -/
theorem drain_result_congr {s s' : Scanner} (hr : s.next.result = s'.next.result)
    (hs : s.next.scanner = s'.next.scanner) : s.drain.result = s'.drain.result := by
  cases h : s.next.result.isLast with
  | true =>
      have h' : s'.next.result.isLast := hr ▸ h
      rw [drain_of_isLast h, drain_of_isLast h', hr]
  | false =>
      have h' : s'.next.result.isLast = false := hr ▸ h
      rw [drain_of_not_isLast h, drain_of_not_isLast h', hr, hs]

end Scanner

/-- The reply behind the last line of a source: its end, or the failure of a
read. -/
def Reply.closing (file : String) (offset : Nat) : Option ReadFailure → Reply
  | none => .token (.endOf file offset)
  | some cause => .failure ⟨.sourceRead cause, ⟨offset, file⟩⟩

namespace Scanner

/-- The replies of a walk, if `d` is what is left before it. -/
def repliesOn (s : Scanner) (d : Decomposition) : List Reply :=
  (d.tokens s.file s.offset).map .token
    ++ [.closing s.file (s.offset + Utf8.size d.text) s.feed.failure?]

/-- A walk gives a lexeme that is left, and goes on behind it. -/
theorem drain_of_lexeme {s : Scanner} {before g l rest : Text} {k : Category}
    (hs : s.phase = .scanning) (h : s.IsAt before (g ++ (l ++ rest)))
    (hg : IsTrivia g (l ++ rest)) (hl : IsLexeme k l) (hmax : IsMaximal k l rest) :
    s.drain.result =
      .token ⟨k, some l, .within s.file (s.offset + Utf8.size g) (s.pass g l).offset⟩
        :: (s.pass g l).drain.result := by
  have hnext := next_of_lexeme hs h hg hl hmax
  have hlast : s.next.result.isLast = false := by
    rw [hnext]
    show (k == .eof) = false
    exact beq_eq_false_iff_ne.2 hl.ne_eof
  rw [drain_of_not_isLast hlast, hnext, offset_pass]

theorem drain_of_line {s : Scanner} {feed : Feed} {t : Text} (hs : s.phase = .scanning)
    (h : s.IsUsedUp) (hread : Feed.nextLine s.feed = (.line t, feed)) :
    s.drain.result = (s.load t feed).drain.result := by
  have hnext := next_of_line hs h hread
  exact drain_result_congr (by rw [hnext]) (by rw [hnext])

/-- A walk that finds no further line gives the last reply. -/
theorem drain_of_nothing {s : Scanner} {before w : Text} (hs : s.phase = .scanning)
    (h : s.IsAt before w) (hw : IsTrivia w []) (hlines : s.feed.lines = []) :
    s.drain.result = s.repliesOn (.trivia w) := by
  have hoffset := h.offset
  have hused := h.isUsedUp hw
  show s.drain.result = [.closing s.file (s.offset + Utf8.size w) s.feed.failure?]
  rw [← hoffset]
  -- the next read comes upon the end of the source, or fails
  cases hread : Feed.nextLine s.feed with
  | mk read feed =>
      cases read with
      | line t =>
          rw [(Feed.lines_of_line hread).1] at hlines
          cases hlines
      | finished =>
          have hnext := next_of_finished hs hused hread
          rw [(Feed.lines_of_finished hread).2, drain_of_isLast (by rw [hnext]; rfl), hnext]
          rfl
      | failed cause =>
          have hnext := next_of_failed hs hused hread
          rw [(Feed.lines_of_failed hread).2, drain_of_isLast (by rw [hnext]; rfl), hnext]
          rfl

open Decomposition in
/-- A walk gives the lexemes of the line, if it gives what stands behind
them. -/
theorem drain_result_of_trivia {e : Decomposition} (feed : Feed)
    (hend : ∀ (s : Scanner) (before w : Text), s.phase = .scanning → s.feed = feed →
      s.IsAt before w → IsTrivia w [] → s.drain.result = s.repliesOn ((trivia w).glue e))
    (d : Decomposition) :
    ∀ (s : Scanner) (before : Text), s.phase = .scanning → s.feed = feed →
      s.IsAt before d.text → d.IsProper [] → s.drain.result = s.repliesOn (d.glue e) := by
  -- along the lexemes of the line, with the cursor behind those that are taken
  induction d with
  | trivia w =>
      intro s before hs hfeed h hd
      exact hend s before w hs hfeed h hd
  | lexeme g k l d ih =>
      intro s before hs hfeed h hd
      obtain ⟨hg, hl, hmax, hd⟩ := hd
      rw [List.append_nil] at hg hmax
      have hoffset := offset_pass s g l
      rw [drain_of_lexeme hs h hg hl hmax, ih (s.pass g l) _ hs hfeed h.pass hd]
      unfold repliesOn
      rw [hoffset, show (s.pass g l).file = s.file from rfl,
        show (s.pass g l).feed = s.feed from rfl]
      simp [glue, text, tokens, Nat.add_assoc]

open Decomposition in
/-- **A walk gives the tokens of each line, and then the last reply.** -/
theorem drain_result (ds : List Decomposition) (hds : ∀ e ∈ ds, e.IsProper []) :
    ∀ (d : Decomposition) (s : Scanner) (before : Text), s.phase = .scanning →
      s.feed.lines = ds.map text → s.IsAt before d.text → d.IsProper [] →
      s.drain.result = s.repliesOn (d.glue (joined ds)) := by
  -- over the lines that are left, for every place on the present one
  induction ds with
  | nil =>
      intro d s before hs hlines h hd
      refine drain_result_of_trivia s.feed ?_ d s before hs rfl h hd
      intro s' before w hs' hfeed h hw
      have hnone : s'.feed.lines = [] := by rw [hfeed, hlines]; rfl
      rw [drain_of_nothing hs' h hw hnone]
      simp [glue, joined, pad]
  | cons e ds ih =>
      intro d s before hs hlines h hd
      obtain ⟨he, hds⟩ := List.forall_mem_cons.1 hds
      refine drain_result_of_trivia s.feed ?_ d s before hs rfl h hd
      intro s' before w hs' hfeed h hw
      -- the line is used up, and the next one is decomposed as `e`
      cases hread : Feed.nextLine s'.feed with
      | mk read feed =>
          cases read with
          | line t =>
              have hline := Feed.lines_of_line hread
              rw [← hfeed, hline.1] at hlines
              obtain ⟨rfl, hmore⟩ := List.cons.inj hlines
              rw [drain_of_line hs' (h.isUsedUp hw) hread,
                ih hds e (s'.load e.text feed) [] hs' hmore (isAt_load s' e.text feed) he]
              unfold repliesOn
              rw [offset_load, h.offset, hline.2]
              show _ = (((e.glue (joined ds)).pad w).tokens _ _).map _ ++ _
              rw [tokens_pad, show (trivia w).glue (joined (e :: ds))
                = (e.glue (joined ds)).pad w from rfl, text_pad, Utf8.size_append, Nat.add_assoc]
              rfl
          | finished =>
              rw [← hfeed, (Feed.lines_of_finished hread).1] at hlines
              cases hlines
          | failed cause =>
              rw [← hfeed, (Feed.lines_of_failed hread).1] at hlines
              cases hlines

/-- A walk over a whole feed, if its lines are decomposed. -/
theorem drain_ofFeed {ds : List Decomposition} (hds : ∀ e ∈ ds, e.IsProper []) {feed : Feed}
    (hlines : feed.lines = ds.map Decomposition.text) (file? : Option String) :
    (ofFeed feed file?).drain.result
      = (ofFeed feed file?).repliesOn (Decomposition.joined ds) := by
  have h := drain_result ds hds (.trivia []) (ofFeed feed file?) [] rfl hlines ⟨rfl, rfl⟩ (.nil [])
  rw [h]
  unfold repliesOn Decomposition.glue
  rw [Decomposition.tokens_pad, Decomposition.text_pad]
  rfl

/-- The same, counted from the beginning of the source. -/
theorem drain_of_lines {ds : List Decomposition} (hds : ∀ e ∈ ds, e.IsProper []) {feed : Feed}
    (hlines : feed.lines = ds.map Decomposition.text) (file? : Option String) :
    let file := file?.getD defaultFile
    let d := Decomposition.joined ds
    (ofFeed feed file?).drain.result
      = (d.tokens file 0).map .token ++ [.closing file (Utf8.size d.text) feed.failure?] := by
  intro file d
  rw [drain_ofFeed hds hlines]
  show _ ++ [Reply.closing _ (0 + Utf8.size d.text) _] = _
  rw [Nat.zero_add]
  rfl

end Scanner

end LineLexer
