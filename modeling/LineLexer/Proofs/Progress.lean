/-
  LineLexer.Proofs.Progress
  ─────────────────────────
  **EVERY SCAN COMES TO AN END.**

  A request may pass much trivia, and read many lines, before it comes upon
  its token.  No single number falls on the way: a new line brings the cursor
  back to its beginning, and a read that is repeated brings nothing at all.
  Two sums do.  One pays for every step, and the other, which counts
  characters and not bytes, for every token:

      Feed.Leaves      — a read takes something of a feed
      Step.getsOn      — what each step does to get on
      budget_step      — the budget of a scanner pays for each of its steps
      ahead_step       — the characters ahead of it pay for each token
      ahead_run        — so they pay for all the tokens of a run
      serve_terminates — requests, walks and the loops in them all end

  The budget counts what is still to be read twice, since all of it may have
  to be read first and then passed byte by byte.
-/
import LineLexer.Proofs.Steps

namespace LineLexer

open Log (Record)

/-! ## §1. What a read takes. -/

namespace Feed

/-- Something was taken of a feed, and the rest is left: whole reads, or some
of the bytes of a read. -/
inductive Leaves : Feed → Feed → Prop where
  /-- One read is taken. -/
  | read (chunk : Chunk) (feed : Feed) : Leaves (chunk :: feed) feed
  /-- The front bytes of a read are taken. -/
  | bytes {front rest : List UInt8} (hne : front ≠ []) (feed : Feed) :
      Leaves (.data (front ++ rest) :: feed) (.data rest :: feed)
  /-- One read is taken, and more. -/
  | more (chunk : Chunk) {feed rest : Feed} (h : Leaves feed rest) : Leaves (chunk :: feed) rest

/-- **Collecting a line takes something**, if there is anything. -/
theorem leaves_collect {feed : Feed} (hne : feed ≠ []) : feed.Leaves (collect feed).2 := by
  induction feed with
  | nil => exact absurd rfl hne
  | cons chunk feed ih =>
      -- the line may go on in the reads behind this one
      have hbehind : Leaves (chunk :: feed) (collect feed).2 := by
        by_cases hnil : feed = []
        · subst hnil
          exact .read chunk []
        · exact .more chunk (ih hnil)
      cases chunk with
      | failure cause =>
          by_cases hagain : cause.kind = .interrupted
          · rw [collect, if_pos hagain]
            exact hbehind
          · rw [collect, if_neg hagain]
            exact .read _ feed
      | data bytes =>
          by_cases hbytes : bytes = []
          · rw [collect, if_pos hbytes]
            exact .read _ feed
          · rw [collect, if_neg hbytes]
            cases hcut : bytes.dropWhile (· != lineFeed) with
            | nil => exact hbehind
            | cons b rest =>
                -- the line feed is taken with what stands before it
                cases rest with
                | nil => exact .read _ feed
                | cons d rest =>
                    have hsplit : bytes
                        = (bytes.takeWhile (· != lineFeed) ++ [b]) ++ (d :: rest) := by
                      have hall := List.takeWhile_append_dropWhile (p := (· != lineFeed))
                        (l := bytes)
                      rw [hcut] at hall
                      simpa using hall.symm
                    show Leaves (.data bytes :: feed) (.data (d :: rest) :: feed)
                    rw [hsplit]
                    exact .bytes (List.append_ne_nil_of_right_ne_nil _ (List.cons_ne_nil b [])) feed

theorem nextLine_snd (feed : Feed) : (nextLine feed).2 = (collect feed).2 := by
  unfold nextLine
  split
  next h => rw [h]
  next h => rw [h]
  next h =>
    rw [h]
    split <;> rfl

/-- Reading a line takes something of the feed, or finds its end. -/
theorem leaves_nextLine {feed rest : Feed} {read : LineRead} (h : nextLine feed = (read, rest)) :
    feed.Leaves rest ∨ (feed = [] ∧ read = .finished) := by
  by_cases hnil : feed = []
  · subst hnil
    cases h
    exact .inr ⟨rfl, rfl⟩
  · have hrest : rest = (collect feed).2 := by
      rw [← nextLine_snd, h]
    rw [hrest]
    exact .inl (leaves_collect hnil)

end Feed

namespace Scanner

variable {s mid u : Scanner} {records : List Record} {lines : List Text} {ts : List Token}

/-! ## §2. Each step gets on. -/

/-- What a step does to get on. -/
inductive GetsOn (s u : Scanner) : Prop where
  /-- The cursor moves over some bytes of the line. -/
  | passes {n : Nat} (hpos : 0 < n) (hle : s.pos + n ≤ Utf8.size s.line) (hline : u.line = s.line)
      (hcursor : u.pos = s.pos + n) (hfeed : u.feed = s.feed)
  /-- Something is taken of the feed. -/
  | reads (h : s.feed.Leaves u.feed)
  /-- The feed is found to be at its end. -/
  | ends (hnil : s.feed = []) (hphase : u.phase = .finished)

/-- So many steps lead from one scanner to the other. -/
inductive Reaches : Nat → Scanner → Scanner → Prop where
  /-- No step at all. -/
  | nil (s : Scanner) : Reaches 0 s s
  /-- A step, and the steps behind it. -/
  | cons {n : Nat} {s mid u : Scanner} {records : List Record} {lines : List Text}
      {ts : List Token} (h : s.Step records lines ts mid) (hsteps : Reaches n mid u) :
      Reaches (n + 1) s u

/-- A run is made of some number of steps. -/
theorem Run.reaches (h : s.Run records lines ts u) : ∃ n, Reaches n s u := by
  induction h with
  | nil s => exact ⟨0, .nil s⟩
  | cons hstep _ ih =>
      obtain ⟨n, hsteps⟩ := ih
      exact ⟨n + 1, .cons hstep hsteps⟩

theorem Reaches.isPlaced {n : Nat} (h : Reaches n s u) (hs : s.IsPlaced) : u.IsPlaced := by
  induction h with
  | nil => exact hs
  | cons hstep _ ih => exact ih (hs.step hstep)

/-- What stands behind the cursor is within the line. -/
theorem IsAt.pos_add_le {before w rest : Text} (h : s.IsAt before (w ++ rest)) :
    s.pos + Utf8.size w ≤ Utf8.size s.line := by
  rw [h.line, h.pos, Utf8.size_append, Utf8.size_append]
  omega

/-- **Each step gets on.** -/
theorem Step.getsOn (hstep : s.Step records lines ts u) (h : s.IsPlaced) : s.GetsOn u := by
  obtain ⟨before, text, hat⟩ := h
  cases hstep with
  | piece _ hn =>
      obtain ⟨w, rest, rfl, rfl, hne, -⟩ := hat.exists_piece hn
      exact .passes (Utf8.size_pos_of_ne_nil hne) hat.pos_add_le rfl rfl rfl
  | line _ _ hread =>
      rcases Feed.leaves_nextLine hread with hleaves | ⟨-, hfinished⟩
      · exact .reads hleaves
      · cases hfinished
  | finished hs _ hread =>
      rcases Feed.leaves_nextLine hread with hleaves | ⟨hnil, -⟩
      · exact .reads hleaves
      · exact .ends hnil (phase_finish hs _)
  | failed _ _ hread =>
      rcases Feed.leaves_nextLine hread with hleaves | ⟨-, hfinished⟩
      · exact .reads hleaves
      · cases hfinished
  | lexeme _ hne hstop =>
      obtain ⟨k, l, rest, rfl, hl, htake⟩ := hat.exists_lexeme hne hstop
      rw [htake]
      exact .passes (Utf8.size_pos_of_ne_nil hl.ne_nil) hat.pos_add_le rfl rfl rfl

/-! ## §3. Steps are paid for. -/

/-- What a scanner can spend on steps: what is still to be read twice, the rest
of the line once, and one for the end. -/
def budget (s : Scanner) : Nat :=
  match s.phase with
  | .scanning => 2 * Feed.weight s.feed + (Utf8.size s.line - s.pos) + 1
  | _ => 0

theorem budget_of_scanning (h : s.phase = .scanning) :
    s.budget = 2 * Feed.weight s.feed + (Utf8.size s.line - s.pos) + 1 := by
  unfold budget
  rw [h]

/-- **The budget pays for each step.** -/
theorem budget_step (hstep : s.Step records lines ts u) : u.budget < s.budget := by
  cases hstep with
  | @piece n hs hn =>
      obtain ⟨hpiece, hsize⟩ := Trivia.pieceLength?_eq_some_iff.1 hn
      have hpos : 0 < n := hsize ▸ Utf8.size_pos_of_ne_nil hpiece
      have hne : s.remainder ≠ [] := by
        intro hnil
        rw [hnil] at hpiece
        exact hpiece rfl
      have hlt := pos_lt_of_remainder_ne_nil hne
      rw [budget_of_scanning hs, budget_of_scanning (show (s.advance n).phase = _ from hs)]
      show 2 * Feed.weight s.feed + (Utf8.size s.line - (s.pos + n)) + 1 < _
      omega
  | @line t feed hs hend hread =>
      -- the text of the line was counted twice, and is now counted once
      have htext := Feed.weight_add_size_nextLine_le hread
      have hless := Feed.weight_nextLine_lt hread
      rw [budget_of_scanning hs, budget_of_scanning (show (s.load t feed).phase = _ from hs)]
      show 2 * Feed.weight feed + (Utf8.size t - 0) + 1 < _
      omega
  | finished hs =>
      rw [budget_of_scanning hs, budget, phase_finish hs]
      exact Nat.succ_pos _
  | failed hs =>
      rw [budget_of_scanning hs]
      exact Nat.succ_pos _
  | lexeme hs hne =>
      have hlt := pos_lt_of_remainder_ne_nil hne
      have hpos := Matcher.length_pick_pos .standard s.remainder
      rw [budget_of_scanning hs, budget_of_scanning (show s.take.scanner.phase = _ from hs)]
      show 2 * Feed.weight s.feed
        + (Utf8.size s.line - (s.pos + (Matcher.standard.pick s.remainder).length)) + 1 < _
      omega

/-- So there are no more steps than it can pay for. -/
theorem Reaches.add_budget_le {n : Nat} (h : Reaches n s u) : n + u.budget ≤ s.budget := by
  induction h with
  | nil => exact Nat.le_of_eq (Nat.zero_add _)
  | cons hstep _ ih =>
      have hless := budget_step hstep
      omega

/-! ## §4. Tokens are paid for. -/

/-- The characters ahead of a scanner: the rest of its line, and the lines that
can still be read. -/
def ahead (s : Scanner) : Nat :=
  match s.phase with
  | .scanning => s.remainder.length + s.feed.lines.flatten.length
  | _ => 0

theorem ahead_of_scanning (h : s.phase = .scanning) :
    s.ahead = s.remainder.length + s.feed.lines.flatten.length := by
  unfold ahead
  rw [h]

/-- **The characters ahead pay for each token.** -/
theorem ahead_step (h : s.IsPlaced) (hstep : s.Step records lines ts u) :
    ts.length + u.ahead ≤ s.ahead := by
  obtain ⟨before, text, hat⟩ := h
  cases hstep with
  | @piece n hs hn =>
      obtain ⟨w, rest, rfl, rfl, -⟩ := hat.exists_piece hn
      rw [ahead_of_scanning hs,
        ahead_of_scanning (show (s.advance (Utf8.size w)).phase = _ from hs), hat.remainder,
        hat.advance.remainder]
      show 0 + (rest.length + s.feed.lines.flatten.length) ≤ _
      rw [List.length_append]
      omega
  | @line t feed hs hend hread =>
      -- the characters of the line are ahead before it is read, and after
      obtain ⟨hlines, -⟩ := Feed.lines_of_line hread
      rw [ahead_of_scanning hs, ahead_of_scanning (show (s.load t feed).phase = _ from hs),
        remainder_load, hlines, List.flatten_cons, List.length_append]
      show 0 + (t.length + feed.lines.flatten.length) ≤ _
      omega
  | finished hs =>
      rw [ahead, phase_finish hs]
      exact Nat.zero_le _
  | failed => exact Nat.zero_le _
  | lexeme hs hne hstop =>
      obtain ⟨k, l, rest, rfl, hl, htake⟩ := hat.exists_lexeme hne hstop
      have hpos := List.length_pos_iff.2 hl.ne_nil
      have hahead : s.take.scanner.ahead = rest.length + s.feed.lines.flatten.length := by
        rw [ahead_of_scanning (show s.take.scanner.phase = _ from hs), htake]
        show (s.advance (Utf8.size l)).remainder.length + s.feed.lines.flatten.length = _
        rw [hat.advance.remainder]
      rw [hahead, ahead_of_scanning hs, hat.remainder, List.length_append, List.length_singleton]
      omega

/-- **So they pay for the tokens of a run.** -/
theorem ahead_run (h : s.IsPlaced) (hrun : s.Run records lines ts u) :
    ts.length + u.ahead ≤ s.ahead := by
  induction hrun with
  | nil => exact Nat.le_of_eq (Nat.zero_add _)
  | cons hstep _ ih =>
      have hfirst := ahead_step h hstep
      have hrest := ih (h.step hstep)
      rw [List.length_append]
      omega

/-- At the beginning they are the characters of all the lines that can be
read. -/
theorem ahead_ofFeed (feed : Feed) (file? : Option String) :
    (ofFeed feed file?).ahead = feed.lines.flatten.length := by
  have hs : (ofFeed feed file?).phase = .scanning := rfl
  rw [ahead_of_scanning hs]
  exact Nat.zero_add _

/-! ## §5. Requests and walks. -/

/-- A reply that is not a last one is the token of a lexeme. -/
theorem length_matched {rs : List Reply} (h : ∀ r ∈ rs, r.isLast = false) :
    (rs.filterMap Reply.matched?).length = rs.length := by
  rw [List.length_filterMap_eq_countP, List.countP_eq_length]
  intro r hr
  have hlast := h r hr
  cases r with
  | token t => rw [Reply.matched?_token hlast, Option.isSome_some]
  | failure e => cases hlast

theorem length_matched_replies_le (h : s.IsPlaced) (n : Nat) :
    ((s.replies n).filterMap Reply.matched?).length ≤ s.ahead := by
  obtain ⟨lines, hrun⟩ := ask_run h n
  have hpaid := ahead_run h hrun
  omega

/-- **A walk gives no more replies** than one for each character ahead, and
the last one. -/
theorem length_drain_le (h : s.IsPlaced) : s.drain.result.length ≤ s.ahead + 1 := by
  obtain ⟨rs, last, hresult, -, hinit, -⟩ := drain_eq_ask s
  have hreplies : s.replies rs.length = rs := by
    rw [replies_of_drain hresult, List.take_length, Nat.sub_self, List.replicate_zero,
      List.append_nil]
  have hle := length_matched_replies_le h rs.length
  rw [hreplies, length_matched hinit] at hle
  rw [hresult, List.length_append, List.length_singleton]
  omega

theorem replies_succ (n : Nat) (s : Scanner) :
    s.replies (n + 1) = s.replies n ++ [(s.ask n).scanner.next.result] := by
  rw [← result_ask, ask_add, ask_one, ← result_ask n]
  rfl

/-- **Behind so many requests** as there are characters ahead, the next one
gets the last reply. -/
theorem isLast_next_ask (h : s.IsPlaced) {n : Nat} (hn : s.ahead ≤ n) :
    (s.ask n).scanner.next.result.isLast := by
  obtain ⟨rs, last, hresult, hlast, -⟩ := drain_eq_ask s
  have hlength := length_drain_le h
  rw [hresult, List.length_append, List.length_singleton] at hlength
  -- the walk is over by then, so its last reply is given again
  have hmore : n + 1 - rs.length = (n - rs.length) + 1 := by omega
  have hreplies := replies_of_drain hresult (n + 1)
  rw [replies_succ, hmore, List.replicate_succ', ← List.append_assoc] at hreplies
  have hnext := (List.append_inj' hreplies rfl).2
  rw [List.cons.inj hnext |>.1]
  exact hlast

end Scanner

open Scanner in
/-- **Every scan comes to an end.**  Whatever the reads of a source come to and
whatever was asked before, a scanner can go only so many steps, each of which
moves the cursor over some bytes of the line, takes something of the feed or
finds its end.  The next reply is come upon in such steps: seeking stops where
no step is left but to match a lexeme.  All the requests together get no more
tokens than there are characters in the lines that can be read; the request
behind so many gets a last reply, and so a walk ends. -/
theorem serve_terminates (feed : Feed) (file? : Option String) (requests : List Request) :
    let served := (ofFeed feed file?).serve requests
    let s := served.scanner
    let replies := served.result.flatMap Answer.replies
    let given := replies.filterMap Reply.matched?
    let count := feed.lines.flatten.length
    (∀ n u, Reaches n s u →
        n ≤ s.budget ∧ ∀ records lines ts u', u.Step records lines ts u' → u.GetsOn u')
      ∧ (s.phase = .scanning →
        (∃ lines, s.Run s.seek.records lines [] s.seek.scanner)
          ∧ ∀ records lines u, ¬ s.seek.scanner.Step records lines [] u)
      ∧ (∃ n ≤ s.budget, Reaches n s s.next.scanner)
      ∧ given.length ≤ count
      ∧ (∀ n, count ≤ replies.length + n → (s.ask n).scanner.next.result.isLast)
      ∧ given.length + s.drain.result.length ≤ count + 1 := by
  intro served s replies given count
  have hfresh := isPlaced_ofFeed feed file?
  have hcount : (ofFeed feed file?).ahead = count := ahead_ofFeed feed file?
  obtain ⟨lines, hserve⟩ := serve_run hfresh requests
  have hs : s.IsPlaced := hfresh.run hserve
  have hpaid : given.length + s.ahead ≤ count := by
    rw [← hcount]
    exact ahead_run hfresh hserve
  refine ⟨?steps, ?seeks, ?next, ?tokens, ?last, ?walk⟩
  case steps =>
    intro n u hsteps
    refine ⟨?_, fun _ _ _ _ hstep => hstep.getsOn (hsteps.isPlaced hs)⟩
    have hbudget := hsteps.add_budget_le
    omega
  case seeks =>
    intro hscanning
    obtain ⟨hrun, hfound⟩ := seek_run hscanning hs
    refine ⟨hrun, fun _ _ _ => ?_⟩
    by_cases hphase : s.seek.scanner.phase = .scanning
    · exact not_step_of_hasLexeme (hfound hphase)
    · exact not_step_of_stopped hphase
  case next =>
    obtain ⟨_, hnext⟩ := next_run hs
    obtain ⟨n, hsteps⟩ := hnext.reaches
    have hbudget := hsteps.add_budget_le
    exact ⟨n, by omega, hsteps⟩
  case tokens => omega
  case last =>
    intro n hn
    have hask : (ofFeed feed file?).ask replies.length = ⟨replies, served.records, s⟩ :=
      ask_of_serve requests _
    have hlast := isLast_next_ask hfresh (hcount ▸ hn)
    rw [ask_add, hask] at hlast
    exact hlast
  case walk =>
    have hwalk := length_drain_le hs
    omega

end LineLexer
