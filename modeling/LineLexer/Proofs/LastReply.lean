/-
  LineLexer.Proofs.LastReply
  ──────────────────────────
  **THE LAST REPLY IS GIVEN FOR GOOD.**

  A source ends once, or fails once.  From then on its scanner gives the same
  reply to whatever it is asked, reports nothing, reads nothing, and does not
  change at all.  What it gives is put together from what it has kept, so the
  two have to be tied to each other: the reply that a scanner can put together
  is the one that it gave.  A scanner notes an end and a failure apart, so it
  has to be shown that it never notes both.

      EndsOnce                 — not both an end and a failure are noted, which
                                 every request keeps
      lastReply?_ask_iff       — what is put together is what was given
      serve_of_lastReply?      — requests to a scanner with a last reply
      serve_behind_last_reply  — so every request behind a last reply repeats it
-/
import LineLexer.Proofs.Requests

namespace LineLexer

/-- The answer to a request when there is only a last reply left to give: a
walk gives it once. -/
def Request.again (last : Reply) : Request → Answer
  | .next => .one last
  | .drain => .all [last]
  | .iterate 0 => .each []
  | .iterate (n + 1) => .each (some last :: List.replicate n none)

namespace Scanner

/-! ## §1. Nothing changes any more. -/

theorem ask_of_lastReply? {s : Scanner} {last : Reply} (h : s.lastReply? = some last) (n : Nat) :
    s.ask n = ⟨List.replicate n last, [], s⟩ := by
  induction n with
  | zero => rfl
  | succ n ih =>
      show Account.mk (s.next.result :: (s.next.scanner.ask n).result) (_ ++ _) _ = _
      rw [next_of_lastReply? h, ih]
      rfl

/-- Any request is answered with the last reply. -/
theorem respond_of_lastReply? {s : Scanner} {last : Reply} (h : s.lastReply? = some last)
    (r : Request) : s.respond r = ⟨r.again last, [], s⟩ := by
  have hnext := next_of_lastReply? h
  have hlast : s.next.result.isLast := by
    rw [hnext]
    exact isLast_of_lastReply? h
  cases r with
  | next =>
      show Account.mk (Answer.one s.next.result) s.next.records s.next.scanner = _
      rw [hnext]
      rfl
  | drain =>
      show s.drain.map Answer.all = _
      rw [drain_of_isLast hlast, hnext]
      rfl
  | iterate n =>
      cases n with
      | zero => rfl
      | succ n =>
          show (Walk.calls (n + 1) ⟨s, false⟩).map Answer.each = _
          rw [Walk.calls_succ, hlast, Walk.calls_of_isOver, hnext]
          rfl

/-- **Any requests are answered with the last reply**, and leave no trace. -/
theorem serve_of_lastReply? {s : Scanner} {last : Reply} (h : s.lastReply? = some last)
    (requests : List Request) : s.serve requests = ⟨requests.map (·.again last), [], s⟩ := by
  induction requests with
  | nil => rfl
  | cons r rs ih =>
      show Account.mk ((s.respond r).result :: ((s.respond r).scanner.serve rs).result) (_ ++ _) _
        = _
      rw [respond_of_lastReply? h, ih]
      rfl

/-! ## §2. Not both an end and a failure. -/

/-- The scanner has not noted both an end and a failure. -/
def EndsOnce (s : Scanner) : Prop :=
  ¬ (s.isFinished ∧ s.hasFailed)

theorem endsOnce_of_scanning {s : Scanner} (hs : s.phase = .scanning) : s.EndsOnce := by
  obtain ⟨-, hfinished⟩ := phase_eq_scanning_iff.1 hs
  intro h
  exact Bool.false_ne_true (hfinished.symm.trans h.1)

/-- A search notes one of them at most. -/
theorem endsOnce_seek {s : Scanner} (hs : s.phase = .scanning) : s.seek.scanner.EndsOnce := by
  fun_induction seek s with
  | case1 => exact endsOnce_of_scanning hs
  | case2 s moved hused text feed hread loaded sought ih => exact ih hs
  | case3 s moved hused feed hread ended =>
      -- the flag is set where no failure was kept
      obtain ⟨hfailure, -⟩ := phase_eq_scanning_iff.1 hs
      intro h
      have hfailed : s.failure?.isSome := h.2
      rw [show s.failure? = none from hfailure] at hfailed
      cases hfailed
  | case4 s moved hused cause feed hread failed error =>
      -- a failure is kept where the flag was not set
      obtain ⟨-, hfinished⟩ := phase_eq_scanning_iff.1 hs
      intro h
      exact Bool.false_ne_true (hfinished.symm.trans h.1)

/-- **A request notes one of them at most.** -/
theorem EndsOnce.next {s : Scanner} (h : s.EndsOnce) : s.next.scanner.EndsOnce := by
  cases hlast : s.lastReply? with
  | some r =>
      rw [next_of_lastReply? hlast]
      exact h
  | none =>
      have hs := lastReply?_eq_none_iff.1 hlast
      have hsought := endsOnce_seek hs
      cases hclosed : s.seek.result with
      | some r =>
          rw [next_of_closed hs hclosed]
          exact hsought
      | none =>
          rw [next_of_found hs hclosed]
          exact hsought

/-- **So do any requests.** -/
theorem EndsOnce.ask {s : Scanner} (h : s.EndsOnce) (n : Nat) : (s.ask n).scanner.EndsOnce := by
  induction n generalizing s with
  | zero => exact h
  | succ n ih => exact ih h.next

/-- So the flag of an end and the phase tell the same. -/
theorem EndsOnce.isFinished_iff {s : Scanner} (h : s.EndsOnce) :
    s.isFinished ↔ s.phase = .finished := by
  unfold EndsOnce isFinished hasFailed at h
  unfold isFinished phase
  cases hfailure : s.failure? with
  | none => cases s.finished <;> simp
  | some held =>
      have hfinished : ¬ s.finished := fun hf => h ⟨hf, by rw [hfailure]; rfl⟩
      simp [hfinished]

theorem hasFailed_iff (s : Scanner) :
    s.hasFailed ↔ ∃ position cause, s.phase = .failed position cause := by
  unfold hasFailed phase
  cases s.failure? with
  | none => cases s.finished <;> simp
  | some held => simp

/-! ## §3. What is put together is what was given. -/

theorem exists_token_iff (s : Scanner) :
    (∃ t, s.lastReply? = some (.token t)) ↔ s.phase = .finished := by
  rw [lastReply?_eq]
  cases s.phase <;> simp

theorem exists_failure_iff (s : Scanner) :
    (∃ e, s.lastReply? = some (.failure e))
      ↔ ∃ position cause, s.phase = .failed position cause := by
  rw [lastReply?_eq]
  cases s.phase <;> simp

theorem phase_next {s : Scanner} (h : s.next.result.isLast = false) :
    s.next.scanner.phase = .scanning := by
  cases hlast : s.lastReply? with
  | some r =>
      rw [next_of_lastReply? hlast, isLast_of_lastReply? hlast] at h
      cases h
  | none =>
      have hs := lastReply?_eq_none_iff.1 hlast
      cases hfound : s.seek.result with
      | some r =>
          rw [next_of_closed hs hfound, isLast_of_seek hfound] at h
          cases h
      | none =>
          rw [next_of_found hs hfound]
          show s.seek.scanner.phase = .scanning
          exact lastReply?_eq_none_iff.1 ((lastReply?_seek hs).trans hfound)

/-- **A scanner that began to scan can put a last reply together** if and only
if it has given it. -/
theorem lastReply?_ask_iff {s : Scanner} (hs : s.phase = .scanning) (n : Nat) (r : Reply) :
    (s.ask n).scanner.lastReply? = some r ↔ r ∈ (s.ask n).result ∧ r.isLast := by
  induction n generalizing s with
  | zero =>
      rw [show (s.ask 0).scanner.lastReply? = none from lastReply?_eq_none_iff.2 hs]
      exact ⟨nofun, fun h => absurd h.1 List.not_mem_nil⟩
  | succ n ih =>
      show (s.next.scanner.ask n).scanner.lastReply? = some r
        ↔ r ∈ s.next.result :: (s.next.scanner.ask n).result ∧ r.isLast
      cases hlast : s.next.result.isLast with
      | true =>
          -- the first reply is the last one, and all the others repeat it
          have hkept := lastReply?_next hlast
          rw [ask_of_lastReply? hkept, hkept, Option.some.injEq, List.mem_cons]
          constructor
          · rintro rfl
            exact ⟨.inl rfl, hlast⟩
          · rintro ⟨rfl | hr, -⟩
            · rfl
            · exact (List.eq_of_mem_replicate hr).symm
      | false =>
          rw [ih (phase_next hlast), List.mem_cons]
          constructor
          · exact fun ⟨hr, hrlast⟩ => ⟨.inr hr, hrlast⟩
          · rintro ⟨rfl | hr, hrlast⟩
            · simp [hlast] at hrlast
            · exact ⟨hr, hrlast⟩

end Scanner

/-- **Behind a last reply there is nothing else.**  Whatever requests brought
it about, a scanner has finished if and only if it has given an end, has
failed if and only if it has given a failure, and never both; and once it has
given the one or the other, it answers all further requests with that very
reply, reports nothing more, and stays as it is, with all that its feed might
still deliver. -/
theorem serve_behind_last_reply (feed : Feed) (file? : Option String) (before : List Request) :
    let served := (Scanner.ofFeed feed file?).serve before
    let given := served.result.flatMap Answer.replies
    (served.scanner.isFinished ↔ ∃ t, .token t ∈ given ∧ t.isEnd)
      ∧ (served.scanner.hasFailed ↔ ∃ e, .failure e ∈ given)
      ∧ ¬ (served.scanner.isFinished ∧ served.scanner.hasFailed)
      ∧ ∀ last ∈ given, last.isLast → ∀ requests : List Request,
          served.scanner.serve requests
            = ⟨requests.map (·.again last), [], served.scanner⟩ := by
  intro served given
  have hask : (Scanner.ofFeed feed file?).ask given.length
      = ⟨given, served.records, served.scanner⟩ := Scanner.ask_of_serve before _
  have hkept : ∀ r, served.scanner.lastReply? = some r ↔ r ∈ given ∧ r.isLast := by
    intro r
    have h := Scanner.lastReply?_ask_iff (s := .ofFeed feed file?) rfl given.length r
    rwa [hask] at h
  have honce : served.scanner.EndsOnce := by
    have hbegin : (Scanner.ofFeed feed file?).EndsOnce := Scanner.endsOnce_of_scanning rfl
    have h := hbegin.ask given.length
    rwa [hask] at h
  refine ⟨?finished, ?failed, honce, ?again⟩
  case finished =>
    rw [honce.isFinished_iff, ← Scanner.exists_token_iff]
    exact exists_congr fun t => hkept (.token t)
  case failed =>
    rw [Scanner.hasFailed_iff, ← Scanner.exists_failure_iff]
    refine exists_congr fun e => (hkept (.failure e)).trans ?_
    exact and_iff_left rfl
  case again =>
    intro last hgiven hlast requests
    exact Scanner.serve_of_lastReply? ((hkept last).2 ⟨hgiven, hlast⟩) requests

/-- A line, a read that fails, and a further line that is never read. -/
def Feed.cutShort : Feed :=
  [.data [55, 10], .failure ⟨.timedOut, "too slow"⟩, .data [56, 10]]

theorem serve_behind_cut_short :
    let served := (Scanner.ofFeed .cutShort none).serve [.drain]
    let failure := Reply.failure ⟨.sourceRead ⟨.timedOut, "too slow"⟩, ⟨2, "shell"⟩⟩
    served.result.flatMap Answer.replies
        = [.token ⟨.numeral, some ['7'], .within "shell" 0 1⟩, failure]
      ∧ served.scanner.serve [.next, .iterate 2, .drain]
        = ⟨[.one failure, .each [some failure, none], .all [failure]], [], served.scanner⟩ := by
  intro served failure
  have hlexeme : IsLexeme .numeral ['7'] :=
    .numeral (List.cons_ne_nil _ _) (List.forall_mem_singleton.2 (by decide))
  let line := Decomposition.lexeme [] .numeral ['7'] (.trivia ['\n'])
  have hproper : ∀ d ∈ [line], d.IsProper [] :=
    List.forall_mem_singleton.2 (Decomposition.isProper_line hlexeme)
  have hlines : Feed.cutShort.lines = [line].map Decomposition.text := by decide +kernel
  have hfailure : Feed.cutShort.failure? = some ⟨.timedOut, "too slow"⟩ := by decide +kernel
  have hgiven : served.result.flatMap Answer.replies
      = [.token ⟨.numeral, some ['7'], .within "shell" 0 1⟩, failure] := by
    show (Scanner.ofFeed .cutShort none).drain.result ++ [] = _
    rw [Scanner.drain_of_lines hproper hlines none, hfailure]
    rfl
  obtain ⟨-, -, -, hagain⟩ := serve_behind_last_reply .cutShort none [.drain]
  have hmem : failure ∈ served.result.flatMap Answer.replies := by
    rw [hgiven]
    exact List.mem_cons_of_mem _ List.mem_cons_self
  exact ⟨hgiven, hagain failure hmem rfl [.next, .iterate 2, .drain]⟩

end LineLexer
