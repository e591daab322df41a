/-
  LineLexer.Proofs.Stream
  ───────────────────────
  **REQUESTS GIVE THE TOKENS OF EACH LINE, AND THEN THE LAST REPLY.**

  Whatever the reads of a source come to, a scanner can be asked for tokens
  again and again.  What it gives is settled by the lines that can be read:
  each is as good as a text of its own, and after them comes either the end of
  the source or the failure that ended it, on every further request.

      replies_of_isLast  — the last reply is given for good
      replies_of_drain   — requests give what a walk gives
      replies_ofFeed     — and that is the tokens of the lines, in their places
-/
import LineLexer.Proofs.Tokenizing

namespace LineLexer

namespace Scanner

/-! ## §1. Requests for single tokens. -/

/-- What so many requests give. -/
def replies : Nat → Scanner → List Reply
  | 0, _ => []
  | n + 1, s => s.next.result :: s.next.scanner.replies n

/-- A lexeme that is matched is never the end of the source. -/
theorem isLast_take (s : Scanner) : s.take.result.isLast = false := by
  show (Vocabulary.standard.resolve _ == .eof) = false
  exact beq_eq_false_iff_ne.2 (Vocabulary.resolve_ne_eof _ _)

/-- The scanner can put the last reply together again. -/
theorem lastReply?_next {s : Scanner} (h : s.next.result.isLast) :
    s.next.scanner.lastReply? = some s.next.result := by
  cases hlast : s.lastReply? with
  | some reply =>
      rw [next_of_lastReply? hlast]
      exact hlast
  | none =>
      have hs := lastReply?_eq_none_iff.1 hlast
      cases hfound : s.seek.result with
      | some reply =>
          rw [next_of_closed hs hfound, ← hfound]
          exact lastReply?_seek hs
      | none =>
          -- a lexeme would have been matched, and that is no last reply
          rw [next_of_found hs hfound] at h
          exact absurd h (by simp [isLast_take])

theorem replies_of_lastReply? {s : Scanner} {r : Reply} (h : s.lastReply? = some r) (n : Nat) :
    s.replies n = List.replicate n r := by
  induction n with
  | zero => rfl
  | succ n ih =>
      show s.next.result :: s.next.scanner.replies n = _
      rw [next_of_lastReply? h, ih]
      rfl

/-- **The last reply is given for good.** -/
theorem replies_of_isLast {s : Scanner} (h : s.next.result.isLast) (n : Nat) :
    s.replies n = List.replicate n s.next.result := by
  cases n with
  | zero => rfl
  | succ n =>
      show s.next.result :: s.next.scanner.replies n = _
      rw [replies_of_lastReply? (lastReply?_next h)]
      rfl

theorem drain_result_ne_nil (s : Scanner) : s.drain.result ≠ [] := by
  cases h : s.next.result.isLast with
  | true =>
      rw [drain_of_isLast h]
      exact List.cons_ne_nil _ _
  | false =>
      rw [drain_of_not_isLast h]
      exact List.cons_ne_nil _ _

/-- **Requests give what a walk gives**, and go on with its last reply. -/
theorem replies_of_drain {s : Scanner} {rs : List Reply} {last : Reply}
    (h : s.drain.result = rs ++ [last]) (n : Nat) :
    s.replies n = rs.take n ++ List.replicate (n - rs.length) last := by
  -- over the replies before the last one, for any number of requests
  induction rs generalizing s n with
  | nil =>
      cases hlast : s.next.result.isLast with
      | true =>
          rw [drain_of_isLast hlast] at h
          rw [replies_of_isLast hlast, List.take_nil, List.length_nil, Nat.sub_zero]
          rw [show s.next.result = last from (List.cons.inj h).1]
          rfl
      | false =>
          -- the walk would go on
          rw [drain_of_not_isLast hlast] at h
          exact absurd (List.cons.inj h).2 (drain_result_ne_nil _)
  | cons r rs ih =>
      cases hlast : s.next.result.isLast with
      | true =>
          rw [drain_of_isLast hlast] at h
          exact absurd (List.cons.inj h).2.symm (List.append_ne_nil_of_right_ne_nil _ nofun)
      | false =>
          rw [drain_of_not_isLast hlast] at h
          obtain ⟨hr, hrest⟩ := List.cons.inj h
          cases n with
          | zero =>
              rw [Nat.zero_sub]
              rfl
          | succ n =>
              show s.next.result :: s.next.scanner.replies n = _
              rw [ih hrest, hr, List.length_cons, Nat.add_sub_add_right]
              rfl

/-- Requests give the tokens of the lines of the feed, if these are
decomposed, and then the last reply. -/
theorem replies_of_lines {ds : List Decomposition} (hds : ∀ e ∈ ds, e.IsProper []) {feed : Feed}
    (hlines : feed.lines = ds.map Decomposition.text) (file? : Option String) (n : Nat) :
    let file := file?.getD defaultFile
    let ts := (Decomposition.joined ds).tokens file 0
    (ofFeed feed file?).replies n =
      (ts.map Reply.token).take n
        ++ List.replicate (n - ts.length)
            (.closing file (Utf8.size feed.lines.flatten) feed.failure?) := by
  intro file ts
  rw [replies_of_drain (drain_of_lines hds hlines file?), List.length_map, hlines,
    ← Decomposition.text_joined]

end Scanner

/-! ## §2. Lines in their places. -/

/-- The tokens of lines that were scanned each on its own, in the places that
they have in the whole source: without the marks of their ends, and moved
behind the lines before. -/
def placed : Nat → List (Text × List Token) → List Token
  | _, [] => []
  | offset, (line, ts) :: scans =>
      (ts.filter (fun t => !t.isEnd)).map (·.shift offset)
        ++ placed (offset + Utf8.size line) scans

/-- What the scan of a line gives, if it is decomposed. -/
def Decomposition.scan (file : String) (d : Decomposition) : Text × List Token :=
  (d.text, d.tokens file 0 ++ [.endOf file (Utf8.size d.text)])

open Decomposition in
/-- Lines that are scanned on their own have the tokens of the whole. -/
theorem placed_scans (file : String) {ds : List Decomposition}
    (hds : ∀ d ∈ ds, d.IsProper []) :
    ∀ offset, placed offset (ds.map (scan file)) = (joined ds).tokens file offset := by
  induction ds with
  | nil => exact fun _ => rfl
  | cons d ds ih =>
      intro offset
      obtain ⟨hd, hds⟩ := List.forall_mem_cons.1 hds
      have hend : [Token.endOf file (Utf8.size d.text)].filter (fun t => !t.isEnd) = [] := rfl
      show ((d.tokens file 0 ++ [_]).filter _).map _ ++ placed (offset + _) (ds.map (scan file))
        = (d.glue (joined ds)).tokens file offset
      rw [List.filter_append, hend, List.append_nil, hd.filter_tokens, ← tokens_add, ih hds,
        tokens_glue, Nat.zero_add]

/-- **A scanner gives the tokens of the lines that can be read**, each line
scanned as a text of its own; and then, as often as it is asked, the end of
the source or the failure of the read that ended it. -/
theorem replies_ofFeed (feed : Feed) (file? : Option String) :
    ∃ scans : List (Text × List Token),
      scans.map Prod.fst = feed.lines
      ∧ (∀ scan ∈ scans, tokenize scan.1 file? = .ok scan.2)
      ∧ ∀ n, (Scanner.ofFeed feed file?).replies n =
          ((placed 0 scans).map Reply.token).take n
            ++ List.replicate (n - (placed 0 scans).length)
                (.closing (file?.getD Scanner.defaultFile) (Utf8.size feed.lines.flatten)
                  feed.failure?) := by
  obtain ⟨ds, hds, hproper⟩ := Decomposition.exists_proper_each feed.lines
  let file := file?.getD Scanner.defaultFile
  refine ⟨ds.map (Decomposition.scan file), ?_, ?_, ?_⟩
  · rw [List.map_map, ← hds]
    rfl
  · intro scan hscan
    obtain ⟨d, hd, rfl⟩ := List.mem_map.1 hscan
    exact tokenize_of_proper (hproper d hd) file?
  · intro n
    have hdrain := Scanner.drain_ofFeed hproper hds.symm file?
    rw [Scanner.replies_of_drain hdrain, placed_scans file hproper, List.length_map,
      Decomposition.text_joined, hds]
    show _ ++ List.replicate _ (Reply.closing _ (0 + _) _) = _
    rw [Nat.zero_add]
    rfl

end LineLexer
