/-
  LineLexer.Proofs.Bounds
  ───────────────────────
  **EVERY CUT IS WITHIN BOUNDS.**

  A scanner cuts its line at byte offsets, which it gets by adding up the
  lengths that were matched.  A cut outside of the line, or in the middle of
  a character, would be an error.  None is ever made:

      IsCut               — what can be cut off a text
      IsPlaced.inBounds   — a cursor between two characters is within bounds
      exists_longestMatch — some rule matches wherever something is left
      IsPlaced.cuts       — so whatever is cut off there can be
      Remembers.step      — every step keeps the lexeme that was matched last
      serve_inBounds      — and all this holds after any requests, and on the
                            way to the next token
-/
import LineLexer.Proofs.Tally

namespace LineLexer

/-! ## §1. Cuts. -/

namespace Utf8

/-- So many bytes can be cut off a text: there are some, there are no more than
the text has, and no character is cut in two. -/
structure IsCut (n : Nat) (t : Text) : Prop where
  /-- Something is cut off. -/
  pos : 0 < n
  /-- It lies within the text. -/
  le : n ≤ size t
  /-- It is made of whole characters. -/
  boundary : IsBoundary n t

theorem isBoundary_append (s t : Text) : IsBoundary (size s) (s ++ t) := by
  unfold IsBoundary
  rw [takeBytes_size_append]

/-- The front of a text can be cut off. -/
theorem isCut_of_isPrefix {w t : Text} (h : w <+: t) (hne : w ≠ []) : IsCut (size w) t := by
  obtain ⟨rest, rfl⟩ := h
  refine ⟨size_pos_of_ne_nil hne, ?_, isBoundary_append w rest⟩
  rw [size_append]
  exact Nat.le_add_right _ _

/-- A cut at a boundary is a cut of the bytes. -/
theorem IsBoundary.encode_takeBytes {n : Nat} {t : Text} (h : IsBoundary n t) :
    encode (takeBytes n t) = (encode t).take n
      ∧ encode (dropBytes n t) = (encode t).drop n := by
  have hlength : (encode (takeBytes n t)).length = n := by
    rw [length_encode]
    exact h
  have hsplit : encode t = encode (takeBytes n t) ++ encode (dropBytes n t) := by
    rw [← encode_append, takeBytes_append_dropBytes]
  rw [hsplit]
  exact ⟨(List.take_left' hlength).symm, (List.drop_left' hlength).symm⟩

end Utf8

/-- A piece of trivia can be cut off. -/
theorem Trivia.isCut {t : Text} {n : Nat} (h : pieceLength? t = some n) : Utf8.IsCut n t := by
  obtain ⟨w, rest, rfl, rfl, hne, -⟩ := exists_piece h
  exact Utf8.isCut_of_isPrefix (List.prefix_append w rest) hne

namespace Matcher

/-- **Some rule matches wherever something is left**, and what wins can be cut
off. -/
theorem exists_longestMatch {t : Text} (hne : t ≠ []) :
    ∃ hit, standard.longestMatch t = some hit ∧ Utf8.IsCut hit.length t := by
  cases hm : standard.longestMatch t with
  | none =>
      -- one character can always be matched
      obtain ⟨c, t, rfl⟩ := List.exists_cons_of_ne_nil hne
      have hany : ⟨.any, _⟩ ∈ standard.hits (c :: t) :=
        mem_hits.2 ⟨rule_mem_standard .error, rfl⟩
      rw [longestMatch_eq_none_iff.1 hm] at hany
      exact absurd hany List.not_mem_nil
  | some hit =>
      obtain ⟨-, hlength⟩ := mem_hits.1 (mem_hits_of_longestMatch hm)
      obtain ⟨hfront, hsize⟩ := Rule.matchLength?_eq_some_iff.1 hlength
      exact ⟨hit, rfl, hsize ▸ Utf8.isCut_of_isPrefix (hit.rule.front_isPrefix t) hfront⟩

end Matcher

namespace Scanner

/-! ## §2. The cursor. -/

/-- The cursor is within the line, and cuts no character in two. -/
structure InBounds (s : Scanner) : Prop where
  /-- It is within the line. -/
  le : s.pos ≤ Utf8.size s.line
  /-- It cuts no character in two. -/
  boundary : Utf8.IsBoundary s.pos s.line

/-- What a scanner cuts off its line can be cut off: what stands behind the
cursor, a piece of trivia there, and the lexeme that some rule finds there. -/
structure Cuts (s : Scanner) : Prop where
  /-- The cursor is within bounds. -/
  cursor : s.InBounds
  /-- What is left of the line are its bytes behind the cursor. -/
  remainder : Utf8.encode s.remainder = (Utf8.encode s.line).drop s.pos
  /-- A piece of trivia is within what is left. -/
  trivia : ∀ n, Trivia.pieceLength? s.remainder = some n → Utf8.IsCut n s.remainder
  /-- If anything is left, some rule matches, and its match is within it. -/
  lexeme : s.remainder ≠ [] → ∃ hit, Matcher.standard.longestMatch s.remainder = some hit
    ∧ Utf8.IsCut hit.length s.remainder
    ∧ Utf8.encode (Utf8.takeBytes hit.length s.remainder)
      = (Utf8.encode s.remainder).take hit.length

variable {s u : Scanner}

/-- **A cursor between two characters is within bounds.** -/
theorem IsPlaced.inBounds (h : s.IsPlaced) : s.InBounds := by
  obtain ⟨before, rest, hat⟩ := h
  constructor
  · rw [hat.line, hat.pos, Utf8.size_append]
    exact Nat.le_add_right _ _
  · rw [hat.line, hat.pos]
    exact Utf8.isBoundary_append before rest

/-- **Whatever is cut off there can be.** -/
theorem IsPlaced.cuts (h : s.IsPlaced) : s.Cuts where
  cursor := h.inBounds
  remainder := h.inBounds.boundary.encode_takeBytes.2
  trivia := fun _ hn => Trivia.isCut hn
  lexeme := by
    intro hne
    obtain ⟨hit, hmatch, hcut⟩ := Matcher.exists_longestMatch hne
    exact ⟨hit, hmatch, hcut, hcut.boundary.encode_takeBytes.1⟩

theorem ne_scanning_of_stopped (h : s.isFinished ∨ s.hasFailed) : s.phase ≠ .scanning := by
  intro hs
  obtain ⟨hfailure, hfinished⟩ := phase_eq_scanning_iff.1 hs
  simp [isFinished, hasFailed, hfailure, hfinished] at h

/-- A scanner that has stopped stands at the beginning of an empty line. -/
theorem Tally.pos_of_stopped {feed : Feed} {file : String} {lines : List Text}
    (h : s.Tally feed file lines) (hstopped : s.phase ≠ .scanning) :
    s.line = [] ∧ s.pos = 0 := by
  have hline := h.closed hstopped
  have hle := (IsPlaced.inBounds h.cursor).le
  rw [hline] at hle
  exact ⟨hline, Nat.le_zero.1 hle⟩

/-! ## §3. The lexeme that was matched last. -/

/-- The scanner remembers the lexeme of the last one of the tokens. -/
def Remembers (ts : List Token) (s : Scanner) : Prop :=
  s.lastLexeme? = ts.getLast?.bind Token.lexeme?

namespace Remembers

variable {ts ts' : List Token} {records : List Log.Record} {lines : List Text}

/-- **Every step keeps the lexeme that was matched last.** -/
theorem step (h : s.Remembers ts) (hstep : s.Step records lines ts' u) :
    u.Remembers (ts ++ ts') := by
  cases hstep with
  | lexeme _ _ _ ht =>
      show _ = (ts ++ [_]).getLast?.bind _
      rw [List.getLast?_concat, ← Reply.token.inj ht]
      rfl
  | _ =>
      rw [List.append_nil]
      exact h

theorem run (h : s.Remembers ts) (hrun : s.Run records lines ts' u) :
    u.Remembers (ts ++ ts') := by
  induction hrun generalizing ts with
  | nil => rwa [List.append_nil]
  | cons hstep _ ih =>
      rw [← List.append_assoc]
      exact ih (h.step hstep)

end Remembers

end Scanner

/-- **No cut is out of bounds.**  After any requests, the cursor of a scanner
stands within its line, between two characters of it; once the source has
ended or failed, that line is empty, and a failure is kept with the place where
it starts.  The scanner keeps no lexeme as long as it has given no token, and
from then on that of the last one.  Asked for another token, it seeks by a run
that stops where the source does, or in front of some text; and in every state
that such a run can pass, what is left of the line can be cut off it, a piece
of trivia can be cut off what is left, and if anything is left, a rule matches
there, whose match can be cut off, too. -/
theorem serve_inBounds (feed : Feed) (file? : Option String) (requests : List Request) :
    let served := (Scanner.ofFeed feed file?).serve requests
    let s := served.scanner
    let ts := (served.result.flatMap Answer.replies).filterMap Reply.matched?
    s.InBounds
      ∧ (s.isFinished ∨ s.hasFailed → s.line = [] ∧ s.pos = 0)
      ∧ (∀ position cause, s.phase = .failed position cause →
        position = ⟨s.lineStart, s.file⟩)
      ∧ (s.lastLexeme? = none ↔ ts = [])
      ∧ (∀ t, ts.getLast? = some t → s.lastLexeme? = t.lexeme?)
      ∧ (s.phase = .scanning → (∃ lines, s.Run s.seek.records lines [] s.seek.scanner)
        ∧ (s.seek.scanner.phase = .scanning → s.seek.scanner.remainder ≠ []))
      ∧ ∀ records lines u, s.Run records lines [] u → u.Cuts := by
  intro served s ts
  obtain ⟨lines, hrun, htally, hway⟩ := Scanner.exists_tally_serve feed file? requests
  have hplaced : s.IsPlaced := htally.cursor
  have hlast : s.Remembers ts := by
    have hnone : (Scanner.ofFeed feed file?).Remembers [] := rfl
    exact hnone.run hrun
  refine ⟨hplaced.inBounds, ?_, htally.failed, ?_, ?_, ?_, ?_⟩
  · exact fun hstopped => htally.pos_of_stopped (Scanner.ne_scanning_of_stopped hstopped)
  · rw [hlast]
    cases hts : ts.getLast? with
    | none => exact ⟨fun _ => List.getLast?_eq_none_iff.1 hts, fun _ => rfl⟩
    | some t =>
        have hmem := List.mem_of_getLast? hts
        obtain ⟨-, l, -, -, -, hl, -⟩ := hway.standsIn t hmem
        have hsome : (some t).bind Token.lexeme? = some l := hl
        rw [hsome]
        exact ⟨nofun, fun hnil => absurd hmem (hnil ▸ List.not_mem_nil)⟩
  · intro t ht
    rw [hlast, ht]
    rfl
  · intro hs
    obtain ⟨hseek, hfound⟩ := Scanner.seek_run hs hplaced
    exact ⟨hseek, fun hscanning => (hfound hscanning).ne_nil⟩
  · exact fun _ _ _ hrun => (hplaced.run hrun).cuts

end LineLexer
