/-
  LineLexer.Walk
  ──────────────
  **ALL THE TOKENS OF A SOURCE.**

  A walk asks a scanner for token after token, up to and including the last
  reply: the end of the source, or the failure of a read.  It then gives
  nothing more, and leaves the scanner as it is.  A walk can be given up at
  any time and a fresh one begun on the same scanner.

      Scanner.drain    — the replies of a fresh walk, to its end
      Scanner.iterate  — what so many calls on a fresh walk give
      tokenize         — all the tokens of a text in memory
-/
import LineLexer.Scanner

namespace LineLexer

open Log (Record)

/-! ## §1. Walks. -/

/-- A walk over the tokens of a scanner. -/
structure Walk where
  /-- The scanner that is asked. -/
  scanner : Scanner
  /-- Whether the last reply has been given. -/
  isOver : Bool := false
  deriving Repr, DecidableEq

namespace Walk

/-- One call: a reply with the records that go with it, or nothing once the
walk is over. -/
def next (w : Walk) : Option Reply × List Record × Walk :=
  if w.isOver then (none, [], w)
  else
    let step := w.scanner.next
    (some step.result, step.records, ⟨step.scanner, step.result.isLast⟩)

/-- What so many calls give. -/
def calls : Nat → Walk → Account (List (Option Reply))
  | 0, w => ⟨[], [], w.scanner⟩
  | n + 1, w =>
      let (reply?, records, after) := w.next
      let rest := calls n after
      ⟨reply? :: rest.result, records ++ rest.records, rest.scanner⟩

/-- The first call on a walk that is not over is a request to the scanner. -/
theorem calls_succ (n : Nat) (s : Scanner) :
    calls (n + 1) ⟨s, false⟩ =
      let rest := calls n ⟨s.next.scanner, s.next.result.isLast⟩
      ⟨some s.next.result :: rest.result, s.next.records ++ rest.records, rest.scanner⟩ := rfl

/-- A walk that is over gives nothing, and leaves the scanner as it is. -/
theorem calls_of_isOver (n : Nat) (s : Scanner) :
    calls n ⟨s, true⟩ = ⟨List.replicate n none, [], s⟩ := by
  induction n with
  | zero => rfl
  | succ n ih =>
      show Account.mk (none :: (calls n ⟨s, true⟩).result) ([] ++ _) _ = _
      rw [ih]
      rfl

end Walk

/-! ## §2. Walks from a scanner. -/

namespace Scanner

/-- What `n` calls on a fresh walk give. -/
def iterate (n : Nat) (s : Scanner) : Account (List (Option Reply)) :=
  Walk.calls n { scanner := s }

/-- The replies of a fresh walk, up to and including the last one. -/
def drain (s : Scanner) : Account (List Reply) :=
  let step := s.next
  if _h : step.result.isLast then ⟨[step.result], step.records, step.scanner⟩
  else
    let rest := step.scanner.drain
    ⟨step.result :: rest.result, step.records ++ rest.records, rest.scanner⟩
termination_by s.pending
decreasing_by exact pending_next_lt (Bool.eq_false_iff.2 (by assumption))

end Scanner

/-! ## §3. Texts in memory. -/

/-- The token of a reply, or its error. -/
def Reply.toExcept : Reply → Except Error Token
  | .token t => .ok t
  | .failure e => .error e

/-- The tokens of a text; the last one marks its end. -/
def tokenize (source : Text) (file? : Option String) : Except Error (List Token) :=
  (Scanner.ofText source file?).drain.result.mapM Reply.toExcept

end LineLexer
