/-
  LineLexer.Session
  ─────────────────
  **REQUESTS IN A ROW.**

  A session puts one scanner through a list of requests and notes, after
  each of them, everything about the scanner that can be seen from outside.
-/
import LineLexer.Walk

namespace LineLexer

open Log (Record)

/-- What can be asked of a scanner. -/
inductive Request where
  /-- One token. -/
  | next
  /-- All that a fresh walk gives. -/
  | drain
  /-- So many calls on a fresh walk. -/
  | iterate (count : Nat)
  deriving Repr, DecidableEq

/-- The answer to a request. -/
inductive Answer where
  /-- To `next`: its reply. -/
  | one (reply : Reply)
  /-- To `drain`: the replies of the walk. -/
  | all (replies : List Reply)
  /-- To `iterate`: for each call its reply, if the walk was not over. -/
  | each (replies : List (Option Reply))
  deriving Repr, DecidableEq

/-- What can be seen of a scanner, and what has happened since it was last
looked at. -/
structure Observation where
  /-- The answer to the request; `none` before the first one. -/
  answer? : Option Answer
  /-- The offset of the cursor. -/
  offset : Nat
  /-- The lexeme that was matched last. -/
  lastLexeme? : Option Text
  /-- Whether the source has been seen to end. -/
  finished : Bool
  /-- Whether a read has failed. -/
  failed : Bool
  /-- The records since the last observation. -/
  records : List Record
  deriving Repr, DecidableEq

namespace Scanner

/-- Answers a request. -/
def respond (s : Scanner) : Request → Account Answer
  | .next =>
      let step := s.next
      ⟨.one step.result, step.records, step.scanner⟩
  | .drain =>
      let walked := s.drain
      ⟨.all walked.result, walked.records, walked.scanner⟩
  | .iterate n =>
      let walked := s.iterate n
      ⟨.each walked.result, walked.records, walked.scanner⟩

/-- What can be seen of the scanner. -/
def observe (s : Scanner) (answer? : Option Answer) (records : List Record) : Observation where
  answer? := answer?
  offset := s.offset
  lastLexeme? := s.lastLexeme?
  finished := s.isFinished
  failed := s.hasFailed
  records := records

/-- The observations after each of the requests. -/
def observations (s : Scanner) : List Request → List Observation
  | [] => []
  | r :: rs =>
      let account := s.respond r
      account.scanner.observe (some account.result) account.records
        :: account.scanner.observations rs

end Scanner

/-- A whole session: the fresh scanner is looked at first, and then again
after each request. -/
def session (s : Scanner) (requests : List Request) : List Observation :=
  s.observe none [s.opening] :: s.observations requests

end LineLexer
