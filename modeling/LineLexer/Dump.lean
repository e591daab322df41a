/-
  LineLexer.Dump
  ──────────────
  **A TOKEN STREAM AS TEXT.**

  A dump writes every token of a source on a line of its own, the end of the
  source included, and counts the characters that belong to no token.  It
  writes while it scans, so what was written stays written when

      a read fails            — the lines of the tokens before it stand
      the output has no room  — it holds as many bytes as fit
-/
import LineLexer.Failure
import LineLexer.Scanner

namespace LineLexer

open Log (Record)

/-- How a dump ends. -/
inductive DumpEnd where
  /-- The end of the source was written; so many characters belong to no
  token. -/
  | complete (errors : Nat)
  /-- A read failed. -/
  | readFailed (error : Error)
  /-- The output had no room for a whole line. -/
  | outputFull
  deriving Repr, DecidableEq

/-- What a dump has come to. -/
structure Dump where
  /-- The bytes that were written. -/
  written : List UInt8
  /-- How the dump ended. -/
  ending : DumpEnd
  /-- What the scanner reported. -/
  records : List Record
  deriving Repr, DecidableEq

/-- Why the dump is not complete. -/
def DumpEnd.failure? : DumpEnd → Option Failure
  | complete _ => none
  | readFailed e =>
      some ⟨"scanning stopped", e.message :: (e.fault.cause?.map (·.message)).toList⟩
  | outputFull => some ⟨"failed to write whole buffer", []⟩

/-- The bytes of a token's line. -/
def Token.lineBytes (t : Token) : List UInt8 :=
  Utf8.encode (t.line ++ ['\n'])

/-- How many more bytes an output takes; `none` stands for no bound. -/
abbrev Room := Option Nat

/-- The part of the bytes for which there is room. -/
def Room.fit : Room → List UInt8 → List UInt8
  | none, bytes => bytes
  | some room, bytes => bytes.take room

/-- The room that is left behind so many bytes. -/
def Room.after (size : Nat) (room : Room) : Room :=
  room.map (· - size)

namespace Scanner

/-- Dumps the tokens of a scanner into an output with the given room. -/
def dump (s : Scanner) (room : Room) : Dump :=
  go 0 room s
where
  /-- Goes on when so many characters have been counted. -/
  go (errors : Nat) (room : Room) (s : Scanner) : Dump :=
    let step := s.next
    match _h : step.result with
    | .failure e => ⟨[], .readFailed e, step.records⟩
    | .token t =>
        -- a token counts before its line is written
        let errors := if t.category = .error then errors + 1 else errors
        let fitting := Room.fit room t.lineBytes
        if fitting ≠ t.lineBytes then ⟨fitting, .outputFull, step.records⟩
        else if t.isEnd then ⟨t.lineBytes, .complete errors, step.records⟩
        else
          let rest := go errors (Room.after t.lineBytes.length room) step.scanner
          { rest with
            written := t.lineBytes ++ rest.written
            records := step.records ++ rest.records }
  termination_by s.pending
  decreasing_by
    apply pending_next_lt
    simp_all [step, Reply.isLast]

end Scanner

/-- Whether a source with so many characters that belong to no token is to be
rejected. -/
def rejects (denyErrors : Bool) (errors : Nat) : Bool :=
  denyErrors && 0 < errors

end LineLexer
