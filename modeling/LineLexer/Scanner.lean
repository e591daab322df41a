/-
  LineLexer.Scanner
  ─────────────────
  **TOKENS ON REQUEST.**

  A scanner hands out the tokens of a source one by one.  It holds one line
  at a time: no token spans a line feed, so a line is always enough to match
  the next token, and trivia over several lines is skipped line by line.

      seek  — skips trivia, reading on whenever the line is used up
      take  — matches the lexeme under the cursor and moves over it
      next  — a token, or the failure of a read

  A source ends once.  Seeking gives the last reply of a source when it comes
  upon it, and leaves behind what later requests need to give it again: a flag
  at the end of the source, and at a failed read its place, kind and wording,
  since the failure itself is handed out with the first error.  No request
  reads on from there.

  Offsets count the bytes of the lines that were read: `lineStart` those of
  the earlier lines, `pos` those of the present line before the cursor.
-/
import LineLexer.Feed
import LineLexer.Log
import LineLexer.Matcher
import LineLexer.Token
import LineLexer.Trivia

namespace LineLexer

open Log (Record)

/-! ## §1. Scanners. -/

/-- What a scanner keeps of a read that failed. -/
structure Held where
  /-- Where the line that could not be read would have started. -/
  position : Position
  /-- What kind of failure it was. -/
  kind : ReadFailure.Kind
  /-- Its wording. -/
  message : String
  deriving Repr, DecidableEq

/-- The error, put together again from what was kept. -/
def Held.error (h : Held) : Error :=
  ⟨.sourceRead ⟨h.kind, h.message⟩, h.position⟩

/-- A source, and how far it has been scanned. -/
structure Scanner where
  /-- The name of the source. -/
  file : String
  /-- What is still to be read. -/
  feed : Feed
  /-- The line that was read last. -/
  line : Text := []
  /-- The bytes of the line before the cursor. -/
  pos : Nat := 0
  /-- The bytes of all earlier lines. -/
  lineStart : Nat := 0
  /-- The lexeme that was matched last. -/
  lastLexeme? : Option Text := none
  /-- Whether the source has been seen to end. -/
  finished : Bool := false
  /-- What is kept of a read that failed. -/
  failure? : Option Held := none
  deriving Repr, DecidableEq

/-- Whether there is more to scan. -/
inductive Phase where
  /-- The source has not been seen to end. -/
  | scanning
  /-- The source has ended. -/
  | finished
  /-- A line could not be read; it would have started at the position. -/
  | failed (position : Position) (cause : ReadFailure)
  deriving Repr, DecidableEq

/-- What a request for a token gives. -/
inductive Reply where
  /-- A token; at the end of the source, the one that marks it. -/
  | token (token : Token)
  /-- The failure of a read. -/
  | failure (error : Error)
  deriving Repr, DecidableEq

/-- Whether a reply is the last one of its source. -/
def Reply.isLast : Reply → Bool
  | .token t => t.isEnd
  | .failure _ => true

/-- A result, what the scanner reported on the way to it, and the scanner
afterwards. -/
structure Account (α : Type) where
  /-- The result. -/
  result : α
  /-- The records, in their order. -/
  records : List Record
  /-- The scanner afterwards. -/
  scanner : Scanner
  deriving Repr, DecidableEq

namespace Scanner

/-- The name of a source that was given none. -/
def defaultFile : String := "shell"

/-- A scanner at the beginning of a feed. -/
def ofFeed (feed : Feed) (file? : Option String) : Scanner where
  file := file?.getD defaultFile
  feed := feed

/-- A scanner at the beginning of a text. -/
def ofText (source : Text) (file? : Option String) : Scanner :=
  ofFeed (.ofText source) file?

/-- The record with which the account of a scanner begins. -/
def opening (s : Scanner) : Record :=
  .opened s.file

/-- The byte offset of the cursor in the source. -/
def offset (s : Scanner) : Nat :=
  s.lineStart + s.pos

/-- The part of the line that lies behind the cursor. -/
def remainder (s : Scanner) : Text :=
  Utf8.dropBytes s.pos s.line

/-- Whether the source has been seen to end. -/
def isFinished (s : Scanner) : Bool :=
  s.finished

/-- Whether a read has failed. -/
def hasFailed (s : Scanner) : Bool :=
  s.failure?.isSome

/-- What the flag and the kept failure amount to; the failure counts first,
as it does for a request. -/
def phase (s : Scanner) : Phase :=
  match s.failure? with
  | some held => .failed held.position ⟨held.kind, held.message⟩
  | none => if s.finished then .finished else .scanning

/-- The token that marks the end of the source at the cursor. -/
def endToken (s : Scanner) : Token :=
  .endOf s.file s.offset

/-! ## §2. Moving on. -/

/-- The scanner with its cursor moved over `n` bytes of the line. -/
def advance (n : Nat) (s : Scanner) : Scanner :=
  { s with pos := s.pos + n }

/-- The scanner with the next line in place of the present one. -/
def load (text : Text) (feed : Feed) (s : Scanner) : Scanner :=
  { s with
    feed, line := text, pos := 0, lineStart := s.lineStart + Utf8.size s.line }

/-- The scanner at the end of its source, where no line is left. -/
def finish (feed : Feed) (s : Scanner) : Scanner :=
  { s.load [] feed with finished := true }

/-- The scanner behind a read that failed, some parts of which it keeps. -/
def fail (cause : ReadFailure) (feed : Feed) (s : Scanner) : Scanner :=
  let s := s.load [] feed
  { s with failure? := some ⟨⟨s.lineStart, s.file⟩, cause.kind, cause.message⟩ }

@[simp] theorem offset_advance (n : Nat) (s : Scanner) :
    (s.advance n).offset = s.offset + n := by
  simp [advance, offset, Nat.add_assoc]

@[simp] theorem offset_load (t : Text) (feed : Feed) (s : Scanner) :
    (s.load t feed).offset = s.lineStart + Utf8.size s.line := rfl

@[simp] theorem remainder_load (t : Text) (feed : Feed) (s : Scanner) :
    (s.load t feed).remainder = t :=
  Utf8.dropBytes_zero t

/-- Skips trivia, and reads on while nothing else is left of the line.  The
result is the last reply, if that is what is come upon; otherwise a lexeme is
under the cursor. -/
def seek (s : Scanner) : Account (Option Reply) :=
  let s := s.advance (Trivia.skip s.remainder)
  if s.remainder ≠ [] then ⟨none, [], s⟩
  else
    -- the line is used up, so the next one starts where it ends
    match _h : Feed.nextLine s.feed with
    | (.line text, feed) =>
        let s := s.load text feed
        let sought := s.seek
        { sought with
          records := .lineRead (Utf8.size text) s.file s.lineStart :: sought.records }
    | (.finished, feed) =>
        let s := s.finish feed
        ⟨some (.token s.endToken), [.ended s.file s.offset], s⟩
    | (.failed cause, feed) =>
        let s := s.fail cause feed
        -- the failure is handed out as it was met
        let error : Error := ⟨.sourceRead cause, ⟨s.lineStart, s.file⟩⟩
        ⟨some (.failure error), [.readFailed s.file s.lineStart cause], s⟩
termination_by Feed.weight s.feed
decreasing_by exact Feed.weight_nextLine_lt (by assumption)

/-- Matches the lexeme under the cursor and moves over it. -/
def take (s : Scanner) : Account Reply :=
  let hit := Matcher.standard.pick s.remainder
  let lexeme := Utf8.takeBytes hit.length s.remainder
  let category := Vocabulary.standard.resolve lexeme
  let moved := { s.advance hit.length with lastLexeme? := some lexeme }
  { result := .token ⟨category, some lexeme, .within s.file s.offset moved.offset⟩
    records := [.matched category lexeme hit.rule s.offset moved.offset]
    scanner := moved }

/-! ## §3. Requests. -/

/-- The reply that a scanner puts together from what it keeps, once its
source has ended. -/
def lastReply? (s : Scanner) : Option Reply :=
  match s.failure? with
  | some held => some (.failure held.error)
  | none => if s.finished then some (.token s.endToken) else none

/-- The next token, or the failure of a read. -/
def next (s : Scanner) : Account Reply :=
  match s.lastReply? with
  | some reply => ⟨reply, [], s⟩
  | none =>
      let sought := s.seek
      match sought.result with
      | some reply => ⟨reply, sought.records, sought.scanner⟩
      | none =>
          let taken := sought.scanner.take
          { taken with records := sought.records ++ taken.records }

/-! ## §4. Every token brings the end nearer. -/

/-- What a scanner has before it: the rest of its feed, and of its line. -/
def pending (s : Scanner) : Nat :=
  Feed.weight s.feed + (Utf8.size s.line - s.pos)

theorem pos_lt_of_remainder_ne_nil {s : Scanner} (h : s.remainder ≠ []) :
    s.pos < Utf8.size s.line := by
  apply Nat.lt_of_not_le
  exact fun hle => h (Utf8.dropBytes_eq_nil_of_size_le hle)

/-- Seeking takes nothing back, and stops short of the end only at a
lexeme. -/
theorem pending_seek (s : Scanner) :
    s.seek.scanner.pending ≤ s.pending
      ∧ (s.seek.result = none → s.seek.scanner.remainder ≠ []) := by
  fun_induction seek s with
  | case1 s moved hne =>
      -- a lexeme was found on the line at hand
      refine ⟨?_, fun _ => hne⟩
      simp only [moved, pending, advance]
      omega
  | case2 s moved hne text feed hread loaded sought ih =>
      -- the new line weighs no more than what it takes out of the feed
      have hw := Feed.weight_add_size_nextLine_le hread
      refine ⟨Nat.le_trans ih.1 ?_, ih.2⟩
      simp only [loaded, moved, pending, load, advance] at hw ⊢
      omega
  | case3 s moved hne feed hread ended =>
      have hw := Feed.weight_nextLine_le hread
      refine ⟨?_, fun h => nomatch h⟩
      simp only [ended, moved, pending, finish, load, advance, Utf8.size_nil] at hw ⊢
      omega
  | case4 s moved hne cause feed hread failed error =>
      have hw := Feed.weight_nextLine_le hread
      refine ⟨?_, fun h => nomatch h⟩
      simp only [failed, moved, pending, fail, load, advance, Utf8.size_nil] at hw ⊢
      omega

/-- A reply that seeking comes upon is the last one. -/
theorem isLast_of_seek {s : Scanner} {r : Reply} (h : s.seek.result = some r) : r.isLast := by
  fun_induction seek s with
  | case1 => cases h
  | case2 s moved hne text feed hread loaded sought ih => exact ih h
  | case3 => exact Option.some.inj h ▸ rfl
  | case4 => exact Option.some.inj h ▸ rfl

theorem isLast_of_lastReply? {s : Scanner} {r : Reply} (h : s.lastReply? = some r) :
    r.isLast := by
  simp only [lastReply?] at h
  split at h
  next => exact Option.some.inj h ▸ rfl
  next =>
    split at h
    · exact Option.some.inj h ▸ rfl
    · cases h

/-- A token that is not the last one brings the end of the source nearer. -/
theorem pending_next_lt {s : Scanner} (h : s.next.result.isLast = false) :
    s.next.scanner.pending < s.pending := by
  simp only [next] at h ⊢
  split at h
  next reply hr => simp [isLast_of_lastReply? hr] at h
  next =>
    obtain ⟨hle, hstop⟩ := pending_seek s
    cases hsought : s.seek.result with
    | some reply =>
        simp only [hsought] at h
        simp [isLast_of_seek hsought] at h
    | none =>
        -- there is text under the cursor, and the match moves over some of it
        have hlt := pos_lt_of_remainder_ne_nil (hstop hsought)
        have hpos := Matcher.length_pick_pos .standard s.seek.scanner.remainder
        simp only [take, pending, advance] at hle ⊢
        omega

end Scanner

end LineLexer
