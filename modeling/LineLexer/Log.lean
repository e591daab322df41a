/-
  LineLexer.Log
  ─────────────
  **AN ACCOUNT OF A RUN.**

  A scanner reports what it does in records: that it begins with a source,
  each line it reads, each token it matches, and how the source ends.  The
  program around it reports how long that took, and what was rejected.  A
  record is data; `Record.text` puts it into words, and `Record.entry` makes
  of these words an entry of a log, which a terminal can show.  Every record
  has a level and comes from a part of the program; which ones are shown
  depends on both.
-/
import LineLexer.Rule
import LineLexer.Error
import LineLexer.Text.Indented
import LineLexer.Text.Plain

namespace LineLexer

namespace Log

/-! ## §1. Levels. -/

/-- How important a record is, the most important first. -/
inductive Level where
  | error
  | warn
  | info
  | debug
  | trace
  deriving Repr, DecidableEq

/-- The place of a level, counted from the most important one. -/
def Level.rank : Level → Nat
  | .error => 0
  | .warn => 1
  | .info => 2
  | .debug => 3
  | .trace => 4

/-- The name of a level at the front of a record. -/
def Level.name : Level → String
  | .error => "ERROR"
  | .warn => "WARN"
  | .info => "INFO"
  | .debug => "DEBUG"
  | .trace => "TRACE"

/-- How important a record has to be. -/
inductive Threshold where
  /-- No record is important enough. -/
  | off
  /-- A record of this level is, and any more important one. -/
  | upTo (level : Level)
  deriving Repr, DecidableEq

namespace Threshold

/-- Whether records of the level are important enough. -/
def shows : Threshold → Level → Bool
  | off, _ => false
  | upTo bound, level => level.rank ≤ bound.rank

/-- The threshold with a name, in capitals or not. -/
def ofName? (name : Text) : Option Threshold :=
  match (String.ofList name).toLower with
  | "off" => some off
  | "error" => some (upTo .error)
  | "warn" => some (upTo .warn)
  | "info" => some (upTo .info)
  | "debug" => some (upTo .debug)
  | "trace" => some (upTo .trace)
  | _ => none

end Threshold

/-! ## §2. Records. -/

/-- One event of a run. -/
inductive Record where
  /-- A scanner begins with the source of this name. -/
  | opened (file : String)
  /-- A line of so many bytes, which starts at the offset, was read. -/
  | lineRead (size : Nat) (file : String) (offset : Nat)
  /-- The line that starts at the offset could not be read. -/
  | readFailed (file : String) (offset : Nat) (cause : ReadFailure)
  /-- The source ends at the offset. -/
  | ended (file : String) (offset : Nat)
  /-- A rule matched a lexeme, which has the category and runs from `start`
  up to `stop`. -/
  | matched (category : Category) (lexeme : Text) (rule : Rule) (start stop : Nat)
  /-- All tokens of a source were written, in a time of these words. -/
  | tokenized (elapsed : String)
  /-- A source was rejected for so many characters that belong to no token. -/
  | rejected (count : Nat)
  deriving Repr, DecidableEq

namespace Record

/-- The level of a record. -/
def level : Record → Level
  | opened _ | lineRead _ _ _ | readFailed _ _ _ | ended _ _ => .debug
  | matched _ _ _ _ _ => .trace
  | tokenized _ => .info
  | rejected _ => .warn

/-- The part of the program that a record comes from: the scanner, or the
program around it. -/
def part : Record → Text
  | tokenized _ | rejected _ => "scanner".toList
  | _ => "scanner::lexer::lexer".toList

/-- What a record says. -/
def message : Record → String
  | opened file => s!"scanning {file}"
  | lineRead size file offset => s!"read {size} bytes of {file} at offset {offset}"
  | readFailed file offset cause =>
      s!"read failed in {file} at offset {offset}: {cause.message}"
  | ended file offset => s!"end of {file} at offset {offset}"
  | matched category lexeme rule start stop =>
      let quoted := String.ofList (Quoted.encode lexeme)
      s!"{category.name} {quoted} ({rule.label}) at {start}..{stop}"
  | tokenized elapsed => s!"Tokenized in {elapsed}"
  | rejected count => s!"{count} unrecognised character(s)"

/-- A record in words, its level in front. -/
def text (r : Record) : String :=
  s!"{r.level.name} {r.message}"

/-- How far the further lines of an entry are moved to the right. -/
def margin : Nat := 4

/-- The record as an entry of a log, with the line feed at its end; that one
is left out as well, if the record opens a control string and leaves it
open. -/
def entry (r : Record) : Text :=
  Plain.ofText (indented margin r.text.toList ++ ['\n'])

end Record

end Log

end LineLexer
