/-
  LineLexer.Program
  ─────────────────
  **THE PROGRAM.**

  The program dumps the tokens of its input on standard output.  It is built
  on a `Library` that is not its own: a parser for its command line, and a
  logger.  What it depends on beside its arguments is given to it as
  `Surroundings`; what it leaves behind is an `Outcome`:

      status 0  — the whole input was dumped
      status 1  — the input could not be opened or read to its end, or it was
                  rejected for characters that belong to no token

  A command line that is not carried out leaves behind what the parser says.
-/
import LineLexer.CommandLine
import LineLexer.Dump
import LineLexer.ErrorOutput
import LineLexer.Path

namespace LineLexer.Program

open Log (Record)

/-! ## §1. What the program is built on. -/

/-- What a parser says where a command line is not carried out. -/
structure Halt where
  /-- The exit status. -/
  status : Nat
  /-- The text on standard output. -/
  stdout : String
  /-- The text on standard error. -/
  stderr : String
  deriving Repr, DecidableEq

/-- A logger that has been set. -/
structure Logger where
  /-- What it says about its setting. -/
  notices : Text
  /-- Whether it shows a record. -/
  shows : Record → Bool

/-- What the program is built on. -/
structure Library where
  /-- Reads the command line. -/
  parse : List Text → Except Halt CommandLine.Options
  /-- The logger with a setting. -/
  logger : Text → Logger

/-- What the program depends on beside its arguments. -/
structure Surroundings where
  /-- Standard input. -/
  stdin : Feed
  /-- What opening a path gives. -/
  openPath : Path → Except ReadFailure Feed
  /-- The setting of the log that was made from outside. -/
  setting? : Option Text
  /-- The time that a dump takes, in words. -/
  elapsed : String

/-- What the program leaves behind. -/
structure Outcome where
  /-- The exit status. -/
  status : Nat
  /-- The bytes on standard output. -/
  stdout : List UInt8
  /-- What the logger says about its setting. -/
  notices : Text
  /-- The records of the log that are shown. -/
  log : List Record
  /-- The text on standard error behind notices and log. -/
  stderr : String
  deriving Repr, DecidableEq

/-- What is written to standard error. -/
def Outcome.errorOutput (o : Outcome) : List ErrorOutput.Piece :=
  .other o.notices :: o.log.map (fun r => .entry r.entry) ++ [.other o.stderr.toList]

/-! ## §2. Running. -/

/-- The setting of the log in force: the one made from outside, or else the one
that the command line asks for. -/
def settingInForce (setting? : Option Text) (verbose : Bool) : Text :=
  setting?.getD (if verbose then "debug" else "warn").toList

/-- Dumps a source. -/
def dumpSource (denyErrors : Bool) (elapsed : String) (feed : Feed) (file? : Option String) :
    Outcome :=
  let scanner := Scanner.ofFeed feed file?
  let dump := scanner.dump none
  let records := scanner.opening :: dump.records
  match dump.ending with
  | .complete errors =>
      let records := records ++ [.tokenized elapsed]
      if rejects denyErrors errors then
        ⟨1, dump.written, [], records ++ [.rejected errors], ""⟩
      else ⟨0, dump.written, [], records, ""⟩
  | ending => ⟨1, dump.written, [], records, (ending.failure?.map Failure.report).getD ""⟩

/-- Does what the options ask for; the log is not yet filtered. -/
def perform (o : CommandLine.Options) (env : Surroundings) : Outcome :=
  match o.input? with
  | none => dumpSource o.denyErrors env.elapsed env.stdin none
  | some path =>
      match env.openPath path with
      | .ok feed =>
          dumpSource o.denyErrors env.elapsed feed ((Path.fileName? path).map String.ofList)
      | .error cause =>
          let failure : Failure := ⟨"failed to open " ++ String.ofList path, [cause.message]⟩
          ⟨1, [], [], [], failure.report⟩

/-- Runs the program. -/
def run (lib : Library) (arguments : List Text) (env : Surroundings) : Outcome :=
  match lib.parse arguments with
  | .error halt => ⟨halt.status, Utf8.encode halt.stdout.toList, [], [], halt.stderr⟩
  | .ok o =>
      let logger := lib.logger (settingInForce env.setting? o.verbose)
      let outcome := perform o env
      { outcome with notices := logger.notices, log := outcome.log.filter logger.shows }

end LineLexer.Program
