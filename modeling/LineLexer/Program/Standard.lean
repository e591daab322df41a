/-
  LineLexer.Program.Standard
  ──────────────────────────
  **THE LIBRARY THAT THE PROGRAM IS RUN WITH.**
-/
import LineLexer.CommandLine.Parser
import LineLexer.Log.Setting
import LineLexer.Program

namespace LineLexer.Program

/-- What the parser says when it stops: an answer that was asked for, or what is
wrong with the command line. -/
def Halt.ofStop (stop : CommandLine.Stop) : Halt :=
  match stop with
  | .help | .version => ⟨0, stop.message, ""⟩
  | _ => ⟨2, "", stop.message⟩

/-- The logger that shows what its filter does, and warns about what it does not
understand. -/
def Logger.ofSetting (setting : Text) : Logger :=
  let read := Log.Filter.ofSetting setting
  ⟨read.2.flatMap (fun complaint => (complaint.warning ++ "\n").toList), read.1.shows⟩

/-- The library that the program is run with. -/
def Library.standard : Library where
  parse arguments := (CommandLine.parse arguments).mapError Halt.ofStop
  logger := Logger.ofSetting

end LineLexer.Program
