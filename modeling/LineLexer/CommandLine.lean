/-
  LineLexer.CommandLine
  ─────────────────────
  **WHAT THE PROGRAM CAN BE ASKED TO DO.**

  The command line names at most one input and raises flags:

      scanner [--deny-errors] [-v | --verbose] [INPUT]

  The program declares its flags, each with its names, and what it makes of a
  command line: its options.  How arguments are read by such a declaration is
  left to a parser.
-/
import LineLexer.Text.Utf8

namespace LineLexer.CommandLine

/-- What can be asked for beside the input. -/
inductive Flag where
  /-- Characters that belong to no token are a failure. -/
  | denyErrors
  /-- The log shows more. -/
  | verbose
  deriving Repr, DecidableEq

namespace Flag

/-- All flags. -/
def all : List Flag :=
  [denyErrors, verbose]

/-- The name that stands behind two hyphens. -/
def long : Flag → Text
  | denyErrors => "deny-errors".toList
  | verbose => "verbose".toList

/-- The name that stands behind one hyphen, if there is one. -/
def short? : Flag → Option Char
  | denyErrors => none
  | verbose => some 'v'

end Flag

/-- What a command line asks for. -/
structure Options where
  /-- The path of the input; without one, standard input is read. -/
  input? : Option Text := none
  /-- Whether characters that belong to no token are a failure. -/
  denyErrors : Bool := false
  /-- Whether the log shows more. -/
  verbose : Bool := false
  deriving Repr, DecidableEq

namespace Options

/-- Whether the flag is raised. -/
def has (o : Options) : Flag → Bool
  | .denyErrors => o.denyErrors
  | .verbose => o.verbose

/-- The options with the flag raised. -/
def keep (o : Options) : Flag → Options
  | .denyErrors => { o with denyErrors := true }
  | .verbose => { o with verbose := true }

@[simp] theorem input?_keep (o : Options) (flag : Flag) : (o.keep flag).input? = o.input? := by
  cases flag <;> rfl

theorem has_keep (o : Options) (flag g : Flag) :
    (o.keep flag).has g = (o.has g || decide (g = flag)) := by
  cases flag <;> cases g <;> simp [has, keep]

end Options

/-- The argument that ends the flags. -/
def escape : Text := ['-', '-']

end LineLexer.CommandLine
