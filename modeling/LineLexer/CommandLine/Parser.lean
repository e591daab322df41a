/-
  LineLexer.CommandLine.Parser
  ────────────────────────────
  **A PARSER FOR THE COMMAND LINE.**

  Beside the flags of the program it knows two that ask for an answer:

      scanner [--deny-errors] [-v | --verbose] [-h | --help] [-V | --version] [INPUT]

  Arguments are taken from left to right, and the first one that does not
  fit decides.  An argument that begins with a hyphen is a flag, or several
  short flags at once; a hyphen alone is an input like any other.  Two
  hyphens alone end the flags: whatever follows is an input.

  The input may not be empty.  That is looked at when the input is complete:
  at the next flag, or at the end of the line.
-/
import LineLexer.CommandLine

namespace LineLexer.CommandLine

/-! ## §1. Switches, and reasons to stop. -/

/-- What a flag on a command line does. -/
inductive Switch where
  /-- It raises a flag of the program. -/
  | raise (flag : Flag)
  /-- It asks for help. -/
  | help
  /-- It asks for the version. -/
  | version
  deriving Repr, DecidableEq

/-- The switch of this long name. -/
def Switch.ofLong? (name : Text) : Option Switch :=
  if name = "help".toList then some .help
  else if name = "version".toList then some .version
  else (Flag.all.find? (·.long = name)).map .raise

/-- The switch of this short name. -/
def Switch.ofShort? (c : Char) : Option Switch :=
  if c = 'h' then some .help
  else if c = 'V' then some .version
  else (Flag.all.find? (·.short? = some c)).map .raise

/-- Why the program does not start. -/
inductive Stop where
  /-- No flag has this name. -/
  | unknownFlag (argument : Text)
  /-- There is an input already. -/
  | surplusInput (argument : Text)
  /-- The flag was raised before. -/
  | repeatedFlag (flag : Flag)
  /-- The flag takes no value. -/
  | flagWithValue (switch : Switch)
  /-- The input is empty. -/
  | emptyInput
  /-- Help is asked for. -/
  | help
  /-- The version is asked for. -/
  | version
  deriving Repr, DecidableEq

/-! ## §2. Arguments. -/

/-- What an argument before the escape is by its form. -/
inductive Argument where
  /-- A long flag, and what follows an equals sign. -/
  | long (name : Text) (value? : Option Text)
  /-- Short flags. -/
  | short (names : Text)
  /-- An input. -/
  | input (path : Text)
  deriving Repr, DecidableEq

/-- The form of an argument. -/
def Argument.ofText : Text → Argument
  | '-' :: '-' :: t =>
      .long (t.takeWhile (· != '=')) ((t.dropWhile (· != '=')).tail?)
  | '-' :: c :: t => .short (c :: t)
  | t => .input t

/-! ## §3. Taking arguments. -/

namespace Options

/-- Makes sure that the input, if there is one, is not empty. -/
def settled (o : Options) : Except Stop Options :=
  if o.input? = some [] then .error .emptyInput else .ok o

/-- Does what a switch asks for. -/
def apply (o : Options) (switch : Switch) : Except Stop Options := do
  -- a flag completes the input before it
  let o ← o.settled
  match switch with
  | .raise flag => if o.has flag then .error (.repeatedFlag flag) else .ok (o.keep flag)
  | .help => .error .help
  | .version => .error .version

/-- Takes the short flags of one argument, one after the other. -/
def applyShort (o : Options) : Text → Except Stop Options
  | [] => .ok o
  | c :: t =>
      match Switch.ofShort? c with
      | some switch => do (← o.apply switch).applyShort t
      | none => .error (.unknownFlag ['-', c])

/-- Takes an input. -/
def place (o : Options) (path : Text) : Except Stop Options :=
  match o.input? with
  | none => .ok { o with input? := some path }
  | some _ => .error (.surplusInput path)

/-- Takes an argument that stands before the escape. -/
def take (o : Options) (argument : Text) : Except Stop Options :=
  match Argument.ofText argument with
  | .long name value? =>
      match Switch.ofLong? name, value? with
      | none, _ => .error (.unknownFlag argument)
      | some switch, some _ => .error (.flagWithValue switch)
      | some switch, none => o.apply switch
  | .short names => o.applyShort names
  | .input path => o.place path

/-- Takes all arguments. -/
def takeAll (o : Options) : List Text → Except Stop Options
  | [] => o.settled
  | argument :: arguments =>
      if argument = escape then do
        -- flags and further escapes are inputs from here on
        (← arguments.foldlM place o).settled
      else do
        (← o.take argument).takeAll arguments

end Options

/-- The options of a command line. -/
def parse (arguments : List Text) : Except Stop Options :=
  Options.takeAll {} arguments

/-! ## §4. Texts. -/

/-- The answer to a request for help. -/
def helpText : String :=
  "Print the token stream of a source file\n\n"
    ++ "Usage: scanner [OPTIONS] [INPUT]\n\n"
    ++ "Arguments:\n"
    ++ "  [INPUT]  Source file to scan; reads stdin when omitted\n\n"
    ++ "Options:\n"
    ++ "      --deny-errors  Exit with status 1 if any ERROR token was produced\n"
    ++ "  -v, --verbose      Enable debug logging\n"
    ++ "  -h, --help         Print help\n"
    ++ "  -V, --version      Print version\n"

/-- The answer to a request for the version. -/
def versionText : String :=
  "scanner 0.1.0\n"

/-- How a switch is written in messages. -/
def Switch.text : Switch → String
  | .raise flag => "--" ++ String.ofList flag.long
  | .help => "--help"
  | .version => "--version"

/-- A command line that cannot be carried out, in words. -/
def Stop.message : Stop → String
  | .unknownFlag argument | .surplusInput argument =>
      "error: unexpected argument \x27" ++ String.ofList argument ++ "\x27 found\n"
  | .repeatedFlag flag =>
      "error: the argument \x27" ++ (Switch.raise flag).text
        ++ "\x27 cannot be used multiple times\n"
  | .flagWithValue switch =>
      "error: the argument \x27" ++ switch.text ++ "\x27 takes no value\n"
  | .emptyInput => "error: the input is empty\n"
  | .help => helpText
  | .version => versionText

end LineLexer.CommandLine
