/-
  LineLexer.Text.Plain
  ────────────────────
  **TEXT WITHOUT TERMINAL CONTROL.**

  What goes into a log must not command the terminal on which it is read.
  So control characters are left out, and with them all that they introduce:

      ESC, 20 to 2F …, 30 to 7E      — an escape sequence
      ESC [, 20 to 3F …, 40 to 7E    — a control sequence
      ESC P, ESC X, ESC ^, ESC _     — a control string
      ESC ]                          — a system command, up to BEL

  TAB, LF, FF and CR are no commands; they stay.  CAN, SUB and ESC break off
  whatever they meet.  A blank inside a sequence suspends it: text is shown
  again, up to the next control character.
-/
import LineLexer.Text.Utf8

namespace LineLexer.Plain

/-! ## §1. Characters. -/

/-- The blanks that are control characters and stay nevertheless. -/
def isLayout (c : Char) : Bool :=
  c = '\t' || c = '\n' || c = '\x0c' || c = '\r'

/-- Whether a character is shown where no sequence is open. -/
def isShown (c : Char) : Bool :=
  isLayout c || (0x20 ≤ c.toNat && c.toNat != 0x7F)

/-- Whether the number of a character lies between two others. -/
def between (first last : Nat) (c : Char) : Bool :=
  first ≤ c.toNat && c.toNat ≤ last

/-- Whether the byte 9C, which ends a control string, is among those of a
character. -/
def endsString (c : Char) : Bool :=
  0x80 ≤ c.toNat && (String.utf8EncodeChar c).contains 0x9C

/-! ## §2. Sequences. -/

/-- What is being left out. -/
inductive Sequence where
  /-- An escape sequence of which nothing but ESC has been seen. -/
  | escape
  /-- An escape sequence that waits for its last character. -/
  | intermediate
  /-- A control sequence. -/
  | control
  /-- The head of a device control string. -/
  | device
  /-- The same, with parameters. -/
  | deviceParameters
  /-- The same, waiting for its last character. -/
  | deviceIntermediate
  /-- The body of a control string. -/
  | string
  /-- A system command. -/
  | command
  deriving Repr, DecidableEq

/-- Whether a blank is shown although the sequence is open. -/
def Sequence.letsThrough : Sequence → Bool
  | escape | intermediate | control => true
  | _ => false

/-- What is open behind one more character of a sequence; `none` if the
sequence is complete. -/
def Sequence.next (c : Char) : Sequence → Option Sequence
  | escape =>
      if c = '[' then some control
      else if c = ']' then some command
      else if c = 'P' then some device
      else if c = 'X' || c = '^' || c = '_' then some string
      else if between 0x20 0x2F c then some intermediate
      else if between 0x30 0x7E c then none
      else some escape
  | intermediate => if between 0x30 0x7E c then none else some intermediate
  | control => if between 0x40 0x7E c then none else some control
  | device =>
      if between 0x20 0x2F c then some deviceIntermediate
      else if between 0x30 0x3F c then some deviceParameters
      else if between 0x40 0x7E c then some string
      else some device
  | deviceParameters =>
      if between 0x20 0x2F c then some deviceIntermediate
      else if between 0x3C 0x7E c then some string
      else some deviceParameters
  | deviceIntermediate =>
      if between 0x30 0x7E c then some string else some deviceIntermediate
  | string => if endsString c then none else some string
  | command => if c = '\x07' then none else some command

/-! ## §3. Leaving out. -/

/-- Where in a text one stands. -/
inductive State where
  /-- In plain text. -/
  | text
  /-- Inside a sequence. -/
  | inside (sequence : Sequence)
  /-- In plain text, with a sequence that the next control character
  resumes. -/
  | suspended (sequence : Sequence)
  deriving Repr, DecidableEq

/-- The state in which a sequence is open, or none is. -/
def State.ofOpen : Option Sequence → State
  | none => text
  | some sequence => inside sequence

/-- The state behind a character, and whether the character is shown. -/
def State.step (c : Char) (s : State) : Bool × State :=
  if c = '\x1b' then (false, inside .escape)
  else if c = '\x18' || c = '\x1a' then (false, text)
  else
    match s with
    | text => (isShown c, text)
    | inside sequence =>
        if isLayout c && sequence.letsThrough then (true, suspended sequence)
        else (false, ofOpen (sequence.next c))
    | suspended sequence =>
        if 0x80 ≤ c.toNat then (true, text)
        else if isShown c then (true, suspended sequence)
        else (false, ofOpen (sequence.next c))

/-- What is shown of a text. -/
def strip (s : State) : Text → Text
  | [] => []
  | c :: t =>
      let (isVisible, after) := s.step c
      if isVisible then c :: strip after t else strip after t

/-- The text without terminal control. -/
def ofText (t : Text) : Text :=
  strip .text t

end LineLexer.Plain
