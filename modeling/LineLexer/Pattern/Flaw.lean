/-
  LineLexer.Pattern.Flaw
  ──────────────────────
  **WHAT IS WRONG WITH A PATTERN.**

  A pattern that cannot be read or understood has a flaw: a kind, and the
  stretch of the pattern where it was found.  A name or a flag that is given
  twice has an earlier stretch as well.  `Flaw.report` shows the pattern with
  both stretches underlined and says what is wrong.
-/
import LineLexer.Text.Utf8

namespace LineLexer.Pattern

/-! ## §1. Stretches of a pattern. -/

/-- A stretch of a pattern.  An end is given by what is left to read of the
pattern there, which costs nothing to note and needs no counting. -/
structure Extent where
  /-- What is left to read at the start. -/
  start : Text
  /-- What is left to read at the end. -/
  stop : Text
  deriving Repr, DecidableEq

namespace Extent

/-- The stretch from where `s` is left to read up to where `r` is. -/
def between (s r : Text) : Extent :=
  ⟨s, r⟩

/-- The place in front of `s`. -/
def before (s : Text) : Extent :=
  ⟨s, s⟩

/-- The first character of `s`. -/
def first (s : Text) : Extent :=
  ⟨s, s.tail⟩

end Extent

/-! ## §2. Flaws. -/

namespace Flaw

/-- What is wrong. -/
inductive Kind where
  | classEscape
  | classRange
  | classBoundary
  | classUnclosed
  | decimalTooLarge
  | hexEmpty
  | hexNoCharacter
  | hexDigit
  | escapeUnfinished
  | escapeUnknown
  | flagNegationDangling
  | flagRepeated
  | flagNegationRepeated
  | flagsUnfinished
  | flagUnknown
  | groupNameRepeated
  | groupNameEmpty
  | groupNameCharacter
  | groupNameUnfinished
  | groupUnclosed
  | groupUnopened
  | nestedTooDeep (limit : Nat)
  | countOrder
  | countEmpty
  | countUnclosed
  | repetitionOfNothing
  | boundaryUnclosed
  | boundaryUnknown
  | boundaryUnfinished
  | propertyEscape
  | backreference
  | lookAround
  | unicodeNotAllowed
  | invalidUtf8
  | propertyUnknown
  | propertyValueUnknown
  deriving Repr, DecidableEq

/-- What is wrong, in words. -/
def Kind.message : Kind → String
  | classEscape => "invalid escape sequence found in character class"
  | classRange => "invalid character class range, the start must be <= the end"
  | classBoundary => "invalid range boundary, must be a literal"
  | classUnclosed => "unclosed character class"
  | decimalTooLarge => "decimal literal invalid"
  | hexEmpty => "hexadecimal literal empty"
  | hexNoCharacter => "hexadecimal literal is not a Unicode scalar value"
  | hexDigit => "invalid hexadecimal digit"
  | escapeUnfinished => "incomplete escape sequence, reached end of pattern prematurely"
  | escapeUnknown => "unrecognized escape sequence"
  | flagNegationDangling => "dangling flag negation operator"
  | flagRepeated => "duplicate flag"
  | flagNegationRepeated => "flag negation operator repeated"
  | flagsUnfinished => "expected flag but got end of regex"
  | flagUnknown => "unrecognized flag"
  | groupNameRepeated => "duplicate capture group name"
  | groupNameEmpty => "empty capture group name"
  | groupNameCharacter => "invalid capture group character"
  | groupNameUnfinished => "unclosed capture group name"
  | groupUnclosed => "unclosed group"
  | groupUnopened => "unopened group"
  | nestedTooDeep limit =>
      s!"exceed the maximum number of nested parentheses/brackets ({limit})"
  | countOrder => "invalid repetition count range, the start must be <= the end"
  | countEmpty => "repetition quantifier expects a valid decimal"
  | countUnclosed => "unclosed counted repetition"
  | repetitionOfNothing => "repetition operator missing expression"
  | boundaryUnclosed =>
      "special word boundary assertion is either unclosed or contains an invalid character"
  | boundaryUnknown =>
      "unrecognized special word boundary assertion, valid choices are: " ++
        "start, end, start-half or end-half"
  | boundaryUnfinished =>
      "found either the beginning of a special word boundary or a bounded " ++
        "repetition on a \\b with an opening brace, but no closing brace"
  | propertyEscape => "invalid Unicode character class"
  | backreference => "backreferences are not supported"
  | lookAround => "look-around, including look-ahead and look-behind, is not supported"
  | unicodeNotAllowed => "Unicode not allowed here"
  | invalidUtf8 => "pattern can match invalid UTF-8"
  | propertyUnknown => "Unicode property not found"
  | propertyValueUnknown => "Unicode property value not found"

end Flaw

/-- Something wrong with a pattern. -/
structure Flaw where
  /-- What is wrong. -/
  kind : Flaw.Kind
  /-- Where it was found. -/
  extent : Extent
  /-- Where the same had been given before. -/
  earlier? : Option Extent
  deriving Repr, DecidableEq

namespace Flaw

/-! ## §3. Reports. -/

/-- A place in a pattern; lines and columns are counted from one. -/
structure Place where
  line : Nat
  column : Nat
  deriving Repr, DecidableEq

/-- The place behind a text. -/
def Place.behind (read : Text) : Place :=
  ⟨read.count '\n' + 1, (read.reverse.takeWhile (· != '\n')).length + 1⟩

/-- The place in a pattern where `s` is left to read. -/
def Place.whereLeft (pattern s : Text) : Place :=
  .behind (pattern.take (pattern.length - s.length))

/-- A stretch of lines and columns. -/
structure Underline where
  start : Place
  stop : Place
  deriving Repr, DecidableEq

/-- The lines and columns of an extent. -/
def underline (pattern : Text) (e : Extent) : Underline :=
  ⟨.whereLeft pattern e.start, .whereLeft pattern e.stop⟩

/-- The lines of a pattern, without what ends them; a carriage return in front
of a line feed ends a line with it. -/
def lines (pattern : Text) : List Text :=
  let parts := pattern.splitOn '\n'
  let ended := parts.dropLast.map (fun l => if l.getLast? = some '\r' then l.dropLast else l)
  match parts.getLast? with
  | none | some [] => ended
  | some last => ended ++ [last]

/-- Marks under the columns of the stretches, in order, with `done` columns
already filled. -/
def marks (done : Nat) : List Underline → Text
  | [] => []
  | u :: us =>
      let gap := u.start.column - 1 - done
      let length := max 1 (u.stop.column - u.start.column)
      List.replicate gap ' ' ++ List.replicate length '^' ++ marks (done + gap + length) us

/-- The stretches to underline, in the order of their starts. -/
def underlines (pattern : Text) (f : Flaw) : List Underline :=
  let ordered := match f.earlier? with
    | none => [f.extent]
    | some e => if f.extent.start.length < e.start.length then [e, f.extent] else [f.extent, e]
  ordered.map (underline pattern)

/-- The lines of the pattern, each with the marks that belong under it.  If
there are several lines, they are numbered. -/
def notedLines (pattern : Text) (us : List Underline) : List Text :=
  let shown := lines pattern
  let count := shown.length + (if pattern.getLast? = some '\n' then 1 else 0)
  let width := (Nat.repr count).length
  let margin (n : Nat) : Text :=
    if count ≤ 1 then List.replicate 4 ' '
    else
      let digits := (Nat.repr n).toList
      List.replicate (width - digits.length) ' ' ++ digits ++ [':', ' ']
  let noted (line : Text) (n : Nat) : List Text :=
    let here := us.filter (fun u => u.start.line == n && u.stop.line == n)
    let blank := List.replicate (margin n).length ' '
    (margin n ++ line) :: (if here.isEmpty then [] else [blank ++ marks 0 here])
  (shown.zipIdx 1).flatMap (fun (line, n) => noted line n)

/-- Where a stretch over several lines lies. -/
def Underline.note (u : Underline) : String :=
  let lastColumn := u.stop.column - 1
  s!"on line {u.start.line} (column {u.start.column}) through line " ++
    s!"{u.stop.line} (column {lastColumn})"

/-- What is wrong with the pattern, and where. -/
def report (pattern : Text) (f : Flaw) : String :=
  let us := underlines pattern f
  let noted := (notedLines pattern us).map String.ofList
  let body :=
    if pattern.contains '\n' then
      let rule := String.ofList (List.replicate 79 '~')
      let long := us.filter (fun u => u.start.line != u.stop.line)
      [rule] ++ noted ++ [rule] ++ long.map Underline.note
    else noted
  "\n".intercalate (["regex parse error:"] ++ body ++ ["error: " ++ f.kind.message])

end Flaw

end LineLexer.Pattern
