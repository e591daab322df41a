/-
  LineLexer.Pattern.Tree
  ──────────────────────
  **A PATTERN AS IT IS WRITTEN.**

  A pattern is written like this:

      x  \*  \x41  .      one character
      [a-z&&[^b]]         one character of a class
      \d  \w  \s  \pL     one character of a class with a name
      ^  $  \b            a place between characters
      xy   x|y            one behind the other; one or the other
      x*  x+  x?  x{2,3}  repeated
      (x)  (?:x)  (?i:x)  grouped, with flags of its own
      (?i)                flags for the rest of the group

  A `Tree` says which of these stand where.  What the flags make of them is
  not decided here.
-/
import LineLexer.Pattern.Flaw

namespace LineLexer.Pattern

/-! ## §1. The parts. -/

/-- A way to read a pattern that can be turned on and off within it. -/
inductive Flag where
  /-- `i`: capital and small letters are the same. -/
  | ignoreCase
  /-- `m`: `^` and `$` hold at every line. -/
  | multiLine
  /-- `s`: the dot stands for a line feed, too. -/
  | dotAll
  /-- `U`: the meaning of `x*` and `x*?` is exchanged. -/
  | swapGreed
  /-- `u`: classes hold characters beyond ASCII. -/
  | unicode
  /-- `R`: a line may end in CR LF. -/
  | crlf
  /-- `x`: blanks and comments in the pattern do not count. -/
  | extended
  deriving Repr, DecidableEq

/-- What becomes of some flags. -/
abbrev Settings := List (Flag × Bool)

/-- A character that stands for itself. -/
structure Literal where
  /-- Where it is written. -/
  extent : Extent
  /-- The character. -/
  char : Char
  /-- Whether it is given as the number of a byte. -/
  isByte : Bool
  deriving Repr, DecidableEq

/-- A place next to a word. -/
inductive Boundary where
  /-- A word begins or ends. -/
  | edge
  /-- No word begins or ends. -/
  | inner
  /-- A word begins. -/
  | start
  /-- A word ends. -/
  | stop
  /-- No word is in front. -/
  | startHalf
  /-- No word is behind. -/
  | stopHalf
  deriving Repr, DecidableEq

/-- A place between characters. -/
inductive Assertion where
  /-- `^` -/
  | lineStart
  /-- `$` -/
  | lineEnd
  /-- `\A` -/
  | textStart
  /-- `\z` -/
  | textEnd
  /-- `\b` and its like -/
  | word (boundary : Boundary)
  deriving Repr, DecidableEq

/-- A class of characters with a name of one letter. -/
inductive Shorthand where
  | digit
  | space
  | word
  deriving Repr, DecidableEq

/-- A class of ASCII characters with a name. -/
inductive AsciiClass where
  | alnum
  | alpha
  | ascii
  | blank
  | cntrl
  | digit
  | graph
  | lower
  | print
  | punct
  | space
  | upper
  | word
  | xdigit
  deriving Repr, DecidableEq

/-- A question for a property of characters, as it is written. -/
inductive Query where
  /-- The characters with the property, category or script. -/
  | named (name : Text)
  /-- The characters whose property has the value. -/
  | valued (name value : Text)
  deriving Repr, DecidableEq

/-- An operation on two classes. -/
inductive ClassOp where
  /-- `&&` -/
  | intersection
  /-- `--` -/
  | difference
  /-- `~~` -/
  | symmetricDifference
  deriving Repr, DecidableEq

/-! ## §2. Classes. -/

/-- What stands between brackets. -/
inductive CharClass where
  | empty (extent : Extent)
  | literal (literal : Literal)
  | range (extent : Extent) (first last : Literal)
  | ascii (extent : Extent) (name : AsciiClass) (negated : Bool)
  | shorthand (extent : Extent) (name : Shorthand) (negated : Bool)
  | property (extent : Extent) (query : Query) (negated : Bool)
  | bracketed (extent : Extent) (negated : Bool) (body : CharClass)
  | union (extent : Extent) (items : List CharClass)
  | combined (extent : Extent) (op : ClassOp) (left right : CharClass)
  deriving Repr

/-- Where a class is written. -/
def CharClass.extent : CharClass → Extent
  | literal l => l.extent
  | empty e | range e _ _ | ascii e _ _ | shorthand e _ _ | property e _ _
  | bracketed e _ _ | union e _ | combined e _ _ _ => e

/-! ## §3. Patterns. -/

/-- A pattern as it is written. -/
inductive Tree where
  | empty (extent : Extent)
  | flags (extent : Extent) (settings : Settings)
  | literal (literal : Literal)
  | dot (extent : Extent)
  | assertion (extent : Extent) (assertion : Assertion)
  | shorthand (extent : Extent) (name : Shorthand) (negated : Bool)
  | property (extent : Extent) (query : Query) (negated : Bool)
  | bracketed (extent : Extent) (negated : Bool) (body : CharClass)
  /-- So many times, as often as possible or as seldom as possible. -/
  | repetition (extent : Extent) (least : Nat) (most? : Option Nat) (greedy : Bool) (body : Tree)
  /-- A group, which may have a number, with flags of its own. -/
  | group (extent : Extent) (number? : Option Nat) (settings : Settings) (body : Tree)
  | alternation (extent : Extent) (branches : List Tree)
  | sequence (extent : Extent) (parts : List Tree)
  deriving Repr

namespace Tree

/-- Where a tree is written. -/
def extent : Tree → Extent
  | literal l => l.extent
  | empty e | flags e _ | dot e | assertion e _ | shorthand e _ _ | property e _ _
  | bracketed e _ _ | repetition e _ _ _ _ | group e _ _ _ | alternation e _ | sequence e _ => e

/-- Whether a tree can be repeated. -/
def isRepeatable : Tree → Bool
  | empty _ | flags _ _ => false
  | _ => true

end Tree

end LineLexer.Pattern
