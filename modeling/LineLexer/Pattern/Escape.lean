/-
  LineLexer.Pattern.Escape
  ────────────────────────
  **WHAT BEGINS WITH A BACKSLASH.**

      \* \. \-        the character itself, if it has a meaning of its own
      \n \t \x41      a character by a letter, or by its number
      \u00e9 \U0001f600 \x{e9}
      \d \w \s        a class, and \D \W \S all other characters
      \pL \p{Lu}      the characters with a property, and \P the others
      \A \z \b \B     a place
      \b{start}       a place next to a word, with a name
      \< \>

  The same can stand between brackets, where a place makes no sense; that is
  why what was read is an `Atom` first.
-/
import LineLexer.Pattern.Reading

namespace LineLexer.Pattern

/-- The smallest part of a pattern. -/
inductive Atom where
  | literal (char : Char) (isByte : Bool)
  | dot
  | assertion (assertion : Assertion)
  | shorthand (name : Shorthand) (negated : Bool)
  | property (query : Query) (negated : Bool)
  deriving Repr, DecidableEq

/-! ## §1. Numbers in hexadecimal. -/

/-- The value of a digit in hexadecimal. -/
def hexValue? (c : Char) : Option Nat :=
  if c.isDigit then some (c.toNat - '0'.toNat)
  else if 'a' ≤ c ∧ c ≤ 'f' then some (c.toNat - 'a'.toNat + 10)
  else if 'A' ≤ c ∧ c ≤ 'F' then some (c.toNat - 'A'.toNat + 10)
  else none

/-- The character with a number. -/
def charOf? (n : Nat) : Option Char :=
  if n.isValidChar then some (Char.ofNat n) else none

/-- The value of so many digits, behind those already read. -/
def fixedHex (extended : Bool) : Nat → Nat → Text → Except Flaw (Nat × Text)
  | 0, value, s => .ok (value, s)
  | _ + 1, _, [] => flaw .escapeUnfinished (.before [])
  | count + 1, value, c :: r =>
      match hexValue? c with
      | none => flaw .hexDigit (.first (c :: r))
      | some d => fixedHex extended count (16 * value + d) (skip extended r)

/-- The value of the digits up to a closing brace, which is left.  The whole
began with an opening one at `start`. -/
def bracedHex (extended : Bool) (start : Text) (value? : Option Nat) (s : Text) :
    Except Flaw (Option Nat × Text) :=
  match s with
  | [] => flaw .escapeUnfinished (.between start [])
  | c :: r =>
      if c = '}' then .ok (value?, c :: r)
      else match hexValue? c with
        | none => flaw .hexDigit (.first (c :: r))
        | some d => bracedHex extended start (some (16 * value?.getD 0 + d)) (skip extended r)
termination_by s.length
decreasing_by
  have := skip_length_le extended r
  simp only [List.length_cons]
  omega

/-- A character by its number, with so many digits or in braces. -/
def hex (extended : Bool) (count : Nat) (s : Text) : Except Flaw (Atom × Text) :=
  match skip extended s with
  | [] => flaw .escapeUnfinished (.before [])
  | '{' :: r => do
      let start := '{' :: r
      let (value?, stop) ← bracedHex extended start none (skip extended r)
      let rest := skip extended stop.tail
      match value? with
      | none => flaw .hexEmpty (.between start rest)
      | some n =>
          match charOf? n with
          | none => flaw .hexNoCharacter (.between r stop)
          | some c => .ok (.literal c false, rest)
  | s => do
      let (n, rest) ← fixedHex extended count 0 s
      match charOf? n with
      | none => flaw .hexNoCharacter (.between s rest)
      | some c => .ok (.literal c (count = 2), rest)

/-! ## §2. Properties. -/

/-- The text up to a closing brace, and what is left behind the brace. -/
def braced (extended : Bool) (s : Text) : Except Flaw (Text × Text) :=
  match s with
  | [] => flaw .escapeUnfinished (.before [])
  | c :: r =>
      if c = '}' then .ok ([], r)
      else do
        let (name, rest) ← braced extended (skip extended r)
        return (c :: name, rest)
termination_by s.length
decreasing_by
  have := skip_length_le extended r
  simp only [List.length_cons]
  omega

/-- A text divided at the first place where the separator stands. -/
def divideAt? (separator : Text) : Text → Option (Text × Text)
  | [] => none
  | c :: s =>
      if separator.isPrefixOf (c :: s) then some ([], (c :: s).drop separator.length)
      else (divideAt? separator s).map (fun (name, value) => (c :: name, value))

/-- What a text in braces asks for, and whether for the opposite. -/
def queryOf (t : Text) : Query × Bool :=
  match divideAt? ['!', '='] t with
  | some (name, value) => (.valued name value, true)
  | none =>
      match (divideAt? [':'] t).or (divideAt? ['='] t) with
      | some (name, value) => (.valued name value, false)
      | none => (.named t, false)

/-- A property by a letter, or by a name in braces. -/
def property (extended negated : Bool) (s : Text) : Except Flaw (Atom × Text) :=
  match skip extended s with
  | [] => flaw .escapeUnfinished (.before [])
  | '{' :: r => do
      let (name, rest) ← braced extended (skip extended r)
      let (query, opposite) := queryOf name
      return (.property query (negated != opposite), rest)
  | c :: r =>
      if c = '\\' then flaw .propertyEscape (.first (c :: r))
      else .ok (.property (.named [c]) negated, skip extended r)

/-! ## §3. Places next to a word. -/

/-- The letters of a name, and what is left behind them. -/
def boundaryName (extended : Bool) (s : Text) : Text × Text :=
  match s with
  | [] => ([], [])
  | c :: r =>
      if c.isAlpha || c = '-' then
        let (name, rest) := boundaryName extended (skip extended r)
        (c :: name, rest)
      else ([], c :: r)
termination_by s.length
decreasing_by
  have := skip_length_le extended r
  simp only [List.length_cons]
  omega

/-- The places that have a name. -/
def boundaryNames : List (Text × Boundary) :=
  [("start".toList, .start), ("end".toList, .stop), ("start-half".toList, .startHalf),
    ("end-half".toList, .stopHalf)]

/-- What stands behind \b, which began at `start`: a name in braces, or else
nothing that belongs to it, as the braces of a repetition. -/
def boundary (extended : Bool) (start s : Text) : Except Flaw (Boundary × Text) :=
  match s with
  | '{' :: r =>
      match skip extended r with
      | [] => flaw .boundaryUnfinished (.between start [])
      | inside =>
          match boundaryName extended inside with
          | ([], _) => .ok (.edge, s)
          | (name, '}' :: rest) =>
              match boundaryNames.lookup name with
              | some b => .ok (b, rest)
              | none => flaw .boundaryUnknown (.between inside ('}' :: rest))
          | (_, rest) => flaw .boundaryUnclosed (.between s rest)
  | s => .ok (.edge, s)

/-! ## §4. All of them. -/

/-- The characters that have a meaning of their own. -/
def metaCharacters : Text :=
  "\\.+*?()|[]\x7b\x7d^$#&-~".toList

/-- Whether a character stands for itself behind a backslash: all of ASCII do
but letters, digits and the angles. -/
def isEscapable (c : Char) : Bool :=
  metaCharacters.contains c || (c.toNat < 128 && !c.isAlphanum && c != '<' && c != '>')

/-- What a single letter behind a backslash stands for. -/
def letterAtom? : Char → Option Atom
  | 'a' => some (.literal '\x07' false)
  | 'f' => some (.literal '\x0c' false)
  | 't' => some (.literal '\t' false)
  | 'n' => some (.literal '\n' false)
  | 'r' => some (.literal '\r' false)
  | 'v' => some (.literal '\x0b' false)
  | 'd' => some (.shorthand .digit false)
  | 'D' => some (.shorthand .digit true)
  | 's' => some (.shorthand .space false)
  | 'S' => some (.shorthand .space true)
  | 'w' => some (.shorthand .word false)
  | 'W' => some (.shorthand .word true)
  | 'A' => some (.assertion .textStart)
  | 'z' => some (.assertion .textEnd)
  | 'B' => some (.assertion (.word .inner))
  | '<' => some (.assertion (.word .start))
  | '>' => some (.assertion (.word .stop))
  | _ => none

/-- What begins with the backslash at the front of `s`. -/
def escape (extended : Bool) (s : Text) : Except Flaw (Atom × Text) :=
  match s.tail with
  | [] => flaw .escapeUnfinished (.between s [])
  | c :: r =>
      if c.isDigit then flaw .backreference (.between s r)
      else match c with
        | 'x' => hex extended 2 r
        | 'u' => hex extended 4 r
        | 'U' => hex extended 8 r
        | 'p' => property extended false r
        | 'P' => property extended true r
        | 'b' => do
            let (b, rest) ← boundary extended s r
            return (.assertion (.word b), rest)
        | c =>
            if isEscapable c then .ok (.literal c false, r)
            else match letterAtom? c with
              | some atom => .ok (atom, r)
              | none => flaw .escapeUnknown (.between s r)

end LineLexer.Pattern
