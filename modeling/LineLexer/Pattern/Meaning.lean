/-
  LineLexer.Pattern.Meaning
  ─────────────────────────
  **FROM THE TREE OF A PATTERN TO WHAT IT STANDS FOR.**

  The flags in force decide what a part of a tree stands for.  They hold from
  where they are given to the end of their group, in all branches behind.

  Where the flag `u` is off, only ASCII characters can be in a class, and a
  class that a byte beyond ASCII belongs to is refused: it could stand for a
  piece of a character.
-/
import LineLexer.Pattern.CaseFold
import LineLexer.Pattern.Expr
import LineLexer.Pattern.NamedClass
import LineLexer.Pattern.Parser
import LineLexer.Pattern.Property

namespace LineLexer.Pattern

/-! ## §1. Flags. -/

/-- The flags in force that change what a tree stands for. -/
structure Mode where
  ignoreCase : Bool
  multiLine : Bool
  dotAll : Bool
  swapGreed : Bool
  unicode : Bool
  crlf : Bool
  deriving Repr, DecidableEq

namespace Mode

/-- At the beginning of a pattern only `u` is on. -/
def initial : Mode :=
  ⟨false, false, false, false, true, false⟩

/-- One flag is turned on or off. -/
def set (m : Mode) : Flag × Bool → Mode
  | (.ignoreCase, on) => { m with ignoreCase := on }
  | (.multiLine, on) => { m with multiLine := on }
  | (.dotAll, on) => { m with dotAll := on }
  | (.swapGreed, on) => { m with swapGreed := on }
  | (.unicode, on) => { m with unicode := on }
  | (.crlf, on) => { m with crlf := on }
  | (.extended, _) => m

/-- Some flags are turned on and off. -/
def setAll (m : Mode) (settings : Settings) : Mode :=
  settings.foldl set m

/-- A set with the characters in the other case, if case is ignored. -/
def fold (m : Mode) (a : CharSet) : CharSet :=
  if !m.ignoreCase then a else if m.unicode then CaseFold.fold a else CaseFold.foldAscii a

/-! ## §2. Classes. -/

/-- Whether a set has more than ASCII where it may not. -/
def reachesBeyondAscii (m : Mode) (a : CharSet) : Bool :=
  !m.unicode && !a.isAscii

/-- What a class stands for as a whole, given what is in it. -/
def close (m : Mode) (extent : Extent) (negated : Bool) (a : CharSet) :
    Except Flaw CharSet :=
  let a := .negateIf negated (m.fold a)
  if m.reachesBeyondAscii a then flaw .invalidUtf8 extent else .ok a

/-- The character that stands for itself. -/
def literal (m : Mode) (l : Literal) : Except Flaw Char :=
  if !m.unicode && l.isByte && 128 ≤ l.char.toNat then flaw .invalidUtf8 l.extent
  else .ok l.char

/-- The character that stands for itself in a class. -/
def classLiteral (m : Mode) (l : Literal) : Except Flaw Char := do
  let c ← m.literal l
  if !m.unicode && 128 ≤ c.toNat then flaw .unicodeNotAllowed l.extent
  return c

/-- A class with a name of one letter. -/
def shorthand (m : Mode) (extent : Extent) (name : Shorthand) (negated : Bool) :
    Except Flaw CharSet :=
  let a := .negateIf negated (.ofShorthand m.unicode name)
  if m.reachesBeyondAscii a then flaw .invalidUtf8 extent else .ok a

/-- The characters with a property. -/
def property (m : Mode) (extent : Extent) (query : Query) (negated : Bool) :
    Except Flaw CharSet :=
  if m.unicode then
    match Property.ofQuery query with
    | .ok a => m.close extent negated a
    | .error kind => flaw kind extent
  else flaw .unicodeNotAllowed extent

mutual

/-- What stands between brackets, as a set. -/
def classSet (m : Mode) : CharClass → Except Flaw CharSet
  | .empty _ => .ok .none
  | .literal l => return .single (← m.classLiteral l)
  | .range _ first last => return .range (← m.classLiteral first) (← m.classLiteral last)
  | .ascii extent name negated => m.close extent negated (.ofAscii name)
  | .shorthand extent name negated => m.shorthand extent name negated
  | .property extent query negated => m.property extent query negated
  | .bracketed extent negated body => do m.close extent negated (← classSet m body)
  | .union _ items => return .unions (← classSets m items)
  | .combined _ op left right => do
      let a ← classSet m left
      let b ← classSet m right
      return .combine op (m.fold a) (m.fold b)

/-- What stands side by side, each as a set. -/
def classSets (m : Mode) : List CharClass → Except Flaw (List CharSet)
  | [] => .ok []
  | i :: is => do
      let a ← classSet m i
      return a :: (← classSets m is)

end

/-! ## §3. Trees. -/

/-- The dot. -/
def dot (m : Mode) (extent : Extent) : Except Flaw CharSet :=
  if !m.unicode then flaw .invalidUtf8 extent
  else if m.dotAll then .ok CharSet.none.complement
  else if m.crlf then .ok (CharSet.single '\n' ∪ .single '\r').complement
  else .ok (CharSet.single '\n').complement

/-- A character, or the ones that differ from it in their case only. -/
def char (m : Mode) (c : Char) : Expr :=
  if !m.ignoreCase then .text [c]
  else .ofSet m.unicode (if m.unicode then CaseFold.variants c else CaseFold.foldAscii (.single c))

/-- A place between characters. -/
def anchor (m : Mode) : Assertion → Anchor
  | .lineStart => if m.multiLine then .lineStart m.crlf else .textStart
  | .lineEnd => if m.multiLine then .lineEnd m.crlf else .textEnd
  | .textStart => .textStart
  | .textEnd => .textEnd
  | .word b => .word m.unicode b

mutual

/-- What a tree stands for, and the flags in force behind it. -/
def expr (m : Mode) : Tree → Except Flaw (Expr × Mode)
  | .empty _ => .ok (.empty, m)
  | .flags _ settings => .ok (.empty, m.setAll settings)
  | .literal l => return (m.char (← m.literal l), m)
  | .dot extent => return (.ofSet true (← m.dot extent), m)
  | .assertion _ a => .ok (.anchor (m.anchor a), m)
  | .shorthand extent name negated =>
      return (.ofSet m.unicode (← m.shorthand extent name negated), m)
  | .property extent query negated => return (.ofSet true (← m.property extent query negated), m)
  | .bracketed extent negated body => do
      return (.ofSet m.unicode (← m.close extent negated (← m.classSet body)), m)
  | .repetition _ least most? greedy body => do
      let (e, m) ← expr m body
      return (.ofTimes least most? (greedy != m.swapGreed) e, m)
  | .group _ number? settings body => do
      let (e, _) ← expr (m.setAll settings) body
      return ((number?.map (fun n => Expr.group n e)).getD e, m)
  | .alternation _ branches => do
      let (es, m) ← exprs m branches
      return (.ofAlt es, m)
  | .sequence _ parts => do
      let (es, m) ← exprs m parts
      return (.ofSeq es, m)

/-- What several trees stand for, one behind the other. -/
def exprs (m : Mode) : List Tree → Except Flaw (List Expr × Mode)
  | [] => .ok ([], m)
  | t :: ts => do
      let (e, m) ← expr m t
      let (es, m) ← exprs m ts
      return (e :: es, m)

end

end Mode

/-- What a tree stands for. -/
def Tree.meaning (t : Tree) : Except Flaw Expr :=
  (Mode.initial.expr t).map (·.1)

end LineLexer.Pattern
