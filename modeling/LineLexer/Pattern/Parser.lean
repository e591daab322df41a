/-
  LineLexer.Pattern.Parser
  ────────────────────────
  **THE TREE OF A PATTERN.**

  `Tree.ofText` reads a whole pattern.  While it reads, it keeps the groups
  that are still open, each with what was read of it before the next one
  began; where a group closes, it becomes a part of the one around it.
-/
import LineLexer.Pattern.Bracket
import LineLexer.Pattern.Group
import LineLexer.Pattern.Repetition

namespace LineLexer.Pattern

namespace Parser

/-! ## §1. What was read so far. -/

/-- What was read of a group: the branches that are finished, with where they
began, and the parts of the present one; the last ones first. -/
structure Level where
  branches? : Option (Text × List Tree)
  start : Text
  parts : List Tree

/-- A group that is open: what was read of the one around it, and how that one
is read. -/
structure Frame where
  outer : Level
  opening : Extent
  number? : Option Nat
  settings : Settings
  extended : Bool

/-- How far reading has come. -/
structure State where
  extended : Bool
  names : Group.Names
  /-- How many groups have a number. -/
  groups : Nat
  frames : List Frame
  level : Level

namespace Level

/-- Nothing read yet of a group that begins where `s` is left. -/
def expectedAt (s : Text) : Level :=
  ⟨none, s, []⟩

/-- One more part. -/
def push (l : Level) (t : Tree) : Level :=
  { l with parts := t :: l.parts }

/-- The present branch, which ends where `s` is left. -/
def branch (l : Level) (s : Text) : Tree :=
  match l.parts with
  | [] => .empty (.between l.start s)
  | [t] => t
  | parts => .sequence (.between l.start s) parts.reverse

/-- The bar at the front of `s` ends a branch. -/
def bar (l : Level) (s : Text) : Level :=
  let branches := match l.branches? with
    | none => (l.start, [l.branch s])
    | some (start, done) => (start, l.branch s :: done)
  ⟨some branches, s.tail, []⟩

/-- All that was read, up to where `s` is left. -/
def toTree (l : Level) (s : Text) : Tree :=
  match l.branches? with
  | none => l.branch s
  | some (start, done) => .alternation (.between start s) (l.branch s :: done).reverse

end Level

/-- The new state behind one more part. -/
def State.push (st : State) (t : Tree) : State :=
  { st with level := st.level.push t }

/-! ## §2. One step. -/

/-- An atom as a tree. -/
def treeOf (extent : Extent) : Atom → Tree
  | .literal c isByte => .literal ⟨extent, c, isByte⟩
  | .dot => .dot extent
  | .assertion a => .assertion extent a
  | .shorthand name negated => .shorthand extent name negated
  | .property query negated => .property extent query negated

/-- The atom at the front of `s`. -/
def atom (extended : Bool) (s : Text) : Except Flaw (Atom × Text) :=
  match s with
  | '\\' :: _ => escape extended s
  | '.' :: r => .ok (.dot, r)
  | '^' :: r => .ok (.assertion .lineStart, r)
  | '$' :: r => .ok (.assertion .lineEnd, r)
  | c :: r => .ok (.literal c false, r)
  | [] => flaw .escapeUnfinished (.before [])

/-- The part in front of a sign of repetition, and the state without it. -/
def repeated (st : State) (s : Text) : Except Flaw (Tree × State) :=
  match st.level.parts with
  | t :: parts =>
      if t.isRepeatable then .ok (t, { st with level := { st.level with parts } })
      else flaw .repetitionOfNothing (.before s)
  | [] => flaw .repetitionOfNothing (.before s)

/-- A parenthesis opens at the front of `s`. -/
def openGroup (st : State) (s : Text) : Except Flaw (State × Text) := do
  let ((opening, names), rest) ← Group.opening st.extended st.names s
  match opening with
  | .flags settings =>
      let st := st.push (.flags (.between s rest) settings)
      return ({ st with names, extended := (settings.lookup .extended).getD st.extended }, rest)
  | .numbered =>
      let frame : Frame := ⟨st.level, .first s, some (st.groups + 1), [], st.extended⟩
      let frames := frame :: st.frames
      return (⟨st.extended, names, st.groups + 1, frames, .expectedAt rest⟩, rest)
  | .group settings =>
      let frame : Frame := ⟨st.level, .first s, none, settings, st.extended⟩
      let extended := (settings.lookup .extended).getD st.extended
      return (⟨extended, names, st.groups, frame :: st.frames, .expectedAt rest⟩, rest)

/-- A parenthesis closes at the front of `s`. -/
def closeGroup (st : State) (s : Text) : Except Flaw (State × Text) :=
  match st.frames with
  | [] => flaw .groupUnopened (.first s)
  | f :: frames =>
      let extent := Extent.between f.opening.start s.tail
      let group := Tree.group extent f.number? f.settings (st.level.toTree s)
      .ok (⟨f.extended, st.names, st.groups, frames, f.outer.push group⟩, s.tail)

/-- A sign of repetition stands at the front of `s`, or an opening brace. -/
def repeatLast (st : State) (s : Text) : Except Flaw (State × Text) := do
  let (t, st) ← repeated st s
  let ((times, greedy), rest) ← match s.head?.bind Times.ofSign? with
    | some times =>
        let (greedy, rest) := Times.greed s.tail
        pure ((times, greedy), rest)
    | none => Times.counted st.extended s
  let extent := Extent.between t.extent.start rest
  return (st.push (.repetition extent times.least times.most? greedy t), rest)

/-- One step: what stands at the front of `s`. -/
def step (st : State) (s : Text) : Except Flaw (State × Text) :=
  match s with
  | '(' :: _ => openGroup st s
  | ')' :: _ => closeGroup st s
  | '|' :: r => .ok ({ st with level := st.level.bar s }, r)
  | '[' :: _ => do
      let ((extent, negated, body), rest) ← Bracket.bracketed st.extended s
      return (st.push (.bracketed extent negated body), rest)
  | '?' :: _ | '*' :: _ | '+' :: _ | '{' :: _ => repeatLast st s
  | _ => do
      let (a, rest) ← atom st.extended s
      return (st.push (treeOf (.between s rest) a), rest)

/-! ## §3. All steps. -/

/-- The whole pattern was read. -/
def finish (st : State) : Except Flaw Tree :=
  match st.frames with
  | f :: _ => flaw .groupUnclosed f.opening
  | [] => .ok (st.level.toTree [])

/-- Reads up to the end, with at most one step for each character of a text
that is no shorter than `s`.  They are enough, since every step takes a
character or more. -/
def read (st : State) (s : Text) : Text → Except Flaw Tree
  | [] => finish st
  | _ :: steps =>
      match skip st.extended s with
      | [] => finish st
      | next => do
          let (st, rest) ← step st next
          read st rest steps

end Parser

/-! ## §4. Depth. -/

mutual

/-- The first class inside a class, in reading order, that lies deeper than so
many levels. -/
def CharClass.tooDeep? (room : Nat) : CharClass → Option Extent
  | .bracketed e _ body =>
      match room with
      | 0 => some e
      | room + 1 => body.tooDeep? room
  | .union e items =>
      match room with
      | 0 => some e
      | room + 1 => CharClass.tooDeepAmong? room items
  | .combined e _ left right =>
      match room with
      | 0 => some e
      | room + 1 => (left.tooDeep? room).or (right.tooDeep? room)
  | _ => none

/-- The first one among several. -/
def CharClass.tooDeepAmong? (room : Nat) : List CharClass → Option Extent
  | [] => none
  | c :: cs => (c.tooDeep? room).or (CharClass.tooDeepAmong? room cs)

end

mutual

/-- The first part of a tree, in reading order, that lies deeper than so many
levels. -/
def Tree.tooDeep? (room : Nat) : Tree → Option Extent
  | .bracketed e _ body =>
      match room with
      | 0 => some e
      | room + 1 => body.tooDeep? room
  | .repetition e _ _ _ body | .group e _ _ body =>
      match room with
      | 0 => some e
      | room + 1 => body.tooDeep? room
  | .alternation e branches =>
      match room with
      | 0 => some e
      | room + 1 => Tree.tooDeepAmong? room branches
  | .sequence e parts =>
      match room with
      | 0 => some e
      | room + 1 => Tree.tooDeepAmong? room parts
  | _ => none

/-- The first one among several. -/
def Tree.tooDeepAmong? (room : Nat) : List Tree → Option Extent
  | [] => none
  | t :: ts => (t.tooDeep? room).or (Tree.tooDeepAmong? room ts)

end

namespace Tree

/-- How deep a pattern may be nested. -/
def depthLimit : Nat := 250

/-- The tree of a pattern. -/
def ofText (pattern : Text) : Except Flaw Tree := do
  let tree ← Parser.read ⟨false, [], 0, [], .expectedAt pattern⟩ pattern pattern
  match tree.tooDeep? depthLimit with
  | some extent => flaw (.nestedTooDeep depthLimit) extent
  | none => return tree

end Tree

end LineLexer.Pattern
