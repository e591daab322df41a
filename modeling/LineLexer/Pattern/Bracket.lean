/-
  LineLexer.Pattern.Bracket
  ─────────────────────────
  **WHAT STANDS BETWEEN BRACKETS.**

      [abc]  [a-z]  [^a-z]     these characters, those between two, all others
      [\d\pL]  [[:alpha:]]     classes with a name
      [[a-z][0-9]]             classes in classes
      [a-z&&[^b]]  --  ~~      two classes and an operation on them

  A hyphen stands for itself at the front and at the back, and a closing
  bracket at the front.  Operations bind weaker than items that stand side by
  side, and the one to the left goes first.

  Reading keeps the brackets that are still open, each with the items read in
  front of it.
-/
import LineLexer.Pattern.Escape

namespace LineLexer.Pattern.Bracket

/-! ## §1. Items. -/

/-- Items that stand side by side, the last one first. -/
structure Items where
  extent : Extent
  items : List CharClass

namespace Items

/-- No items yet; the first one is expected where `s` is left to read. -/
def expectedAt (s : Text) : Items :=
  ⟨.before s, []⟩

/-- One more item. -/
def push (is : Items) (i : CharClass) : Items :=
  let start := if is.items.isEmpty then i.extent.start else is.extent.start
  ⟨⟨start, i.extent.stop⟩, i :: is.items⟩

/-- The class that the items make up. -/
def toClass (is : Items) : CharClass :=
  match is.items with
  | [] => .empty is.extent
  | [i] => i
  | items => .union is.extent items.reverse

end Items

/-- One end of a range, or an item by itself. -/
def atom (extended : Bool) (s : Text) : Except Flaw (Atom × Text) :=
  match s with
  | '\\' :: _ => escape extended s
  | c :: r => .ok (.literal c false, r)
  | [] => flaw .classUnclosed (.before [])

/-- An atom as an item. -/
def itemOf (extent : Extent) : Atom → Except Flaw CharClass
  | .literal c isByte => .ok (.literal ⟨extent, c, isByte⟩)
  | .shorthand name negated => .ok (.shorthand extent name negated)
  | .property query negated => .ok (.property extent query negated)
  | .dot | .assertion _ => flaw .classEscape extent

/-- An atom as the end of a range. -/
def endOf (extent : Extent) : Atom → Except Flaw Literal
  | .literal c isByte => .ok ⟨extent, c, isByte⟩
  | _ => flaw .classBoundary extent

/-- An item, which may be a range.  If the pattern ends within it, the class
that it belongs to was not closed. -/
def item (extended : Bool) (unclosed : Flaw) (s : Text) : Except Flaw (CharClass × Text) := do
  let (one, r) ← atom extended s
  let next := skip extended r
  if next.isEmpty then throw unclosed
  let behind := peek extended next
  if next.head? != some '-' || behind == some ']' || behind == some '-' then
    return (← itemOf (.between s r) one, next)
  let second := skip extended next.tail
  if second.isEmpty then throw unclosed
  let (other, rest) ← atom extended second
  let first ← endOf (.between s r) one
  let last ← endOf (.between second rest) other
  let extent := Extent.between s rest
  if first.char ≤ last.char then return (.range extent first last, rest)
  flaw .classRange extent

/-! ## §2. Classes with a name. -/

/-- The names of classes of ASCII characters. -/
def asciiNames : List (Text × AsciiClass) :=
  [("alnum".toList, .alnum), ("alpha".toList, .alpha), ("ascii".toList, .ascii),
    ("blank".toList, .blank), ("cntrl".toList, .cntrl), ("digit".toList, .digit),
    ("graph".toList, .graph), ("lower".toList, .lower), ("print".toList, .print),
    ("punct".toList, .punct), ("space".toList, .space), ("upper".toList, .upper),
    ("word".toList, .word), ("xdigit".toList, .xdigit)]

/-- A class of ASCII characters with its name between colons. -/
def ascii? (s : Text) : Option (CharClass × Text) :=
  match s with
  | '[' :: ':' :: r =>
      let (negated, r) := match r with
        | '^' :: r => (true, r)
        | r => (false, r)
      match r.dropWhile (· != ':') with
      | ':' :: ']' :: rest =>
          (asciiNames.lookup (r.takeWhile (· != ':'))).map
            (fun name => (.ascii (.between s rest) name negated, rest))
      | _ => none
  | _ => none

/-! ## §3. Brackets. -/

/-- What is still open. -/
inductive Frame where
  /-- An opening bracket, with the items in front of it. -/
  | opened (extent : Extent) (negated : Bool) (outer : Items)
  /-- An operation, with what stands to its left. -/
  | operation (op : ClassOp) (left : CharClass)

/-- The flaw of the innermost bracket that was not closed. -/
def unclosed (frames : List Frame) : Flaw :=
  let extent? := frames.findSome? (fun f => match f with
    | .opened extent _ _ => some extent
    | .operation _ _ => none)
  ⟨.classUnclosed, extent?.getD (.before []), none⟩

/-- What an operation that waits for its right side makes of it. -/
def combine (right : CharClass) : List Frame → CharClass × List Frame
  | .operation op left :: frames =>
      (.combined ⟨left.extent.start, right.extent.stop⟩ op left right, frames)
  | frames => (right, frames)

/-- The hyphens at the front of `s` as items; the bracket was opened at
`start`. -/
def hyphens (extended : Bool) (start : Text) (is : Items) (s : Text) : Except Flaw (Items × Text) :=
  match s with
  | '-' :: r =>
      let rest := skip extended r
      if rest.isEmpty then flaw .classUnclosed (.before start)
      else hyphens extended start (is.push (.literal ⟨.first ('-' :: r), '-', false⟩)) rest
  | s => .ok (is, s)
termination_by s.length
decreasing_by
  have := skip_length_le extended r
  simp only [List.length_cons]
  omega

/-- The opening bracket at the front of `s`, with the sign of negation and the
hyphens or the bracket that stand for themselves behind it. -/
def opening (extended : Bool) (s : Text) : Except Flaw ((Extent × Bool × Items) × Text) := do
  let front := skip extended s.tail
  if front.isEmpty then flaw .classUnclosed (.between s [])
  let negated := front.head? == some '^'
  let front := if negated then skip extended front.tail else front
  if front.isEmpty then flaw .classUnclosed (.between s [])
  let (items, front) ← hyphens extended s (.expectedAt front) front
  if items.items.isEmpty && front.head? == some ']' then
    let rest := skip extended front.tail
    if rest.isEmpty then flaw .classUnclosed (.between s [])
    return ((.between s rest, negated, items.push (.literal ⟨.first front, ']', false⟩)), rest)
  return ((.between s front, negated, items), front)

/-- The operation at the front of a text. -/
def operation? : Text → Option (ClassOp × Text)
  | '&' :: '&' :: r => some (.intersection, r)
  | '-' :: '-' :: r => some (.difference, r)
  | '~' :: '~' :: r => some (.symmetricDifference, r)
  | _ => none

/-- How reading goes on behind one step. -/
inductive Step where
  /-- With these brackets open and these items read. -/
  | more (frames : List Frame) (items : Items)
  /-- The outermost bracket was closed. -/
  | done (extent : Extent) (negated : Bool) (body : CharClass)

/-- One step: a bracket, an operation or an item at the front of `s`. -/
def step (extended : Bool) (frames : List Frame) (is : Items) (s : Text) :
    Except Flaw (Step × Text) :=
  match s with
  | [] => .error (unclosed frames)
  | ']' :: r =>
      match combine is.toClass frames with
      | (body, .opened extent negated outer :: frames) =>
          let extent := Extent.between extent.start r
          if frames.isEmpty then .ok (.done extent negated body, r)
          else .ok (.more frames (outer.push (.bracketed extent negated body)), r)
      | (body, _) => .ok (.done is.extent false body, r)
  | '[' :: _ =>
      match ascii? s with
      | some (named, rest) => .ok (.more frames (is.push named), rest)
      | none => do
          let ((extent, negated, items), rest) ← opening extended s
          return (.more (.opened extent negated is :: frames) items, rest)
  | _ =>
      match operation? s with
      | some (op, rest) =>
          let (left, frames) := combine is.toClass frames
          .ok (.more (.operation op left :: frames) (.expectedAt rest), rest)
      | none => do
          let (i, rest) ← item extended (unclosed frames) s
          return (.more frames (is.push i), rest)

/-- Reads up to the bracket that closes the outermost one, with at most one
step for each character of a text that is no shorter than `s`.  They are
enough, since every step takes a character or more. -/
def read (extended : Bool) (frames : List Frame) (is : Items) (s : Text) :
    Text → Except Flaw ((Extent × Bool × CharClass) × Text)
  | [] => .error (unclosed frames)
  | _ :: steps => do
      match ← step extended frames is (skip extended s) with
      | (.done extent negated body, rest) => return ((extent, negated, body), rest)
      | (.more frames items, rest) => read extended frames items rest steps

/-- The class whose opening bracket stands at the front of `s`. -/
def bracketed (extended : Bool) (s : Text) : Except Flaw ((Extent × Bool × CharClass) × Text) := do
  let ((extent, negated, items), rest) ← opening extended s
  read extended [.opened extent negated (.expectedAt s)] items rest rest

end LineLexer.Pattern.Bracket
