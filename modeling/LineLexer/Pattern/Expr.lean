/-
  LineLexer.Pattern.Expr
  ──────────────────────
  **WHAT A PATTERN STANDS FOR.**

  An `Expr` stands for texts.  The same texts can be written down in many
  ways, and some of them are simpler than others; the functions that put
  expressions together choose a simple one:

      ofSet     — one of some characters
      ofTimes   — something so many times
      ofSeq     — one behind the other
      ofAlt     — one of several

  Texts side by side are one text.  Branches of one character each are a set,
  and so are branches that are sets.  What all branches begin with stands in
  front of them.
-/
import LineLexer.Pattern.CharSet
import LineLexer.Text.Utf8

namespace LineLexer.Pattern

/-! ## §1. Expressions. -/

/-- A place between characters. -/
inductive Anchor where
  | textStart
  | textEnd
  /-- A line starts; it may be that CR LF is the end of a line. -/
  | lineStart (crlf : Bool)
  /-- A line ends; it may be that CR LF is the end of a line. -/
  | lineEnd (crlf : Bool)
  /-- A place next to a word, of ASCII characters only or not. -/
  | word (unicode : Bool) (boundary : Boundary)
  deriving Repr, DecidableEq

/-- What a pattern stands for. -/
inductive Expr where
  /-- The empty text. -/
  | empty
  /-- This text, which is not empty. -/
  | text (t : Text)
  /-- One of these characters, of ASCII only or not. -/
  | one (unicode : Bool) (set : CharSet)
  /-- The empty text at such a place. -/
  | anchor (anchor : Anchor)
  /-- One behind the other. -/
  | seq (parts : List Expr)
  /-- One of several. -/
  | alt (branches : List Expr)
  /-- So many times, one behind the other; as often as possible is tried first
  or last. -/
  | times (least : Nat) (most? : Option Nat) (greedy : Bool) (body : Expr)
  /-- A group with a number. -/
  | group (number : Nat) (body : Expr)
  deriving Repr

namespace Expr

/-- No text at all. -/
def nothing : Expr :=
  one false .none

mutual

/-- Whether two expressions are put together in the same way. -/
def same : Expr → Expr → Bool
  | empty, empty => true
  | text s, text t => s == t
  | one u a, one v b => u == v && a == b
  | anchor a, anchor b => a == b
  | seq as, seq bs => sameAll as bs
  | alt as, alt bs => sameAll as bs
  | times l m g a, times l' m' g' b => l == l' && m == m' && g == g' && same a b
  | group n a, group n' b => n == n' && same a b
  | _, _ => false

/-- Whether this holds for all of them, one by one. -/
def sameAll : List Expr → List Expr → Bool
  | [], [] => true
  | a :: as, b :: bs => same a b && sameAll as bs
  | _, _ => false

end

/-! ## §2. The length of a text. -/

/-- How many bytes the character with a number takes. -/
def byteCount (n : Nat) : Nat :=
  (Char.ofNat n).utf8Size

mutual

/-- The bytes of the shortest text; none if there is no text. -/
def shortest? : Expr → Option Nat
  | empty | anchor _ => some 0
  | text t => some (Utf8.size t)
  | one _ a => a.ranges.head?.map (fun r => byteCount r.1)
  | seq es => shortestRow? es
  | alt es => shortestBranch? es
  | times least _ _ e => (shortest? e).map (least * ·)
  | group _ e => shortest? e

/-- The same for parts, one behind the other. -/
def shortestRow? : List Expr → Option Nat
  | [] => some 0
  | e :: es => do return (← shortest? e) + (← shortestRow? es)

/-- The same for several branches, each of which has to have a text. -/
def shortestBranch? : List Expr → Option Nat
  | [] => none
  | [e] => shortest? e
  | e :: es => do return min (← shortest? e) (← shortestBranch? es)

end

mutual

/-- The bytes of the longest text; none if there is no text, or no longest
one. -/
def longest? : Expr → Option Nat
  | empty | anchor _ => some 0
  | text t => some (Utf8.size t)
  | one _ a => a.ranges.getLast?.map (fun r => byteCount r.2)
  | seq es => longestRow? es
  | alt es => longestBranch? es
  | times _ most? _ e => do return (← most?) * (← longest? e)
  | group _ e => longest? e

/-- The same for parts, one behind the other. -/
def longestRow? : List Expr → Option Nat
  | [] => some 0
  | e :: es => do return (← longest? e) + (← longestRow? es)

/-- The same for several branches, each of which has to have a text. -/
def longestBranch? : List Expr → Option Nat
  | [] => none
  | [e] => longest? e
  | e :: es => do return max (← longest? e) (← longestBranch? es)

end

/-- Whether an expression stands for empty texts only. -/
def isThin (e : Expr) : Bool :=
  longest? e == some 0

/-! ## §3. Putting expressions together. -/

/-- One of some characters, of ASCII only or not. -/
def ofSet (unicode : Bool) (a : CharSet) : Expr :=
  match a.only? with
  | some c => text [c]
  | none => if a.ranges.isEmpty then nothing else one unicode a

/-- Something so many times.  Empty texts are needed once at most. -/
def ofTimes (least : Nat) (most? : Option Nat) (greedy : Bool) (e : Expr) : Expr :=
  let least := if e.isThin then min least 1 else least
  let most? := if e.isThin then some (min (most?.getD 1) 1) else most?
  if most? = some 0 then empty
  else if least = 1 ∧ most? = some 1 then e
  else times least most? greedy e

/-- Parts without empty ones, with texts side by side made one. -/
def joinTexts (parts : List Expr) : List Expr :=
  parts.foldr (fun part rest =>
    match part, rest with
    | empty, rest => rest
    | text s, text t :: rest => text (s ++ t) :: rest
    | part, rest => part :: rest) []

/-- One behind the other. -/
def ofSeq (parts : List Expr) : Expr :=
  let flat := parts.flatMap (fun part => match part with
    | seq inner => inner
    | part => [part])
  match joinTexts flat with
  | [] => empty
  | [e] => e
  | es => seq es

/-- The set that branches are if each of them is one character. -/
def charsOf? (branches : List Expr) : Option CharSet :=
  (branches.mapM (fun (b : Expr) => match b with
    | text [c] => some (c.toNat, c.toNat)
    | _ => none)).map CharSet.ofRanges

/-- The set that branches are if each of them is a set. -/
def setOf? (branches : List Expr) : Option CharSet :=
  (branches.mapM (fun (b : Expr) => match b with
    | one _ a => some a.ranges
    | _ => none)).map (fun (rs : List Ranges) => CharSet.ofRanges rs.flatten)

/-- One of several; what they begin with is left where it is. -/
def ofBranches (branches : List Expr) : Expr :=
  let flat := branches.flatMap (fun branch => match branch with
    | alt inner => inner
    | branch => [branch])
  match flat with
  | [] => nothing
  | [e] => e
  | es =>
      match (charsOf? es).or (setOf? es) with
      | some a => ofSet true a
      | none => alt es

/-- How many parts two sequences begin with alike. -/
def commonFront : List Expr → List Expr → List Expr
  | a :: as, b :: bs => if same a b then a :: commonFront as bs else []
  | _, _ => []

/-- The parts of branches that all are sequences. -/
def rows? (branches : List Expr) : Option (List (List Expr)) :=
  branches.mapM (fun (b : Expr) => match b with
    | seq parts => some parts
    | _ => none)

/-- One of several.  What all of them begin with needs to stand there only
once. -/
def ofAlt (branches : List Expr) : Expr :=
  match ofBranches branches with
  | alt es =>
      match rows? es with
      | some (row :: rows) =>
          let front := rows.foldl commonFront row
          if front.isEmpty then alt es
          else
            let rest (r : List Expr) := ofSeq (r.drop front.length)
            ofSeq (front ++ [ofBranches ((row :: rows).map rest)])
      | _ => alt es
  | e => e

end Expr

end LineLexer.Pattern
