/-
  LineLexer.Pattern.CharSet
  ─────────────────────────
  **SETS OF CHARACTERS.**

  What a pattern calls for at one place is a set of characters.  A set is
  kept as ranges of their numbers, which ascend and do not touch each other,
  so that it says how many ranges a machine has to tell apart.

      a ∪ b   a ∩ b   a \ b   — the usual operations
      a.complement            — all other characters
      a.has c                 — whether a character is in the set

  No character has a number from D800 to DFFF: behind U+D7FF stands U+E000.
  Two ranges that end and begin there are kept apart, though, and what lies
  between them is taken to be these two characters.
-/
import LineLexer.Pattern.Tree
import LineLexer.Text.Ranges

namespace LineLexer.Pattern

/-- A set of characters. -/
structure CharSet where
  /-- The numbers of the characters. -/
  ranges : Ranges
  deriving Repr, DecidableEq

namespace CharSet

/-! ## §1. Membership. -/

/-- Whether the character with a number is in the set. -/
def holds (a : CharSet) (n : Nat) : Bool :=
  a.ranges.holds n

/-- Whether a character is in the set. -/
def has (a : CharSet) (c : Char) : Bool :=
  a.holds c.toNat

/-- The empty set. -/
def none : CharSet :=
  ⟨[]⟩

/-- The characters between two, these included. -/
def range (first last : Char) : CharSet :=
  ⟨[(first.toNat, last.toNat)]⟩

/-- The set of one character. -/
def single (c : Char) : CharSet :=
  range c c

/-- Whether only characters of ASCII are in the set. -/
def isAscii (a : CharSet) : Bool :=
  a.ranges.getLast?.all (·.2 < 128)

/-- The character of a set that has only one. -/
def only? (a : CharSet) : Option Char :=
  match a.ranges with
  | [(first, last)] => if first = last then some (Char.ofNat first) else Option.none
  | _ => Option.none

/-! ## §2. Operations. -/

/-- The number of the next character. -/
def next (n : Nat) : Nat :=
  if n = 0xD7FF then 0xE000 else n + 1

/-- The number of the character before. -/
def previous (n : Nat) : Nat :=
  if n = 0xE000 then 0xD7FF else n - 1

/-- The greatest number of a character. -/
def greatest : Nat := 0x10FFFF

/-- Ranges in the order of their starts, with those that overlap or touch made
one. -/
def join : Ranges → Ranges
  | (a, b) :: (c, d) :: rs =>
      if c ≤ b + 1 then join ((a, max b d) :: rs) else (a, b) :: join ((c, d) :: rs)
  | rs => rs
termination_by rs => rs.length

/-- The characters in some ranges, in any order. -/
def ofRanges (rs : Ranges) : CharSet :=
  ⟨join (rs.mergeSort (fun r s => r.1 ≤ s.1))⟩

/-- What is in one of two sets. -/
def union (a b : CharSet) : CharSet :=
  ⟨join (a.ranges.merge b.ranges (fun r s => r.1 ≤ s.1))⟩

/-- What is in two sets of ranges at once. -/
def common : Ranges → Ranges → Ranges
  | (a, b) :: rs, (c, d) :: ss =>
      let rest := if b ≤ d then common rs ((c, d) :: ss) else common ((a, b) :: rs) ss
      if max a c ≤ min b d then (max a c, min b d) :: rest else rest
  | _, _ => []
termination_by rs ss => rs.length + ss.length

/-- What is in both sets. -/
def intersection (a b : CharSet) : CharSet :=
  ⟨common a.ranges b.ranges⟩

/-- What is left of ranges without others. -/
def without : Ranges → Ranges → Ranges
  | (a, b) :: rs, (c, d) :: ss =>
      if d < a then without ((a, b) :: rs) ss
      else if b < c then (a, b) :: without rs ((c, d) :: ss)
      else
        let front := if a < c then [(a, previous c)] else []
        if d < b then front ++ without ((next d, b) :: rs) ss
        else front ++ without rs ((c, d) :: ss)
  | rs, _ => rs
termination_by rs ss => rs.length + ss.length

/-- What is in one set and not in the other. -/
def difference (a b : CharSet) : CharSet :=
  ⟨without a.ranges b.ranges⟩

/-- The gaps between ranges, from behind the last one of which the end is
given. -/
def gaps (last : Nat) : Ranges → Ranges
  | [] => if last < greatest then [(next last, greatest)] else []
  | (a, b) :: rs => (min (next last) (previous a), max (next last) (previous a)) :: gaps b rs

/-- All characters that are not in the set. -/
def complement (a : CharSet) : CharSet :=
  match a.ranges with
  | [] => ⟨[(0, greatest)]⟩
  | (first, last) :: rs =>
      ⟨(if 0 < first then [(0, previous first)] else []) ++ gaps last rs⟩

instance : Union CharSet := ⟨union⟩
instance : Inter CharSet := ⟨intersection⟩
instance : SDiff CharSet := ⟨difference⟩

/-- What is in one of some sets. -/
def unions (sets : List CharSet) : CharSet :=
  ofRanges (sets.flatMap (·.ranges))

/-- What an operation of a pattern makes of two sets. -/
def combine (op : ClassOp) (a b : CharSet) : CharSet :=
  match op with
  | .intersection => a ∩ b
  | .difference => a \ b
  | .symmetricDifference => (a ∪ b) \ (a ∩ b)

/-- The set, or all other characters. -/
def negateIf (negated : Bool) (a : CharSet) : CharSet :=
  if negated then a.complement else a

end CharSet

end LineLexer.Pattern
