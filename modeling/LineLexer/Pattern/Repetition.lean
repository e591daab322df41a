/-
  LineLexer.Pattern.Repetition
  ────────────────────────────
  **HOW OFTEN SOMETHING IS REPEATED.**

      x?      never or once
      x*      any number of times
      x+      at least once
      x{2}    twice
      x{2,}   at least twice
      x{2,3}  twice or three times

  A question mark behind one of these asks for as few times as possible, which
  makes no difference to whether the pattern occurs.  Without it the sign is
  greedy.
-/
import LineLexer.Pattern.Reading

namespace LineLexer.Pattern

/-- The least and the greatest number of times, if there is a greatest. -/
structure Times where
  least : Nat
  most? : Option Nat
  deriving Repr, DecidableEq

namespace Times

/-- Whether the number can be met at all. -/
def isOrdered (t : Times) : Bool :=
  t.most?.all (t.least ≤ ·)

/-- The sign for a number of times. -/
def ofSign? : Char → Option Times
  | '?' => some ⟨0, some 1⟩
  | '*' => some ⟨0, none⟩
  | '+' => some ⟨1, none⟩
  | _ => none

/-- Whether a sign is greedy, and what is left behind its question mark. -/
def greed (s : Text) : Bool × Text :=
  if s.head? == some '?' then (false, s.tail) else (true, s)

/-- The numbers of times, of which the least was read and `next` is left; the
opening brace is at the front of `s`. -/
def bounds (extended : Bool) (least : Except Flaw Nat) (s next : Text) :
    Except Flaw (Times × Text) := do
  if next.head? != some ',' then
    let n ← least
    return (⟨n, some n⟩, next)
  let behind := skip extended next.tail
  if behind.isEmpty then flaw .countUnclosed (.between s [])
  if behind.head? == some '}' then return (⟨← least, none⟩, behind)
  let n ← least
  let (most, stop) := decimal extended behind
  return (⟨n, some (← most)⟩, stop)

/-- The numbers between braces, and whether they are greedy; the opening brace is
at the front of `s`. -/
def counted (extended : Bool) (s : Text) : Except Flaw ((Times × Bool) × Text) := do
  let inside := skip extended s.tail
  if inside.isEmpty then flaw .countUnclosed (.between s [])
  let (least, next) := decimal extended inside
  if next.isEmpty then flaw .countUnclosed (.between s [])
  let (times, stop) ← bounds extended least s next
  if stop.head? != some '}' then flaw .countUnclosed (.between s stop)
  let (greedy, rest) := greed (skip extended stop.tail)
  if times.isOrdered then return ((times, greedy), rest)
  flaw .countOrder (.between s rest)

end Times

end LineLexer.Pattern
