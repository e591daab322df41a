/-
  LineLexer.Pattern.Machine.Classes
  ─────────────────────────────────
  **ONE OF SOME CHARACTERS.**

  A machine reads a character byte by byte.  Many characters end in the same
  ranges of bytes, and the states for them are shared as far as they are still
  remembered.  The memory has a limited number of slots; which one a state
  belongs to depends on what it does, and a state that comes later into the
  same slot drives out the one in it.

      forward a    — the states that read a character from its first byte
      backward a   — the states that read it from its last byte
-/
import LineLexer.Pattern.CharSet
import LineLexer.Pattern.Machine.Room
import LineLexer.Text.ByteRanges
import Std.Data.HashMap

namespace LineLexer.Pattern.Machine

open ByteRanges (ByteRange)

/-! ## §1. Slots. -/

/-- One more number, mixed into a sum. -/
def mix (sum : UInt64) (n : Nat) : UInt64 :=
  (sum ^^^ UInt64.ofNat n) * 1099511628211

/-- The sum that everything is mixed into. -/
def mixStart : UInt64 := 14695981039346656037

/-- A way from a state to another one, through a range of bytes. -/
structure Edge where
  range : ByteRange
  target : Nat
  deriving DecidableEq

/-- What a slot remembers: some ways and the state that has them. -/
abbrev Memory := Std.HashMap Nat (List Edge × Nat)

/-- The state that has some ways, if it is remembered in their slot. -/
def remembered? (m : Memory) (slot : Nat) (edges : List Edge) : Option Nat :=
  match m[slot]? with
  | some (known, state) => if known = edges then some state else none
  | none => none

/-! ## §2. From the first byte. -/

/-- A state that is not finished: the ways from it, the last one first, and the
range of one more whose target is not known yet. -/
structure Unfinished where
  edges : List Edge
  open? : Option ByteRange

/-- The states so far, those remembered, and the ones on the way to the last
character, from the first byte on. -/
structure Forward where
  room : Room
  memory : Memory
  path : List Unfinished

namespace Forward

/-- The slots for states. -/
def slots : UInt64 := 10000

/-- The slot for some ways. -/
def slot (edges : List Edge) : Nat :=
  let sum := edges.foldl (fun sum e =>
    mix (mix (mix sum e.range.1.toNat) e.range.2.toNat) e.target) mixStart
  (sum % slots).toNat

/-- The state with these ways: one that is remembered, or else a new one. -/
def state (f : Forward) (edges : List Edge) : Forward × Nat :=
  let s := slot edges
  match remembered? f.memory s edges with
  | some n => (f, n)
  | none =>
      let n := f.room.states
      ({ f with room := f.room.makeSparse edges.length, memory := f.memory.insert s (edges, n) }, n)

/-- The last way of a state is known to lead to the target. -/
def finished (u : Unfinished) (target : Nat) : List Edge :=
  match u.open? with
  | some range => ⟨range, target⟩ :: u.edges
  | none => u.edges

/-- Finishes the states on the way but so many of them; of those the last one
is given the target of its open way. -/
def close (f : Forward) (target : Nat) (keep : Nat) : Forward :=
  let front := f.path.take keep
  let (f, target) := (f.path.drop keep).reverse.foldl (fun (f, target) u =>
    f.state (finished u target).reverse) (f, target)
  match front.getLast? with
  | none => { f with path := front }
  | some u => { f with path := front.dropLast ++ [⟨finished u target, none⟩] }

/-- How many states on the way go on as a sequence does. -/
def sharedLength : List Unfinished → List ByteRange → Nat
  | u :: us, b :: bs => if u.open? = some b then sharedLength us bs + 1 else 0
  | _, _ => 0

/-- One more sequence; the ones before come first in order. -/
def add (target : Nat) (f : Forward) (sequence : List ByteRange) : Forward :=
  if f.room.isExceeded then f
  else
    let shared := sharedLength f.path sequence
    let f := f.close target (shared + 1)
    let news := (sequence.drop shared).map some
    let last := (f.path.getLast?.map (·.edges)).getD []
    let path := f.path.dropLast ++ ⟨last, news.head?.join⟩ :: news.tail.map (⟨[], ·⟩)
    { f with path }

end Forward

/-- The room with the states that read one of some characters from its first
byte. -/
def forward (sequences : List (List ByteRange)) (r : Room) : Room :=
  let target := r.states
  let start : Forward := ⟨r.make 1, ∅, [⟨[], none⟩]⟩
  ((sequences.foldl (Forward.add target) start).close target 0).room

/-! ## §3. From the last byte. -/

/-- The states so far, and those remembered, each for a range of bytes in front
of another state. -/
structure Backward where
  room : Room
  memory : Memory

namespace Backward

/-- The slots for states. -/
def slots : UInt64 := 1000

/-- The slot for a range in front of a state. -/
def slot (e : Edge) : Nat :=
  let sum := mix (mix (mix mixStart e.target) e.range.1.toNat) e.range.2.toNat
  (sum % slots).toNat

/-- The state that reads a range in front of another state. -/
def state (b : Backward) (e : Edge) : Backward × Nat :=
  let s := slot e
  match remembered? b.memory s [e] with
  | some n => (b, n)
  | none =>
      let n := b.room.states
      (⟨b.room.make 1, b.memory.insert s ([e], n)⟩, n)

/-- One more sequence, and a way to it. -/
def add (target : Nat) (b : Backward) (sequence : List ByteRange) : Backward :=
  if b.room.isExceeded then b
  else
    let (b, _) := sequence.foldl (fun (b, target) range => b.state ⟨range, target⟩) (b, target)
    { b with room := b.room.divide 1 }

end Backward

/-- The room with the states that read one of some characters from its last
byte. -/
def backward (sequences : List (List ByteRange)) (r : Room) : Room :=
  (sequences.foldl (Backward.add (r.states + 1)) ⟨r.make 2, ∅⟩).room

/-- The sequences for a set of characters. -/
def sequencesOf (a : CharSet) : List (List ByteRange) :=
  a.ranges.flatMap (fun r => ByteRanges.sequences r.1 r.2)

end LineLexer.Pattern.Machine
