/-
  LineLexer.Position
  ──────────────────
  **PLACES IN A NAMED SOURCE.**

  A `Position` is a byte offset into a source that has a name; a `Span` runs
  from one position up to, and not including, another.
-/

namespace LineLexer

/-- A byte offset into a named source. -/
structure Position where
  /-- The number of bytes before the position. -/
  offset : Nat
  /-- The name of the source. -/
  file : String
  deriving Repr, DecidableEq

namespace Position

/-- The position of what belongs to no source. -/
def null : Position := ⟨0, "<null>"⟩

instance : ToString Position where
  toString p := p.file ++ ":" ++ toString p.offset

end Position

/-- The bytes from `start` up to `stop`. -/
structure Span where
  /-- The position of the first byte. -/
  start : Position
  /-- The position behind the last byte. -/
  stop : Position
  deriving Repr, DecidableEq

namespace Span

/-- The span from one offset to another of one source. -/
def within (file : String) (start stop : Nat) : Span :=
  ⟨⟨start, file⟩, ⟨stop, file⟩⟩

/-- The number of bytes in the span. -/
def length (s : Span) : Nat :=
  s.stop.offset - s.start.offset

/-- Whether the span holds no byte; the names of its ends do not matter. -/
def isEmpty (s : Span) : Bool :=
  s.start.offset == s.stop.offset

/-- The span moved `n` bytes further into its source. -/
def shift (n : Nat) (s : Span) : Span :=
  ⟨⟨s.start.offset + n, s.start.file⟩, ⟨s.stop.offset + n, s.stop.file⟩⟩

end Span

end LineLexer
