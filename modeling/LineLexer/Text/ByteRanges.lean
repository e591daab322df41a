/-
  LineLexer.Text.ByteRanges
  ─────────────────────────
  **RANGES OF CHARACTERS AS RANGES OF BYTES.**

  A machine that reads bytes cannot look for a range of characters at once.
  It looks for sequences of ranges of bytes: a sequence stands for all
  characters whose first byte lies in its first range, whose second byte lies
  in its second one, and so on.

      sequences first last   — the sequences for a range of numbers, in order

  A range is cut in two wherever one sequence cannot do: where characters
  begin to take one byte more, and where all bytes behind the one that differs
  would not run through all their values.
-/
import LineLexer.Text.Utf8

namespace LineLexer.ByteRanges

/-- A range of bytes, both ends included. -/
abbrev ByteRange := UInt8 × UInt8

/-! ## §1. Cutting a range of numbers. -/

/-- Where a range has to be cut so that the last bytes, of which there are
`block` values, run through all of them. -/
def cutAtBlock? (block first last : Nat) : Option Nat :=
  if first / block = last / block then none
  else if first % block ≠ 0 then some ((first / block + 1) * block)
  else if (last + 1) % block ≠ 0 then some (last / block * block)
  else none

/-- Where a range has to be cut because characters begin to take one byte
more. -/
def cutAtSize? (first last : Nat) : Option Nat :=
  [0x80, 0x800, 0x10000].find? (fun n => first < n && n ≤ last)

/-- Where a range of several bytes has to be cut. -/
def cut? (first last : Nat) : Option Nat :=
  match cutAtSize? first last with
  | some n => some n
  | none =>
      if last < 0x80 then none
      else [0x40, 0x1000, 0x40000].findSome? (fun block => cutAtBlock? block first last)

/-- The pieces into which a range is cut. -/
def pieces (first last : Nat) : List (Nat × Nat) :=
  match cut? first last with
  | none => [(first, last)]
  | some n =>
      if first < n ∧ n ≤ last then pieces first (n - 1) ++ pieces n last else [(first, last)]
termination_by last - first

/-! ## §2. Sequences. -/

/-- The sequence for a piece. -/
def sequence (piece : Nat × Nat) : List ByteRange :=
  List.zip (String.utf8EncodeChar (Char.ofNat piece.1)) (String.utf8EncodeChar (Char.ofNat piece.2))

/-- A range without the numbers that no character has. -/
def characters (first last : Nat) : List (Nat × Nat) :=
  if first < 0xE000 ∧ 0xD7FF < last then
    [(first, 0xD7FF), (0xE000, last)].filter (fun r => r.1 ≤ r.2)
  else [(first, last)]

/-- The sequences for a range. -/
def sequences (first last : Nat) : List (List ByteRange) :=
  ((characters first last).flatMap (fun r => pieces r.1 r.2)).map sequence

end LineLexer.ByteRanges
