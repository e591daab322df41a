/-
  LineLexer.Pattern.Machine.Room
  ──────────────────────────────
  **HOW MUCH ROOM A MACHINE TAKES.**

  A machine that looks for a pattern is made of states.  Each takes 32 bytes.
  A state that tells ranges of bytes apart takes 8 more for every range, and a
  state that divides the way takes 4 more for every way.
-/

namespace LineLexer.Pattern.Machine

/-- The states that were made so far, and what they take beside 32 bytes
each. -/
structure Room where
  states : Nat
  extra : Nat
  deriving Repr, DecidableEq

namespace Room

/-- Nothing was made yet. -/
def none : Room := ⟨0, 0⟩

/-- The bytes in use. -/
def bytes (r : Room) : Nat :=
  32 * r.states + r.extra

/-- No machine may take more. -/
def limit : Nat := 10485760

/-- Whether a machine takes more than it may. -/
def isExceeded (r : Room) : Bool :=
  limit < r.bytes

/-- So many states more. -/
def make (n : Nat) (r : Room) : Room :=
  { r with states := r.states + n }

/-- One more state, which tells so many ranges apart. -/
def makeSparse (ranges : Nat) (r : Room) : Room :=
  ⟨r.states + 1, r.extra + 8 * ranges⟩

/-- So many ways more at states that divide the way. -/
def divide (ways : Nat) (r : Room) : Room :=
  { r with extra := r.extra + 4 * ways }

/-- A way on from the last state; it takes room only if that one divides the
way. -/
def lead (isDivided : Bool) (r : Room) : Room :=
  if isDivided then r.divide 1 else r

/-- The same step so many times, as long as there is room. -/
def repeated (step : Room → Room) : Nat → Room → Room
  | 0, r => r
  | n + 1, r => if r.isExceeded then r else repeated step n (step r)

end Room

end LineLexer.Pattern.Machine
