/-
  LineLexer.Pattern.Machine.Literals
  ──────────────────────────────────
  **ONE OF SEVERAL TEXTS.**

  A machine that looks for one of several texts reads what they have in common
  only once: it follows a tree whose branches are bytes.  The text that comes
  first in the pattern has to win, so behind a place where a text ends the
  branches begin anew.
-/
import LineLexer.Pattern.Machine.Room

namespace LineLexer.Pattern.Machine

/-- A place in a tree of texts: the branches in front of each end of a text,
and the ones behind the last. -/
inductive TextTree where
  | node (closed : List (List (UInt8 × TextTree))) (current : List (UInt8 × TextTree))

namespace TextTree

/-- Nothing but the root. -/
def root : TextTree := node [] []

/-- Whether nothing goes on from here. -/
def isLeaf : TextTree → Bool
  | node closed current => closed.all List.isEmpty && current.isEmpty

/-- A text ends here; that it does so twice is seen only if it goes on in
between. -/
def mark : TextTree → TextTree
  | node closed current =>
      if (node closed current).isLeaf && !closed.isEmpty then node closed current
      else node (closed ++ [current]) []

/-- The branch with a byte, which may be a new one, is changed. -/
def change (b : UInt8) (f : TextTree → TextTree) :
    List (UInt8 × TextTree) → List (UInt8 × TextTree)
  | [] => [(b, f root)]
  | (c, t) :: rest =>
      if b = c then (c, f t) :: rest
      else if b < c then (b, f root) :: (c, t) :: rest
      else (c, t) :: change b f rest

/-- The tree with one more text. -/
def insert : List UInt8 → TextTree → TextTree
  | [], t => t.mark
  | b :: bs, node closed current => node closed (change b (insert bs) current)

/-- The tree of some texts. -/
def ofTexts (ts : List (List UInt8)) : TextTree :=
  ts.foldl (fun tree t => tree.insert t) root

/-! ## The room for a tree. -/

/-- The state for some branches, if there are any: for a single one it holds
just that. -/
def makeBranches (count : Nat) (r : Room) : Room :=
  match count with
  | 0 => r
  | 1 => (r.make 1).divide 1
  | n => (r.makeSparse n).divide 1

mutual

/-- The states for a place and all behind it.  A place divides the way between
its branches and the ends of texts; a leaf needs no state of its own. -/
def room : TextTree → Room → Room
  | node closed current, r =>
      let r := roomOfAll closed r
      (makeBranches current.length (roomOf current r)).make 1

/-- The states behind some branches. -/
def roomOf : List (UInt8 × TextTree) → Room → Room
  | [], r => r
  | (_, t) :: rest, r => roomOf rest (if t.isLeaf then r else room t r)

/-- The states for branches and the end of a text behind them, over and
over. -/
def roomOfAll : List (List (UInt8 × TextTree)) → Room → Room
  | [], r => r
  | branches :: rest, r =>
      roomOfAll rest ((makeBranches branches.length (roomOf branches r)).divide 1)

end

end TextTree

end LineLexer.Pattern.Machine
