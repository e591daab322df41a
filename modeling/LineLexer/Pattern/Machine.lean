/-
  LineLexer.Pattern.Machine
  ─────────────────────────
  **THE MACHINES THAT LOOK FOR A PATTERN.**

  Two machines look for a pattern: one reads a text from its beginning, and
  one reads it back from its end.  A repetition makes a pattern large that is
  short in writing, for it takes as many copies of what it repeats as it has
  rounds.  A pattern for which one of the machines takes more room than it may
  is refused.

  The states are made in a fixed order, because the numbers they have by it
  decide which of them are shared.
-/
import LineLexer.Pattern.Expr
import LineLexer.Pattern.Machine.Classes
import LineLexer.Pattern.Machine.Literals

namespace LineLexer.Pattern.Machine

/-! ## §1. Where a pattern is bound to occur. -/

mutual

/-- Whether an expression can occur at the beginning of a text only. -/
def isAtStart : Expr → Bool
  | .anchor a => a = .textStart
  | .seq es => isRowAtStart es
  | .alt es => areAllAtStart es
  | .times least _ _ e => least ≠ 0 && isAtStart e
  | .group _ e => isAtStart e
  | _ => false

/-- Whether one of the parts up to the first that is not empty can. -/
def isRowAtStart : List Expr → Bool
  | [] => false
  | e :: es => isAtStart e || (e.isThin && isRowAtStart es)

/-- Whether all branches can. -/
def areAllAtStart : List Expr → Bool
  | [] => true
  | e :: es => isAtStart e && areAllAtStart es

end

mutual

/-- Whether an expression can occur at the end of a text only. -/
def isAtEnd : Expr → Bool
  | .anchor a => a = .textEnd
  | .seq es => isRowAtEnd es
  | .alt es => areAllAtEnd es
  | .times least _ _ e => least ≠ 0 && isAtEnd e
  | .group _ e => isAtEnd e
  | _ => false

/-- Whether one of the parts from the last that is not empty can. -/
def isRowAtEnd : List Expr → Bool
  | [] => false
  | e :: es => isRowAtEnd es || (es.all Expr.isThin && isAtEnd e)

/-- Whether all branches can. -/
def areAllAtEnd : List Expr → Bool
  | [] => true
  | e :: es => isAtEnd e && areAllAtEnd es

end

/-! ## §2. The states for an expression. -/

/-- The way in which a machine reads. -/
inductive Direction where
  | forward
  | backward
  deriving Repr, DecidableEq

mutual

/-- Whether the states for an expression end in one that divides the way. -/
def isDivided (d : Direction) : Expr → Bool
  | .times 0 none _ e => e.shortest?.any (0 < ·)
  | .times _ none _ _ => true
  | .times least (some most) _ e => least = most && isDivided d e
  | .seq es => isRowDivided d es
  | .group _ e => d = .backward && isDivided d e
  | _ => false

/-- Whether the states for parts do, one behind the other. -/
def isRowDivided (d : Direction) : List Expr → Bool
  | [] => false
  | [e] => isDivided d e
  | e :: es =>
      match d with
      | .forward => isRowDivided d es
      | .backward => isDivided d e

end

/-- The texts that branches are if all of them are texts. -/
def textsOf? (branches : List Expr) : Option (List (List UInt8)) :=
  branches.mapM (fun (b : Expr) => match b with
    | .text t => some (Utf8.encode t)
    | _ => none)

/-- The states for one of some characters. -/
def makeSet (d : Direction) (a : CharSet) (r : Room) : Room :=
  if a.isAscii then (r.make 1).makeSparse a.ranges.length
  else match d with
    | .forward => forward (sequencesOf a) r
    | .backward => backward (sequencesOf a) r

/-- The states for one of some texts. -/
def makeTexts (d : Direction) (ts : List (List UInt8)) (r : Room) : Room :=
  let ts := match d with
    | .forward => ts
    | .backward => ts.map List.reverse
  (TextTree.ofTexts ts).room (r.make 1)

/-- So many copies, one behind the other; none of them takes a state, too. -/
def copies (make : Room → Room) (isDivided : Bool) (n : Nat) (r : Room) : Room :=
  match n with
  | 0 => r.make 1
  | n + 1 => Room.repeated (fun r => make (r.lead isDivided)) n (make r)

/-- So many copies, in front of each of which a state divides the way, so that
the rest can be left out. -/
def options (make : Room → Room) (isDivided : Bool) (n : Nat) (r : Room) : Room :=
  Room.repeated (fun r => ((make (r.make 1)).lead isDivided).divide 2) n r

mutual

/-- The room with the states for an expression. -/
def make (d : Direction) : Expr → Room → Room
  | .empty, r => r.make 1
  | .text t, r => r.make (Utf8.size t)
  | .one _ a, r => makeSet d a r
  | .anchor _, r => r.make 1
  | .seq es, r => makeRow d es r
  | .alt es, r =>
      match textsOf? es with
      | some ts => makeTexts d ts r
      | none => makeBranches d 0 es r
  | .group _ e, r =>
      match d with
      | .forward => ((make d e (r.make 1)).lead (isDivided d e)).make 1
      | .backward => make d e r
  | .times least none _ e, r =>
      let isDivided := isDivided d e
      match least with
      | 0 =>
          if e.shortest?.any (0 < ·) then ((make d e (r.make 1)).lead isDivided).divide 1
          else (((make d e r).lead isDivided).make 3).divide 4
      | 1 => (((make d e r).lead isDivided).make 1).divide 1
      | n + 1 => (((copies (make d e) isDivided (n + 1) r).lead isDivided).make 1).divide 1
  | .times least (some most) _ e, r =>
      let isDivided := isDivided d e
      if least = 0 ∧ most = 1 then (((make d e (r.make 1)).lead isDivided).make 1).divide 2
      else
        let r := copies (make d e) isDivided least r
        if least = most then r
        else
          options (make d e) isDivided (most - least) ((r.lead (least ≠ 0 && isDivided)).make 1)

/-- The room with the states for parts, one behind the other. -/
def makeRow (d : Direction) : List Expr → Room → Room
  | [], r => r.make 1
  | [e], r => make d e r
  | e :: es, r =>
      match d with
      | .forward => makeRow d es ((make d e r).lead (isDivided d e))
      | .backward => make d e ((makeRow d es r).lead (isRowDivided d es))

/-- The room with the states for branches, of which so many were made.  Behind
the second one come the state that divides the way to them and the one where
they meet. -/
def makeBranches (d : Direction) (made : Nat) : List Expr → Room → Room
  | [], r => r
  | e :: es, r =>
      let r := ((make d e r).lead (isDivided d e)).divide 1
      makeBranches d (made + 1) es (if made = 1 then r.make 2 else r)

end

/-! ## §3. Machines. -/

/-- The states that find the place where a pattern begins, if it is not bound
to occur at one end. -/
def makeFront (isBound : Bool) : Room :=
  if isBound then Room.none.make 1 else ((Room.none.make 2).makeSparse 1).divide 2

/-- The room for the machine that reads a text in a direction. -/
def roomFor (d : Direction) (e : Expr) : Room :=
  match d with
  | .forward => (make d (.group 0 e) (makeFront (isAtStart e))).make 1
  | .backward => ((make d e (makeFront (isAtEnd e))).lead (isDivided d e)).make 1

/-- Whether one of the machines takes too much room. -/
def isTooLarge (e : Expr) : Bool :=
  (roomFor .forward e).isExceeded || (roomFor .backward e).isExceeded

/-- What is said of a pattern whose machines are too large. -/
def tooLarge : String :=
  s!"Compiled regex exceeds size limit of {Room.limit} bytes."

end LineLexer.Pattern.Machine
