/-
  LineLexer.Pattern.Places
  ────────────────────────
  **WHERE A PATTERN OCCURS.**

  An expression stands for texts, each at a place in a longer one: what is in
  front of it and behind it matters for the places that it asks for.

      reach t e here    — where `e` can end in `t`, if it begins at one of the
                          places `here`
      e.occursIn t      — whether `e` stands for some part of `t`

  The places in a text of n characters are the n + 1 gaps around them, and a
  set of places is a list of as many truth values.

  A repetition never needs more than n + 1 rounds.  A round that ends where it
  began changes nothing, and so many rounds that all go on would leave the
  text: so a longer run of rounds can do with one round less, and one of just
  n + 1 can be given one more.
-/
import LineLexer.Pattern.Expr
import LineLexer.Pattern.NamedClass

namespace LineLexer.Pattern

/-! ## §1. Places between characters. -/

/-- Whether the place is there, by whether there is a word in front and
behind. -/
def Boundary.holds : Boundary → Bool → Bool → Bool
  | .edge, front, behind => front != behind
  | .inner, front, behind => front == behind
  | .start, front, behind => !front && behind
  | .stop, front, behind => front && !behind
  | .startHalf, front, _ => !front
  | .stopHalf, _, behind => !behind

/-- Whether the place is there, by the characters in front and behind. -/
def Anchor.holds : Anchor → Option Char → Option Char → Bool
  | textStart, front?, _ => front?.isNone
  | textEnd, _, behind? => behind?.isNone
  | lineStart false, front?, _ => front?.all (· == '\n')
  | lineStart true, front?, behind? =>
      front?.all (fun c => c == '\n' || (c == '\r' && behind? != some '\n'))
  | lineEnd false, _, behind? => behind?.all (· == '\n')
  | lineEnd true, front?, behind? =>
      behind?.all (fun c => c == '\r' || (c == '\n' && front? != some '\r'))
  | word unicode b, front?, behind? =>
      let isWord := (CharSet.ofShorthand unicode .word).has
      b.holds (front?.any isWord) (behind?.any isWord)

/-- The characters in front of and behind each place of a text. -/
def surroundings (t : Text) : List (Option Char × Option Char) :=
  List.zip (none :: t.map some) (t.map some ++ [none])

/-! ## §2. Sets of places. -/

/-- A set of places in a text: for each of them, whether it belongs to it. -/
abbrev Places := List Bool

namespace Places

/-- Both sets together. -/
def union (a b : Places) : Places :=
  List.zipWith (· || ·) a b

/-- The places behind a character of a text, if it is one of some. -/
def behind (t : Text) (isOne : Char → Bool) (here : Places) : Places :=
  false :: List.zipWith (fun h c => h && isOne c) here t

/-- What so many rounds make of a set. -/
def rounds (f : Places → Places) : Nat → Places → Places
  | 0, here => here
  | n + 1, here => rounds f n (f here)

/-- What up to so many rounds reach; if a round reaches nothing new, no later
one will. -/
def upTo (f : Places → Places) : Nat → Places → Places
  | 0, here => here
  | n + 1, here =>
      let more := union here (f here)
      if more = here then here else upTo f n more

end Places

/-! ## §3. Where an expression can end. -/

namespace Expr

mutual

/-- The places where an expression can end, if it begins at one of the places
given. -/
def reach (t : Text) : Expr → Places → Places
  | empty, here => here
  | text s, here => s.foldl (fun here c => Places.behind t (· == c) here) here
  | one _ set, here => Places.behind t set.has here
  | anchor a, here =>
      List.zipWith (fun h (front?, behind?) => h && a.holds front? behind?) here (surroundings t)
  | seq es, here => reachRow t es here
  | alt es, here => reachBranch t es here
  | times least most? _ e, here =>
      let enough := t.length + 1
      let few := Places.rounds (reach t e) (min least enough) here
      Places.upTo (reach t e) (min ((most?.map (· - least)).getD enough) enough) few
  | group _ e, here => reach t e here

/-- The places behind parts, one behind the other. -/
def reachRow (t : Text) : List Expr → Places → Places
  | [], here => here
  | e :: es, here => reachRow t es (reach t e here)

/-- The places behind one of several branches. -/
def reachBranch (t : Text) : List Expr → Places → Places
  | [], here => here.map (fun _ => false)
  | e :: es, here => Places.union (reach t e here) (reachBranch t es here)

end

/-- Whether an expression stands for some part of a text. -/
def occursIn (e : Expr) (t : Text) : Bool :=
  (reach t e (List.replicate (t.length + 1) true)).contains true

end Expr

end LineLexer.Pattern
