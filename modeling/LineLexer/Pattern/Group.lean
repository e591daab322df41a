/-
  LineLexer.Pattern.Group
  ───────────────────────
  **HOW A GROUP BEGINS.**

      (            a group
      (?P<name>    a group with a name, as is (?<name>
      (?i-s:       a group with flags of its own
      (?i-s)       no group, but flags for the rest of the one around it

  A name begins with a letter or an underscore; digits, full stops and square
  brackets may follow.  No two groups have the same name, and no flag is given
  twice.
-/
import LineLexer.Pattern.Reading
import LineLexer.Text.Alphabetic

namespace LineLexer.Pattern.Group

/-! ## §1. Names. -/

/-- The names of the groups so far, and where they are. -/
abbrev Names := List (Text × Extent)

/-- Whether a character can stand in a name. -/
def isNameCharacter (isFirst : Bool) (c : Char) : Bool :=
  if isFirst then c == '_' || Alphabetic.has c
  else c == '_' || c == '.' || c == '[' || c == ']' || Alphabetic.hasOrNumber c

/-- The characters of a name, and what is left from the angle behind them. -/
def nameCharacters (isFirst : Bool) : Text → Except Flaw (Text × Text)
  | [] => flaw .groupNameUnfinished (.before [])
  | c :: r =>
      if c = '>' then .ok ([], c :: r)
      else if isNameCharacter isFirst c then do
        let (name, rest) ← nameCharacters false r
        return (c :: name, rest)
      else flaw .groupNameCharacter (.first (c :: r))

/-- The name up to the angle, and the names with this one. -/
def name (names : Names) (s : Text) : Except Flaw (Names × Text) := do
  let (name, rest) ← nameCharacters true s
  if name.isEmpty then flaw .groupNameEmpty (.before s)
  let extent := Extent.between s rest
  match names.lookup name with
  | some earlier => throw ⟨.groupNameRepeated, extent, some earlier⟩
  | none => return (names ++ [(name, extent)], rest.tail)

/-! ## §2. Flags. -/

/-- The flag with a letter. -/
def flagOf? : Char → Option Flag
  | 'i' => some .ignoreCase
  | 'm' => some .multiLine
  | 's' => some .dotAll
  | 'U' => some .swapGreed
  | 'u' => some .unicode
  | 'R' => some .crlf
  | 'x' => some .extended
  | _ => none

/-- The flags so far: which are turned on and off, and where they are given. -/
structure Flags where
  given : List (Flag × Bool × Extent)
  minus? : Option Extent

namespace Flags

/-- What becomes of the flags. -/
def settings (fs : Flags) : Settings :=
  fs.given.map (fun (flag, on, _) => (flag, on))

/-- One more letter or a minus, which stands at the front of `s`. -/
def add (fs : Flags) (s : Text) : Except Flaw Flags :=
  let extent := Extent.first s
  if s.head? == some '-' then
    match fs.minus? with
    | some earlier => .error ⟨.flagNegationRepeated, extent, some earlier⟩
    | none => .ok { fs with minus? := some extent }
  else
    match s.head?.bind flagOf? with
    | none => flaw .flagUnknown extent
    | some flag =>
        match fs.given.lookup flag with
        | some (_, earlier) => .error ⟨.flagRepeated, extent, some earlier⟩
        | none => .ok { fs with given := fs.given ++ [(flag, fs.minus?.isNone, extent)] }

end Flags

/-- The flags up to a colon or a closing parenthesis, which is left. -/
def flags (fs : Flags) : Text → Except Flaw (Flags × Text)
  | [] => flaw .flagsUnfinished (.before [])
  | c :: r =>
      if c = ':' || c = ')' then .ok (fs, c :: r)
      else do
        let fs ← fs.add (c :: r)
        -- a minus has to have a flag behind it
        if c = '-' && (r.head? == some ':' || r.head? == some ')') then
          flaw .flagNegationDangling (.first (c :: r))
        else flags fs r

/-! ## §3. The beginning of a group. -/

/-- What begins with a parenthesis. -/
inductive Opening where
  /-- A group that gets a number. -/
  | numbered
  /-- A group without a number, with flags of its own. -/
  | group (settings : Settings)
  /-- Flags for the group around it. -/
  | flags (settings : Settings)
  deriving Repr, DecidableEq

/-- What is left behind a front, if the text begins with it. -/
def behind? (front : String) (s : Text) : Option Text :=
  if front.toList.isPrefixOf s then some (s.drop front.toList.length) else none

/-- What is left behind a sign to look ahead or back. -/
def lookAround? (s : Text) : Option Text :=
  ["?=", "?!", "?<=", "?<!"].findSome? (behind? · s)

/-- The beginning of the group whose parenthesis is at the front of `s`, and the
names with that of the group. -/
def opening (extended : Bool) (names : Names) (s : Text) :
    Except Flaw ((Opening × Names) × Text) := do
  let inner := skip extended s.tail
  if let some rest := lookAround? inner then flaw .lookAround (.between s rest)
  match (behind? "?P<" inner).or (behind? "?<" inner) with
  | some r =>
      let (names, rest) ← name names r
      return ((.numbered, names), rest)
  | none =>
      match inner with
      | '?' :: r =>
          if r.isEmpty then flaw .groupUnclosed (.first s)
          let (fs, rest) ← flags ⟨[], none⟩ r
          if rest.head? == some ':' then return ((.group fs.settings, names), rest.tail)
          if fs.given.isEmpty then flaw .repetitionOfNothing (.before inner)
          return ((.flags fs.settings, names), rest.tail)
      | _ => return ((.numbered, names), inner)

end LineLexer.Pattern.Group
