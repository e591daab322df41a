/-
  LineLexer.Pattern.Property.Named
  ────────────────────────────────
  **SETS WITH A NAME.**

  A pattern can ask for a set of characters by its name.  A set may have
  several names; all are given in small letters, without blanks, hyphens and
  low lines.  Some names stand for nothing that characters are listed for.
-/
import LineLexer.Pattern.CharSet

namespace LineLexer.Pattern.Property

/-- A set with its names. -/
structure Named where
  /-- The names. -/
  names : List String
  /-- The set, if characters are listed for it. -/
  set? : Option CharSet
  deriving Repr, DecidableEq

/-- The entry of a table with a name. -/
def Named.find? (table : List Named) (name : Text) : Option Named :=
  table.find? (·.names.contains (String.ofList name))

end LineLexer.Pattern.Property
