/-
  LineLexer.Path
  ──────────────
  **PATHS.**

  A path is walked component by component; nothing and one dot lead nowhere,
  two dots lead to the directory above.  What a path leads to is known by the
  name that comes last.
-/
import LineLexer.Text.Utf8

namespace LineLexer

/-- The way to a file. -/
abbrev Path := Text

namespace Path

/-- The component that stays. -/
def here : Text := ['.']

/-- The component that goes up. -/
def up : Text := ['.', '.']

/-- The parts of a path between its slashes. -/
def components (p : Path) : List Text :=
  p.splitOn '/'

/-- The components that lead anywhere. -/
def moves (p : Path) : List Text :=
  (components p).filter (fun part => part ≠ [] && part ≠ here)

/-- The name of what the path leads to: its last component, unless that goes
up. -/
def fileName? (p : Path) : Option Text :=
  (moves p).getLast?.filter (· ≠ up)

end Path

end LineLexer
