/-
  LineLexer.Log.Filter
  ────────────────────
  **WHICH RECORDS ARE SHOWN.**

  A filter shows a record by the threshold that its directives set for the
  part of the program from which it comes.  Beside its directives a filter may
  have a pattern, which has to occur in what a record says.
-/
import LineLexer.Log.Directive
import LineLexer.Pattern

namespace LineLexer.Log

/-- Which records are shown. -/
structure Filter where
  /-- The thresholds. -/
  directives : List Directive
  /-- What has to occur in what a record says. -/
  pattern? : Option Pattern
  deriving Repr

/-- Whether a record is shown. -/
def Filter.shows (f : Filter) (r : Record) : Bool :=
  (thresholdBy f.directives r.part).shows r.level
    && f.pattern?.all (·.occursIn r.message.toList)

/-- Without a pattern the directives decide. -/
theorem Filter.shows_of_directives (ds : List Directive) (r : Record) :
    Filter.shows ⟨ds, none⟩ r = (thresholdBy ds r.part).shows r.level := by
  simp [shows]

end LineLexer.Log
