/-
  LineLexer.Failure
  ─────────────────
  **HOW A FAILURE IS REPORTED.**

  A failure is told by what could not be done and by the causes of that, each
  the cause of the one before it:

      Error: scanning stopped

      Caused by:
          0: failed to read source at main.src:12
          1: stream did not contain valid UTF-8

  A single cause bears no number, and without a cause the first line stands
  alone.  A cause of several lines keeps them together by its margin.
-/
import LineLexer.Text.Indented

namespace LineLexer

/-- What could not be done, and why. -/
structure Failure where
  /-- What could not be done. -/
  summary : String
  /-- The causes, the outermost one first. -/
  causes : List String
  deriving Repr, DecidableEq

namespace Failure

/-- The failure and its causes in one list. -/
def chain (f : Failure) : List String :=
  f.summary :: f.causes

/-- A cause behind its heading. -/
def headed (heading cause : String) : String :=
  heading ++ String.ofList (indented heading.length cause.toList)

/-- The lines for the causes. -/
def causeLines : List String → List String
  | [] => []
  | [cause] => ["", "Caused by:", headed "    " cause]
  | causes =>
      "" :: "Caused by:"
        :: causes.zipIdx.map (fun (cause, i) => headed s!"    {i}: " cause)

/-- The report of the failure. -/
def report (f : Failure) : String :=
  String.join ((("Error: " ++ f.summary) :: causeLines f.causes).map (· ++ "\n"))

end Failure

end LineLexer
