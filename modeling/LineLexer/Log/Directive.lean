/-
  LineLexer.Log.Directive
  ───────────────────────
  **DIRECTIVES FOR THE LOG.**

  A directive sets the threshold for the parts of the program whose names
  begin with a given one, or for all parts.  For each part the directive with
  the longest name decides, and of two equally long ones the later; a part
  that no directive is meant for is silent.  Directives are written with
  commas between them:

      debug                   — that threshold for all parts
      scanner                 — everything from the parts of this name
      scanner=warn            — that threshold for them
      warn,scanner=trace      — both directives
-/
import LineLexer.Log
import LineLexer.Text.WhiteSpace

namespace LineLexer.Log

/-! ## §1. What directives decide. -/

/-- The threshold for some parts of the program. -/
structure Directive where
  /-- How the names of these parts begin; none stands for all parts. -/
  name? : Option Text
  /-- Their threshold. -/
  threshold : Threshold
  deriving Repr, DecidableEq

namespace Directive

/-- How much of a name the directive sets. -/
def length (d : Directive) : Nat :=
  (d.name?.map List.length).getD 0

/-- Whether the directive is meant for a part. -/
def covers (d : Directive) (part : Text) : Bool :=
  d.name?.all (·.isPrefixOf part)

/-- The directive that decides for a part. -/
def deciding? (ds : List Directive) (part : Text) : Option Directive :=
  ds.foldl (fun best? d =>
    if d.covers part && best?.all (·.length ≤ d.length) then some d else best?) none

/-- The directives, or else the one by which only errors are shown. -/
def orErrors : List Directive → List Directive
  | [] => [⟨none, .upTo .error⟩]
  | ds => ds

end Directive

/-- The threshold that directives set for a part. -/
def thresholdBy (ds : List Directive) (part : Text) : Threshold :=
  ((Directive.deciding? ds part).map (·.threshold)).getD .off

/-- One directive for all parts decides for each. -/
theorem thresholdBy_all (threshold : Threshold) (part : Text) :
    thresholdBy [⟨none, threshold⟩] part = threshold := rfl

/-! ## §2. How they are written. -/

/-- The threshold that lets every record through. -/
def everything : Threshold := .upTo .trace

/-- The name of a part, free of what has a meaning of its own in a setting. -/
structure IsPlain (name : Text) : Prop where
  /-- It is not empty. -/
  ne_nil : name ≠ []
  /-- It has no separators. -/
  separators : ∀ c ∈ name, c ≠ ',' ∧ c ≠ '=' ∧ c ≠ '/'
  /-- It has no white space. -/
  blanks : ∀ c ∈ name, WhiteSpace.has c = false

/-- A text is a way to write a directive. -/
inductive Directive.Writes : Text → Directive → Prop where
  /-- The name of a threshold sets it for all parts. -/
  | level {name : Text} {threshold : Threshold} (h : Threshold.ofName? name = some threshold) :
      Writes name ⟨none, threshold⟩
  /-- Any other name stands for the parts of this name, which are shown. -/
  | part {name : Text} (hname : IsPlain name) (hno : Threshold.ofName? name = none) :
      Writes name ⟨some name, everything⟩
  /-- A threshold is set for them. -/
  | partLevel {name level : Text} {threshold : Threshold} (hname : IsPlain name)
      (h : Threshold.ofName? level = some threshold) :
      Writes (name ++ '=' :: level) ⟨some name, threshold⟩

/-- A setting of the log that is written out of these directives, each with the
text for it. -/
structure IsSetting (setting : Text) (items : List (Text × Directive)) : Prop where
  /-- Each text is a way to write its directive. -/
  writes : ∀ item ∈ items, Directive.Writes item.1 item.2
  /-- The texts are put together with commas. -/
  text : setting = [','].intercalate (items.map (·.1))

/-- The name of a threshold is a setting. -/
theorem IsSetting.of_name {name : Text} {threshold : Threshold}
    (h : Threshold.ofName? name = some threshold) :
    IsSetting name [(name, ⟨none, threshold⟩)] where
  writes := by
    intro item hitem
    rw [List.mem_singleton.1 hitem]
    exact .level h
  text := by simp

end LineLexer.Log
