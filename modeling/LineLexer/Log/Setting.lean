/-
  LineLexer.Log.Setting
  ─────────────────────
  **A FILTER IN WORDS.**

      warn,scanner=trace       — directives
      warn,scanner=trace/read  — and only records that the pattern `read`
                                 occurs in

  White space around directives and around thresholds does not count.  What
  cannot be understood is left out and complained about; if no directive is
  left, errors are shown.
-/
import LineLexer.Log.Filter

namespace LineLexer.Log

/-! ## §1. Complaints. -/

/-- Something in a setting that cannot be understood. -/
inductive Complaint where
  /-- More than one slash. -/
  | surplusSlash (setting : Text)
  /-- More than one equals sign. -/
  | surplusEquals (directive : Text)
  /-- A threshold that does not exist. -/
  | unknownThreshold (name : Text)
  /-- A pattern with a flaw. -/
  | badPattern (report : String)
  deriving Repr, DecidableEq

namespace Complaint

/-- The complaint in words. -/
def message : Complaint → String
  | surplusSlash setting =>
      "invalid logging spec '" ++ String.ofList setting ++ "' (too many '/'s)"
  | surplusEquals directive => "invalid logging spec '" ++ String.ofList directive ++ "'"
  | unknownThreshold name => "invalid logging spec '" ++ String.ofList name ++ "'"
  | badPattern report => "invalid regex filter - " ++ report

/-- The line in which the program complains. -/
def warning (c : Complaint) : String :=
  "warning: " ++ c.message ++ ", ignoring it"

end Complaint

/-! ## §2. Settings. -/

/-- The directive that is written so. -/
def Directive.ofText (t : Text) : Except Complaint Directive :=
  match t.splitOn '=' with
  | [name] =>
      match Threshold.ofName? name with
      | some threshold => .ok ⟨none, threshold⟩
      | none => .ok ⟨some name, everything⟩
  | [name, threshold] =>
      match WhiteSpace.trim threshold with
      | [] => .ok ⟨some name, everything⟩
      | word =>
          match Threshold.ofName? word with
          | some threshold => .ok ⟨some name, threshold⟩
          | none => .error (.unknownThreshold word)
  | _ => .error (.surplusEquals t)

/-- The directives between commas. -/
def directivesOf (t : Text) : List Directive × List Complaint :=
  let parts := ((t.splitOn ',').map WhiteSpace.trim).filter (!·.isEmpty)
  parts.foldl (fun (ds, cs) part =>
    match Directive.ofText part with
    | .ok d => (ds ++ [d], cs)
    | .error c => (ds, cs ++ [c])) ([], [])

/-- The pattern behind the slash, if there is one. -/
def patternOf : Option Text → Option Pattern × List Complaint
  | none => (none, [])
  | some t =>
      match Pattern.ofText t with
      | .ok p => (some p, [])
      | .error report => (none, [.badPattern report])

/-- The filter that a setting asks for, and what is wrong with the setting. -/
def Filter.ofSetting (t : Text) : Filter × List Complaint :=
  match t.splitOn '/' with
  | _ :: _ :: _ :: _ => (⟨Directive.orErrors [], none⟩, [.surplusSlash t])
  | parts =>
      let (directives, complaints) := directivesOf (parts.headD [])
      let (pattern?, more) := patternOf parts.tail.head?
      (⟨Directive.orErrors directives, pattern?⟩, complaints ++ more)

end LineLexer.Log
