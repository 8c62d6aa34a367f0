import ComponentCrd.Schema.Skip
import ComponentCrd.Text.Quoted

/-! The lines that a run writes for its user: progress and skipped paths if the user wants them,
and always the error that ends it.
-/

namespace ComponentCrd.Command

/-- A line for the user. -/
inductive Line where
  | info (text : String)
  | skip (issue : SkipIssue)
  | error (text : String)
deriving DecidableEq, Repr

namespace Line

/-- The text of a line, with its line end. -/
def text : Line → String
  | .info text => "info: " ++ text ++ "\n"
  | .skip issue =>
      "warn: component=" ++ Text.quoted issue.component ++ " path=" ++ Text.quoted issue.path
        ++ " reason=" ++ Text.quoted issue.reason ++ "\n"
  | .error text => "error: " ++ text ++ "\n"

/-- Whether a line is written even if the user did not ask for progress. -/
def isError : Line → Bool
  | .error _ => true
  | _ => false

end Line

/-- The lines of a run, in order. -/
abbrev Report := List Line

/-- What is written of a report. -/
def Report.text (report : Report) (verbose : Bool) : String :=
  String.join ((List.filter (fun line => verbose || line.isError) report).map Line.text)

end ComponentCrd.Command
