import TemplateLint.Command.Arguments
import TemplateLint.Json.Printer
import TemplateLint.Lint.Diagnostic
import TemplateLint.System.Path

/-!
# Reports

The written forms of the outcome of a check: for people, with a line for each problem and
one for the totals; and as JSON, which has no form for a path that is no text.
-/

namespace TemplateLint.Command

/-- The diagnostics of one template. -/
structure FileReport where
  path : Path
  diagnostics : List Diagnostic

namespace FileReport

/-- The written form of a report as JSON, unless its path is no text. -/
def toValue? (r : FileReport) : Option Json.Value :=
  r.path.text?.map fun text => .object [("path", .text text),
    ("diagnostics", .list (r.diagnostics.map Diagnostic.toValue))]

/-- The line for a diagnostic; its line counts from one again. -/
def line (path : Path) (d : Diagnostic) : String :=
  path.toText ++ ":" ++ toString (d.start.line + 1) ++ ":" ++ toString d.start.character
    ++ ": " ++ d.message ++ "\n"

/-- The lines for the diagnostics of a template. -/
def lines (r : FileReport) : List String := r.diagnostics.map (line r.path)

end FileReport

/-- A number of things, with the ending of a plural unless there is one. -/
def counted (n : Int) (thing : String) : String :=
  toString n ++ " " ++ thing ++ (if n = 1 then "" else "s")

/-- The number of diagnostics in reports. -/
def problemCount : List FileReport → Nat
  | [] => 0
  | r :: rest => r.diagnostics.length + problemCount rest

/-- A count in a word of 32 bits that goes on with the diagnostics of a report.  Past the
greatest word it wraps around, as in a program that is built without checks of overflow. -/
def FileReport.tally (count : Int32) (r : FileReport) : Int32 :=
  r.diagnostics.foldl (fun n _ => n + 1) count

/-- The number of diagnostics in reports, as it is counted for people. -/
def tally (reports : List FileReport) : Int32 := reports.foldl FileReport.tally 0

/-- The line for the totals of reports. -/
def summary (reports : List FileReport) : String :=
  counted (tally reports).toInt "problem" ++ " in " ++ counted reports.length "file" ++ "\n"

/-- The reports for people. -/
def humanText (reports : List FileReport) : String :=
  "".intercalate (reports.flatMap FileReport.lines) ++ summary reports

/-- The reports as JSON, unless the path of one is no text. -/
def jsonText? (reports : List FileReport) : Option String :=
  (reports.mapM FileReport.toValue?).map fun values => Json.indented (.list values) ++ "\n"

/-- The reports in a form, unless they cannot be written in it. -/
def render : Format → List FileReport → Option String
  | .human, reports => some (humanText reports)
  | .json, reports => jsonText? reports

end TemplateLint.Command
