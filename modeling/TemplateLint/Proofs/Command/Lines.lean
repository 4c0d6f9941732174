import TemplateLint.Command.Report
import TemplateLint.Proofs.Lint.ShortCode

/-!
# The lines of reports

What the reports for people look like, line by line.  The message of a diagnostic is put on
one line, but the code behind it is not looked at, so it is the codes of the problems that
decide whether there is one line for each problem.
-/

namespace TemplateLint

/-! ### Messages -/

theorem unbroken_singleLine (s : String) :
  Text.Unbroken (singleLine s)
  := by
  intro c present
  rw [singleLine, String.toList_ofList, List.mem_filter] at present
  simpa [Text.isBreak] using present.2

/-- The message of a diagnostic has a line break exactly if the code of the problem has one. -/
theorem Problem.unbroken_message (p : Problem) :
  Text.Unbroken p.toDiagnostic.message ↔ Text.Unbroken p.code
  := by
  have opening : Text.Unbroken " [" := by decide
  have closing : Text.Unbroken "]" := by decide
  rw [toDiagnostic, Text.unbroken_append, Text.unbroken_append, Text.unbroken_append,
    unbroken_shortCode]
  simp only [unbroken_singleLine, opening, closing, true_and, and_true]

namespace Command

/-! ### Lines -/

/-- What the line for a diagnostic says. -/
def FileReport.entry (path : Path) (d : Diagnostic) : String :=
  path.toText ++ ":" ++ toString (d.start.line + 1) ++ ":" ++ toString d.start.character
    ++ ": " ++ d.message

/-- What the lines for the diagnostics of a template say. -/
def FileReport.entries (r : FileReport) : List String := r.diagnostics.map (entry r.path)

/-- What the line for the totals of reports says. -/
def totals (reports : List FileReport) : String :=
  counted (tally reports).toInt "problem" ++ " in " ++ counted reports.length "file"

/-- The report of a template with problems. -/
def FileReport.ofProblems (path : Path) (problems : List Problem) : FileReport :=
  ⟨path, problems.map Problem.toDiagnostic⟩

theorem FileReport.unbroken_entry {path : Path} {d : Diagnostic} :
  Text.Unbroken (entry path d) ↔ Text.Unbroken path.toText ∧ Text.Unbroken d.message
  := by
  have line : Text.Unbroken (toString (d.start.line + 1)) := Text.unbroken_toString _
  have character : Text.Unbroken (toString d.start.character) := Text.unbroken_toString _
  have colon : Text.Unbroken ":" := by decide
  have last : Text.Unbroken ": " := by decide
  simp only [entry, Text.unbroken_append, line, character, colon, last, and_true]

theorem unbroken_totals (reports : List FileReport) :
  Text.Unbroken (totals reports)
  := by
  have number (n : Int) : Text.Unbroken (toString n) := Text.unbroken_toString_int n
  have plural (n : Int) : Text.Unbroken (if n = 1 then "" else "s") := by
    split <;> decide
  have words : Text.Unbroken " " ∧ Text.Unbroken "problem" ∧ Text.Unbroken " in "
      ∧ Text.Unbroken "file" := by
    decide
  simp only [totals, counted, Text.unbroken_append, number, plural, words, and_true]

/-- The reports for people say something on each line. -/
theorem humanText_eq (reports : List FileReport) :
  humanText reports
    = "".intercalate ((reports.flatMap FileReport.entries ++ [totals reports]).map (· ++ "\n"))
  := by
  have ended : FileReport.lines = fun r => r.entries.map (· ++ "\n") := by
    funext r
    rw [FileReport.entries, List.map_map]
    rfl
  have last : summary reports = "".intercalate [totals reports ++ "\n"] := by
    rw [String.intercalate_singleton]
    rfl
  rw [humanText, ended, last, List.map_append, List.map_flatMap, Text.intercalate_empty_append]
  rfl

/-- The message of a diagnostic has a line break exactly if the code of its problem has one.
And in the reports for people, whose paths have none, every problem has a line of its own,
and the totals have the last one before the end, if and only if no problem has a line break
in its code. -/
theorem one_line_for_each_problem {checked : List (Path × List Problem)}
    (named : ∀ entry ∈ checked, Text.Unbroken entry.1.toText) :
  let reports := checked.map fun entry => FileReport.ofProblems entry.1 entry.2
  (∀ p : Problem, Text.Unbroken p.toDiagnostic.message ↔ Text.Unbroken p.code)
    ∧ (Text.lines (humanText reports)
        = reports.flatMap FileReport.entries ++ [totals reports] ++ [""]
      ↔ ∀ entry ∈ checked, ∀ p ∈ entry.2, Text.Unbroken p.code)
  := by
  intro reports
  use Problem.unbroken_message
  rw [humanText_eq, Text.lines_join]
  constructor
  · intro unbroken entry present p problem
    apply p.unbroken_message.mp
    have said := unbroken (FileReport.entry entry.1 p.toDiagnostic) (by
      apply List.mem_append_left
      apply List.mem_flatMap.mpr
      use FileReport.ofProblems entry.1 entry.2, List.mem_map_of_mem present
      apply List.mem_map_of_mem
      apply List.mem_map_of_mem problem)
    apply (FileReport.unbroken_entry.mp said).2
  · intro unbroken said present
    rcases List.mem_append.mp present with present | present
    · obtain ⟨_, report, present⟩ := List.mem_flatMap.mp present
      obtain ⟨entry, here, rfl⟩ := List.mem_map.mp report
      obtain ⟨_, diagnostic, rfl⟩ := List.mem_map.mp present
      obtain ⟨p, problem, rfl⟩ := List.mem_map.mp diagnostic
      apply FileReport.unbroken_entry.mpr
      use named entry here
      apply p.unbroken_message.mpr
      apply unbroken entry here p problem
    · rw [List.mem_singleton.mp present]
      apply unbroken_totals

/-! ### Problems with line breaks -/

namespace Multiline

/-- Two templates, one of them with problems whose messages have line breaks. -/
def checked : List (Path × List Problem) :=
  [(.ofText "/w/a.pug", [⟨3, 4, "PUG:LINT_A", .text "first\nsecond\r\n"⟩,
      ⟨0, 7, "", .parts ["Unexpected\r", "token"]⟩]),
    (.ofText "/w/b.pug", [])]

/-- A problem whose code has a line break. -/
def split : Problem := ⟨1, 0, "A\nB", .text "x"⟩

end Multiline

theorem one_line_for_each_multiline :
  (∀ entry ∈ Multiline.checked, Text.Unbroken entry.1.toText)
    ∧ Text.lines (humanText (Multiline.checked.map fun entry =>
        FileReport.ofProblems entry.1 entry.2))
      = ["/w/a.pug:3:4: firstsecond [A]", "/w/a.pug:1:7: Unexpected token []",
        "2 problems in 2 files", ""]
  := by
  have named : ∀ entry ∈ Multiline.checked, Text.Unbroken entry.1.toText := by decide +kernel
  have codes : ∀ entry ∈ Multiline.checked, ∀ p ∈ entry.2, Text.Unbroken p.code := by
    decide +kernel
  use named
  rw [(one_line_for_each_problem named).2.mpr codes]
  decide +kernel

/-- A line break in a code is in the message too, and the report of one problem has a second
line. -/
theorem broken_code_breaks_message :
  ¬ (∀ p : Problem, Text.Unbroken p.toDiagnostic.message)
    ∧ Multiline.split.toDiagnostic.message = "x [A\nB]"
    ∧ Text.lines (humanText [FileReport.ofProblems (.ofText "/w/a.pug") [Multiline.split]])
      = ["/w/a.pug:1:0: x [A", "B]", "1 problem in 1 file", ""]
  := by
  have message : Multiline.split.toDiagnostic.message = "x [A\nB]" := by decide +kernel
  refine ⟨?_, message, by decide +kernel⟩
  intro unbroken
  have broken : ¬ Text.Unbroken "x [A\nB]" := by decide
  apply broken
  rw [← message]
  apply unbroken

end Command

end TemplateLint
