import TemplateLint.Proofs.Command.FrontEnds
import TemplateLint.Proofs.Command.Order

/-!
# What failures take with them

The end of the command that checks templates, by what becomes of each of the collected
templates.  A check that fails takes nothing from the others: all reports are written, in the
order of the templates.  The first template that cannot be read ends the command, however,
and no report is written, not even of the templates before it.  Nor is any report written as
JSON if the path of one is no text.  The exit code tells whether all templates are checked and
their reports written, and then whether there is a problem.
-/

namespace TemplateLint

namespace Command

/-! ### The exit code -/

namespace Verdict

/-- Whether a template is checked. -/
def isChecked : Verdict → Bool
  | checked _ => true
  | _ => false

/-- Whether a template is checked with a problem. -/
def hasProblem : Verdict → Bool
  | checked report => !report.diagnostics.isEmpty
  | _ => false

/-- The exit code that verdicts ask for. -/
def exitCode (verdicts : List Verdict) : Nat :=
  if verdicts.all isChecked then if verdicts.any hasProblem then 1 else 0 else 2

theorem exitCode_of_mem {v : Verdict} {verdicts : List Verdict} (h : v.isChecked = false)
    (present : v ∈ verdicts) :
  exitCode verdicts = 2
  := by
  rw [exitCode, if_neg]
  intro checked
  rw [List.all_eq_true.mp checked v present] at h
  cases h

end Verdict

theorem problemCount_append (reports others : List FileReport) :
  problemCount (reports ++ others) = problemCount reports + problemCount others
  := by
  induction reports with
  | nil => simp [problemCount]
  | cons report rest ih => rw [List.cons_append, problemCount, ih, problemCount, Nat.add_assoc]

theorem Verdict.hasProblem_iff (v : Verdict) :
  v.hasProblem ↔ 0 < problemCount v.report?.toList
  := by
  cases v <;> simp [hasProblem, report?, problemCount, List.length_pos_iff]

theorem Verdict.isChecked_iff {v : Verdict} (readable : v.isReadable) (file : Path) :
  v.isChecked ↔ (v.complaint? file).getD "" = ""
  := by
  cases v with
  | checked report => simp [isChecked, complaint?]
  | failed failure => simp [isChecked, complaint?]
  | unreadable fault => cases readable

/-- There is a problem among reports exactly if a template is checked with a problem. -/
theorem problemCount_reportsOf (verdictOf : Path → Verdict) (files : List Path) :
  0 < problemCount (reportsOf verdictOf files) ↔ (files.map verdictOf).any Verdict.hasProblem
  := by
  induction files with
  | nil => simp [reportsOf, problemCount]
  | cons file rest ih =>
    rw [reportsOf_cons, problemCount_append, Nat.add_pos_iff_pos_or_pos, ih,
      ← Verdict.hasProblem_iff, List.map_cons, List.any_cons, Bool.or_eq_true]

/-- Nothing is written about templates that are all read exactly if all are checked. -/
theorem complaintsOf_eq_empty {verdictOf : Path → Verdict} {files : List Path}
    (readable : ∀ file ∈ files, (verdictOf file).isReadable) :
  complaintsOf verdictOf files = "" ↔ (files.map verdictOf).all Verdict.isChecked
  := by
  induction files with
  | nil => simp [complaintsOf]
  | cons file rest ih =>
    obtain ⟨first, readable⟩ := List.forall_mem_cons.mp readable
    rw [complaintsOf_cons, String.append_eq_empty_iff, ih readable,
      ← Verdict.isChecked_iff first, List.map_cons, List.all_cons, Bool.and_eq_true]

/-- The exit code after checks of templates that are all read is what the verdicts ask for. -/
theorem exitCode_eq {verdictOf : Path → Verdict} {files : List Path}
    (readable : ∀ file ∈ files, (verdictOf file).isReadable) :
  exitCode ⟨reportsOf verdictOf files, complaintsOf verdictOf files⟩
    = Verdict.exitCode (files.map verdictOf)
  := by
  have failures := complaintsOf_eq_empty readable
  have problems := problemCount_reportsOf verdictOf files
  rw [exitCode, Verdict.exitCode]
  by_cases checked : (files.map verdictOf).all Verdict.isChecked
  · rw [if_neg (not_not.mpr (failures.mpr checked)), if_pos checked]
    exact if_congr problems rfl rfl
  · rw [if_pos (mt failures.mp checked), if_neg checked]

/-! ### The command -/

namespace Reaches

variable {c : Context} {answer : Answering} {paths : List Path} {workspace : Option Path}
  {root : Path} {checker : Checker} {files : List Path}

/-- The templates come in order, each one once. -/
theorem ascending (h : Reaches c answer paths workspace root checker files) :
  files.Pairwise fun p q => p.compare q = .lt
  := by
  have collected := h.collected
  rw [collect, Program.run_bind] at collected
  cases gathered : (gather (if paths = [] then [Path.here] else paths)).run answer with
  | error invalid =>
    rw [gathered] at collected
    cases collected
  | ok found =>
    rw [gathered] at collected
    obtain rfl : sorted found = files := Except.ok.inj collected
    apply ascending_sorted

/-- The exit code is what the verdicts ask for, unless the reports cannot be written. -/
theorem code_run_check (h : Reaches c answer paths workspace root checker files)
    (format : Format) :
  let verdictOf := verdict answer checker (c.resolver.run answer) root
  ((check c paths workspace format).run answer).code
    = if (render format (reportsOf verdictOf files)).isSome then
        Verdict.exitCode (files.map verdictOf)
      else 2
  := by
  intro verdictOf
  cases first : files.find? fun file => !(verdictOf file).isReadable with
  | none =>
    have readable : ∀ file ∈ files, (verdictOf file).isReadable := by
      intro file present
      simpa using List.find?_eq_none.mp first file present
    rw [h.run_check_readable format readable]
    cases written : render format (reportsOf verdictOf files) with
    | none =>
      rw [finish_unwritten written]
      rfl
    | some text =>
      rw [finish_written written, exitCode_eq readable]
      rfl
  | some file =>
    obtain ⟨unread, before, after, split, readable⟩ := List.find?_eq_some_iff_append.mp first
    obtain ⟨fault, found⟩ := Verdict.exists_of_not_isReadable unread
    have unchecked : (verdictOf file).isChecked = false := by
      rw [found]
      rfl
    have present : verdictOf file ∈ files.map verdictOf :=
      List.mem_map_of_mem (List.mem_of_find?_eq_some first)
    rw [h.run_check_unreadable format split (by simpa using readable) found,
      Verdict.exitCode_of_mem unchecked present, ite_self]
    rfl

/-- The command ends by the verdicts on the templates, which come in order, each one once.
The exit code tells whether all templates are checked and the reports written, and then
whether there is a problem.  If all templates can be read, the reports of those whose checks
succeed are written, whatever the other checks fail with, unless they are to be written as JSON
and the path of one is no text; then no report is written.  Nor is any if a template cannot be
read. -/
theorem check_ends_by_verdicts (h : Reaches c answer paths workspace root checker files)
    (format : Format) :
  let verdictOf := verdict answer checker (c.resolver.run answer) root
  let reports := reportsOf verdictOf files
  let output := (check c paths workspace format).run answer
  (files.Pairwise fun p q => p.compare q = .lt)
    ∧ ((render format reports).isSome ↔ (format = .json → ∀ r ∈ reports, r.path.text?.isSome))
    ∧ output.code = (if (render format reports).isSome then
        if (files.map verdictOf).all Verdict.isChecked then
          if (files.map verdictOf).any Verdict.hasProblem then 1 else 0
        else 2
      else 2)
    ∧ ((∀ file ∈ files, (verdictOf file).isReadable) →
        (∀ text, render format reports = some text →
          output.out = text ∧ output.err = complaintsOf verdictOf files)
        ∧ (render format reports = none →
          output.out = "" ∧ output.err = complaintsOf verdictOf files ++ "error: "
            ++ GivenUp.unwritable.message ++ "\n"))
    ∧ ∀ before file after fault, files = before ++ file :: after →
        (∀ earlier ∈ before, (verdictOf earlier).isReadable) →
        verdictOf file = .unreadable fault →
        output.out = "" ∧ output.err = complaintsOf verdictOf before ++ "error: "
          ++ (GivenUp.unreadable file fault).message ++ "\n"
  := by
  intro verdictOf reports output
  refine ⟨h.ascending, isSome_render format reports, h.code_run_check format, ?readable,
    ?unreadable⟩
  case readable =>
    intro readable
    have ran : output = _ := h.run_check_readable format readable
    rw [ran]
    constructor
    · intro text written
      rw [finish_written written]
      exact ⟨rfl, rfl⟩
    · intro unwritten
      rw [finish_unwritten unwritten]
      exact ⟨rfl, rfl⟩
  case unreadable =>
    intro before file after fault split readable found
    have ran : output = _ := h.run_check_unreadable format split readable found
    rw [ran]
    exact ⟨rfl, rfl⟩

end Reaches

/-! ### Templates of which one cannot be checked, and maybe another not read -/

namespace Mixed

open Checkable

/-- A path in the workspace. -/
def file (path : String) : Path := Path.ofText path

/-- The templates in the workspace. -/
def files : List Path := [file "/w/a.pug", file "/w/b.pug", file "/w/c/c.pug", file "/w/d.pug"]

/-- The answers in a workspace, where node fails in the directory of one template, and the
contents of another one may be no text. -/
def answer (readable : Bool) : Answering
  | .status path =>
    if path.toText = "/w/c" then .ok ⟨.directory, true⟩ else sampleAnswer (.status path)
  | .read path =>
    if path.toText = "/w/b.pug" then .ok (if readable then Text.encode "q" else [0xFF])
    else if files.contains path then .ok (Text.encode "p")
    else sampleAnswer (.read path)
  | .canonical path => .ok path
  | .names _ => .error .notFound
  | .outline _ => .ok (.directory [(Text.encode "a.pug", .file), (Text.encode "b.pug", .file),
      (Text.encode "c", .directory [(Text.encode "c.pug", .file)]), (Text.encode "d.pug", .file)])
  | .invoke i =>
    if i.directory.toText = "/w/c" then .ok ⟨some 1, [], Text.encode "cannot"⟩
    else sampleAnswer (.invoke i)

/-- The linter in the workspace. -/
def checker : Checker := Bridge.check samplePackage ⟨Path.ofText "/n"⟩

/-- The verdict on a template of the workspace. -/
def verdictOf (readable : Bool) : Path → Verdict :=
  verdict (answer readable) checker (sampleContext.resolver.run (answer readable)) sampleWorkspace

/-- The output of the command in the workspace. -/
def output (readable : Bool) : Output :=
  (check sampleContext [sampleWorkspace] (some sampleWorkspace) .human).run (answer readable)

theorem ascending_files :
  files.Pairwise fun p q => p.compare q = .lt
  := by
  decide +kernel

/-- The command gets as far as the checks. -/
theorem reaches (readable : Bool) :
  Reaches sampleContext (answer readable) [sampleWorkspace] (some sampleWorkspace)
    sampleWorkspace checker files
  := by
  constructor
  case rooted => rfl
  case loaded =>
    have entry : (isFile (Bridge.entry samplePackage)).run (answer readable) = true := by
      cases readable <;> decide +kernel
    use samplePackage
    constructor
    · cases readable <;> decide +kernel
    · simp only [Context.load, Bridge.load, Program.run_bind, entry, if_true]
      rfl
  case collected =>
    have templates : (templatesOf sampleWorkspace).run (answer readable) = files := by
      cases readable <;> decide +kernel
    have root : answer readable (.canonical sampleWorkspace) = .ok sampleWorkspace := rfl
    simp [collect, gather, run_absolute root, templates, Except.map,
      sorted_eq_self ascending_files]

/-- What the verdicts amount to if all templates can be read. -/
theorem verdicts_readable :
  (∀ file ∈ files, (verdictOf true file).isReadable)
    ∧ Verdict.exitCode (files.map (verdictOf true)) = 2
    ∧ render .human (reportsOf (verdictOf true) files) = some ("/w/a.pug:1:2: no [A]\n"
      ++ "/w/b.pug:1:2: no [A]\n/w/d.pug:1:2: no [A]\n3 problems in 3 files\n")
    ∧ complaintsOf (verdictOf true) files = "/w/c/c.pug: cannot\n"
  := by
  decide +kernel

/-- What the verdicts amount to if one template cannot be read. -/
theorem verdicts_unreadable :
  (∀ earlier ∈ [file "/w/a.pug"], (verdictOf false earlier).isReadable)
    ∧ Verdict.exitCode (files.map (verdictOf false)) = 2
    ∧ render .human (reportsOf (verdictOf false) files)
      = some "/w/a.pug:1:2: no [A]\n/w/d.pug:1:2: no [A]\n2 problems in 2 files\n"
    ∧ complaintsOf (verdictOf false) [file "/w/a.pug"] = ""
  := by
  decide +kernel

theorem unreadable :
  verdictOf false (file "/w/b.pug") = .unreadable .notText
  := by
  have read : (readText (file "/w/b.pug")).run (answer false) = .error .notText := by
    rfl
  rw [verdictOf, verdict, read]

theorem split_files :
  files = [file "/w/a.pug"] ++ file "/w/b.pug" :: [file "/w/c/c.pug", file "/w/d.pug"]
  := rfl

/-- A check that fails takes nothing from the others, but a template that is no text takes
all reports with it. -/
theorem check_ends_in_mixed :
  (output true).code = 2
    ∧ (output true).out = "/w/a.pug:1:2: no [A]\n"
      ++ "/w/b.pug:1:2: no [A]\n/w/d.pug:1:2: no [A]\n3 problems in 3 files\n"
    ∧ (output true).err = "/w/c/c.pug: cannot\n"
    ∧ (output false).code = 2
    ∧ (output false).out = ""
    ∧ (output false).err
      = "error: Failed to read /w/b.pug: stream did not contain valid UTF-8\n"
  := by
  obtain ⟨allReadable, code, text, lines⟩ := verdicts_readable
  obtain ⟨readable, code', text', lines'⟩ := verdicts_unreadable
  obtain ⟨_, _, asked, written, _⟩ := (reaches true).check_ends_by_verdicts .human
  obtain ⟨_, _, asked', _, lost⟩ := (reaches false).check_ends_by_verdicts .human
  obtain ⟨out, err⟩ := (written allReadable).1 _ text
  obtain ⟨out', err'⟩ := lost _ _ _ _ split_files readable unreadable
  have exit := asked.trans ((if_pos (Option.isSome_of_eq_some text)).trans code)
  have exit' := asked'.trans ((if_pos (Option.isSome_of_eq_some text')).trans code')
  refine ⟨exit, out, err.trans lines, exit', out', err'.trans ?_⟩
  change complaintsOf (verdictOf false) [file "/w/a.pug"] ++ _ ++ _ ++ _ = _
  rw [lines']
  decide +kernel

/-- Two templates are checked and have a problem each, but because of a template that is no
text neither of the problems is written. -/
theorem reports_lost_in_mixed :
  verdictOf false (file "/w/b.pug") = .unreadable .notText
    ∧ render .human (reportsOf (verdictOf false) files)
      = some "/w/a.pug:1:2: no [A]\n/w/d.pug:1:2: no [A]\n2 problems in 2 files\n"
    ∧ (output false).out = ""
  := by
  obtain ⟨readable, _, text, _⟩ := verdicts_unreadable
  have ran : output false = _ :=
    (reaches false).run_check_unreadable .human split_files readable unreadable
  use unreadable, text
  rw [ran]
  rfl

end Mixed

end Command
end TemplateLint
