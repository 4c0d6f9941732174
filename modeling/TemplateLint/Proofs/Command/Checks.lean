import TemplateLint.Command.Perform
import TemplateLint.Proofs.Session.Run

/-!
# Checks of templates

What becomes of a template that is collected, and what the checks of several templates
amount to.  A template whose check fails is passed over with a line about the failure; the
first template that cannot be read ends the checks.  Reports can be written for people, and as
JSON if their paths are texts.
-/

namespace TemplateLint

namespace Command

/-! ### Verdicts -/

/-- What becomes of a template: its report, the failure of its check, or the fault for which
it cannot be read. -/
inductive Verdict where
  | checked (report : FileReport)
  | failed (failure : Failure)
  | unreadable (fault : OsFault)

namespace Verdict

/-- The report of a template that is checked. -/
def report? : Verdict → Option FileReport
  | checked report => some report
  | _ => none

/-- The line about a template whose check fails. -/
def complaint? (file : Path) : Verdict → Option String
  | failed failure => some (file.toText ++ ": " ++ failure.message ++ "\n")
  | _ => none

/-- Whether a template is read, be it checked or not. -/
def isReadable : Verdict → Bool
  | unreadable _ => false
  | _ => true

theorem exists_of_not_isReadable {v : Verdict} (h : (!v.isReadable) = true) :
  ∃ fault, v = unreadable fault
  := by
  cases v with
  | unreadable fault => use fault
  | checked report => cases h
  | failed failure => cases h

end Verdict

/-- What becomes of a template in a workspace. -/
def verdict (answer : Answering) (check : Checker) (resolver : Resolver)
    (workspace file : Path) : Verdict :=
  match (readText file).run answer with
  | .error fault => .unreadable fault
  | .ok text =>
    let directory := file.parent?.getD workspace
    let resolution := (resolver.resolve workspace directory none).run answer
    match (check resolution.options text file).run answer with
    | .ok problems => .checked ⟨file, problems.map Problem.toDiagnostic⟩
    | .error failure => .failed failure

theorem isReadable_verdict {answer : Answering} {check : Checker} {resolver : Resolver}
    {workspace file : Path} {text : String} (h : (readText file).run answer = .ok text) :
  (verdict answer check resolver workspace file).isReadable
  := by
  rw [verdict, h]
  dsimp only
  split <;> rfl

/-- The reports of templates that are checked. -/
def reportsOf (verdictOf : Path → Verdict) (files : List Path) : List FileReport :=
  files.filterMap fun file => (verdictOf file).report?

/-- The lines about templates whose checks fail. -/
def complaintsOf (verdictOf : Path → Verdict) (files : List Path) : String :=
  String.join (files.filterMap fun file => (verdictOf file).complaint? file)

theorem reportsOf_cons (verdictOf : Path → Verdict) (file : Path) (rest : List Path) :
  reportsOf verdictOf (file :: rest)
    = (verdictOf file).report?.toList ++ reportsOf verdictOf rest
  := by
  rw [reportsOf, List.filterMap_cons, reportsOf]
  cases (verdictOf file).report? <;> rfl

theorem complaintsOf_cons (verdictOf : Path → Verdict) (file : Path) (rest : List Path) :
  complaintsOf verdictOf (file :: rest)
    = ((verdictOf file).complaint? file).getD "" ++ complaintsOf verdictOf rest
  := by
  rw [complaintsOf, List.filterMap_cons, complaintsOf]
  cases (verdictOf file).complaint? file with
  | none => rw [Option.getD_none, String.empty_append]
  | some line => rw [String.join_cons, Option.getD_some]

/-! ### Checks one after another -/

section Checks

variable {answer : Answering} {check : Checker} {resolver : Resolver} {workspace : Path}

/-- The checks go on past a template that is read, with its report or the line about it. -/
theorem run_checkFiles_cons {file : Path} (rest : List Path) (done : Checked)
    (readable : (verdict answer check resolver workspace file).isReadable) :
  (checkFiles check resolver workspace (file :: rest) done).run answer
    = let v := verdict answer check resolver workspace file
      (checkFiles check resolver workspace rest ⟨done.reports ++ v.report?.toList,
        done.failures ++ (v.complaint? file).getD ""⟩).run answer
  := by
  rw [verdict] at readable ⊢
  cases read : (readText file).run answer with
  | error fault =>
    rw [read] at readable
    cases readable
  | ok text =>
    simp only [checkFiles, Program.run_bind, read]
    cases (check ((resolver.resolve workspace (file.parent?.getD workspace) none).run
        answer).options text file).run answer with
    | ok problems => simp [Verdict.report?, Verdict.complaint?]
    | error failure => simp [Verdict.report?, Verdict.complaint?]

/-- The checks end at a template that is not read, and only lines are left of those before. -/
theorem run_checkFiles_unreadable {file : Path} {fault : OsFault}
    (found : verdict answer check resolver workspace file = .unreadable fault)
    (rest : List Path) (done : Checked) :
  (checkFiles check resolver workspace (file :: rest) done).run answer
    = .error (giveUp done.failures (.unreadable file fault))
  := by
  rw [verdict] at found
  cases read : (readText file).run answer with
  | error cause =>
    rw [read] at found
    obtain rfl : cause = fault := by injection found
    simp [checkFiles, read]
  | ok text =>
    rw [read] at found
    dsimp only at found
    split at found <;> cases found

/-- The checks go on past templates that are all read. -/
theorem run_checkFiles_append {files : List Path} (rest : List Path) (done : Checked)
    (readable : ∀ file ∈ files, (verdict answer check resolver workspace file).isReadable) :
  (checkFiles check resolver workspace (files ++ rest) done).run answer
    = let verdictOf := verdict answer check resolver workspace
      (checkFiles check resolver workspace rest ⟨done.reports ++ reportsOf verdictOf files,
        done.failures ++ complaintsOf verdictOf files⟩).run answer
  := by
  induction files generalizing done with
  | nil => simp [reportsOf, complaintsOf]
  | cons file files ih =>
    obtain ⟨first, readable⟩ := List.forall_mem_cons.mp readable
    rw [List.cons_append, run_checkFiles_cons _ _ first, ih _ readable]
    simp only [reportsOf_cons, complaintsOf_cons, List.append_assoc, String.append_assoc]

end Checks

/-! ### Written forms -/

theorem isSome_mapM {f : α → Option β} (l : List α) :
  (l.mapM f).isSome ↔ ∀ a ∈ l, (f a).isSome
  := by
  induction l with
  | nil => simp
  | cons a rest ih =>
    rw [List.forall_mem_cons, ← ih, List.mapM_cons]
    cases f a with
    | none => simp
    | some b => cases rest.mapM f <;> simp

/-- Reports can be written in a form, unless that is JSON and a path is no text. -/
theorem isSome_render (format : Format) (reports : List FileReport) :
  (render format reports).isSome ↔ (format = .json → ∀ r ∈ reports, r.path.text?.isSome)
  := by
  cases format with
  | human => simp [render]
  | json => simp [render, jsonText?, isSome_mapM, FileReport.toValue?]

theorem finish_written {format : Format} {checked : Checked} {text : String}
    (written : render format checked.reports = some text) :
  finish format checked = ⟨exitCode checked, text, checked.failures⟩
  := by
  rw [finish, written]

theorem finish_unwritten {format : Format} {checked : Checked}
    (unwritten : render format checked.reports = none) :
  finish format checked = giveUp checked.failures .unwritable
  := by
  rw [finish, unwritten]

/-! ### The command -/

/-- The command that checks templates gets as far as the checks: there is a workspace, the
linter is found and loaded from it, and templates are collected. -/
structure Reaches (c : Context) (answer : Answering) (paths : List Path)
    (workspace : Option Path) (root : Path) (checker : Checker) (files : List Path) : Prop where
  rooted : (c.workspaceRoot workspace).run answer = .ok root
  loaded : ∃ package, (c.locator.locate Package.linterName root).run answer = some package
    ∧ (c.load package).run answer = .ok checker
  collected : (collect paths).run answer = .ok files

namespace Reaches

variable {c : Context} {answer : Answering} {paths : List Path} {workspace : Option Path}
  {root : Path} {checker : Checker} {files : List Path}

/-- The command ends as the checks do. -/
theorem run_check (h : Reaches c answer paths workspace root checker files) (format : Format) :
  (check c paths workspace format).run answer
    = match (checkFiles checker (c.resolver.run answer) root files ⟨[], ""⟩).run answer with
      | .error output => output
      | .ok checked => finish format checked
  := by
  obtain ⟨package, located, loaded⟩ := h.loaded
  simp only [check, Program.run_bind, h.rooted, Package.Locator.require, located,
    Program.run_pure, loaded, h.collected]
  cases (checkFiles checker (c.resolver.run answer) root files ⟨[], ""⟩).run answer <;> rfl

/-- If all templates are read, the command ends with their reports. -/
theorem run_check_readable (h : Reaches c answer paths workspace root checker files)
    (format : Format) (readable : ∀ file ∈ files,
      (verdict answer checker (c.resolver.run answer) root file).isReadable) :
  (check c paths workspace format).run answer
    = let verdictOf := verdict answer checker (c.resolver.run answer) root
      finish format ⟨reportsOf verdictOf files, complaintsOf verdictOf files⟩
  := by
  have checks := run_checkFiles_append [] ⟨[], ""⟩ readable
  rw [List.append_nil] at checks
  simp only [checkFiles, Program.run_pure, List.nil_append, String.empty_append] at checks
  rw [h.run_check, checks]

/-- At the first template that is not read, the command is given up. -/
theorem run_check_unreadable (h : Reaches c answer paths workspace root checker files)
    (format : Format) {before after : List Path} {file : Path} {fault : OsFault}
    (split : files = before ++ file :: after)
    (readable : ∀ earlier ∈ before,
      (verdict answer checker (c.resolver.run answer) root earlier).isReadable)
    (found : verdict answer checker (c.resolver.run answer) root file = .unreadable fault) :
  (check c paths workspace format).run answer
    = let verdictOf := verdict answer checker (c.resolver.run answer) root
      giveUp (complaintsOf verdictOf before) (.unreadable file fault)
  := by
  have checks := run_checkFiles_append (file :: after) ⟨[], ""⟩ readable
  rw [← split, run_checkFiles_unreadable found] at checks
  simp only [String.empty_append] at checks
  rw [h.run_check, checks]

end Reaches

end Command

end TemplateLint
