import TemplateLint.Proofs.Command.Checks
import TemplateLint.Proofs.Document.Store
import TemplateLint.Proofs.Uri.Files

/-!
# Agreement of the front ends

A template can be checked on the command line or in an editor, and the configuration that
applies to it can be shown without a check.  All three resolve the configuration for the
same directory in the same way, and both checks give the same diagnostics.
-/

namespace TemplateLint

/-- Running a program changes its result as the program would. -/
@[simp] theorem Program.run_map (answer : Answering) (f : α → β) (p : Program α) :
  (f <$> p).run answer = f (p.run answer)
  := by
  rw [map_eq_pure_bind, run_bind, run_pure]

namespace Command

variable {answer : Answering}

/-! ### Files and directories -/

theorem run_absolute {path target : Path} (h : answer (.canonical path) = .ok target) :
  (absolute path).run answer = .ok target
  := by
  rw [absolute, Program.run_bind, Program.run_request, h]
  rfl

theorem run_workspaceRoot {path target : Path} (h : answer (.canonical path) = .ok target)
    (c : Context) :
  (c.workspaceRoot (some path)).run answer = .ok target
  := by
  simp [Context.workspaceRoot, run_absolute h, Except.mapError]

/-- A file that is named by itself is collected by itself. -/
theorem run_collect_file {file : Path} {executable : Bool}
    (path : answer (.canonical file) = .ok file)
    (status : answer (.status file) = .ok ⟨.file, executable⟩) :
  (collect [file]).run answer = .ok [file]
  := by
  have whole : (templatesOf file).run answer = [file] := by
    simp [templatesOf, run_isFile status]
  have gathered : (gather [file]).run answer = .ok [file] := by
    simp [gather, run_absolute path, whole]
  simp [collect, gathered, Except.map, sorted, dropRepeats]

/-- A report is about the template that was checked. -/
theorem path_of_checked {check : Checker} {resolver : Resolver} {workspace file : Path}
    {report : FileReport}
    (h : (verdict answer check resolver workspace file).report? = some report) :
  report.path = file
  := by
  rw [verdict] at h
  cases read : (readText file).run answer with
  | error fault =>
    rw [read] at h
    cases h
  | ok text =>
    rw [read] at h
    dsimp only at h
    split at h
    · rw [← Option.some.inj h]
    · cases h

end Command

namespace Session

/-! ### Sessions -/

variable {answer : Answering} {setup : Setup}

/-- A session that finds the linter is ready. -/
theorem run_startUp_found (s : Session) {request : StartRequest} {root : Path}
    {package : Package} {checker : Checker}
    (asked : workspaceRoot setup.locator.environment.cwd request = root)
    (located : (setup.locator.locate Package.linterName root).run answer = some package)
    (loaded : (setup.load package).run answer = .ok checker) :
  (startUp setup request).run (Job.calmHost answer) s
    = (.running, { (s.requested setup request).addEngine checker with phase := .ready },
        [.loading package])
  := by
  subst asked
  simp [run_startUp, lookFor, activate, Job.run_bind, Job.calmHost, located, loaded]

/-- A template that is validated first in its directory is checked with the options that
files give for the directory, and its diagnostics are published. -/
theorem run_validateDocument_new {s : Session} {document : Document} {engine : Nat}
    {e : Engine} {problems : List Problem} (linter : s.linter = some engine)
    (present : s.engines[engine]? = some e) (settings : s.settings = Settings.default)
    (held : s.documents.get? document.uri = some document) (template : document.isTemplate)
    (new : s.cache.get? (s.directory document) = none)
    (checked : (e.check (s.resolution setup answer (s.directory document)).options
      document.text document.checkPath).run answer = .ok problems) :
  ((validateDocument setup document).run (Job.calmHost answer) s).2.2
    = let resolution := s.resolution setup answer (s.directory document)
      warned resolution ++ [.checking resolution.options document.text document.checkPath,
        .published document.uri (problems.map Problem.toDiagnostic) document.version]
  := by
  have inline : s.settings.inlineOptions = none := by
    rw [settings]
    rfl
  have enabled : s.settings.enable = true := by
    rw [settings]
    rfl
  have resolve := run_optionsFor_new (Job.calmHost answer) setup document inline new
  simp only [show (Job.calmHost answer).answer = answer from rfl] at resolve
  generalize s.resolution setup answer (s.directory document) = resolution at resolve checked
  let kept : Session :=
    { s with
      linter := some engine
      cache := s.cache.insert (s.directory document) resolution.options }
  have current : kept.documents.isCurrent document := Store.isCurrent_of_get? held
  have check := Validation.run_one answer (s := kept) present document resolution.options
  simp only [checked, current, Validation.outcome, if_true, Except.map, Validation.announced,
    kept] at check
  simp [validateDocument, Job.run_bind, linter, enabled, template, resolve, Validation.single,
    check]

/-- The first template of a directory that is opened is checked with the options that files
give for the directory, and its diagnostics are published. -/
theorem run_didOpen_new {s : Session} {document : Document} {engine : Nat} {e : Engine}
    {problems : List Problem} (linter : s.linter = some engine)
    (present : s.engines[engine]? = some e) (settings : s.settings = Settings.default)
    (template : document.isTemplate) (new : s.cache.get? (s.directory document) = none)
    (checked : (e.check (s.resolution setup answer (s.directory document)).options
      document.text document.checkPath).run answer = .ok problems) :
  ((didOpen setup document).run (Job.calmHost answer) s).2.2
    = let resolution := s.resolution setup answer (s.directory document)
      warned resolution ++ [.checking resolution.options document.text document.checkPath,
        .published document.uri (problems.map Problem.toDiagnostic) document.version]
  := by
  let opened : Session := { s with documents := s.documents.insert document }
  have held : opened.documents.get? document.uri = some document := by
    simp [opened, Store.get?_insert]
  have mode : s.settings.run = .onType := by
    rw [settings]
    rfl
  have validated := run_validateDocument_new (s := opened) linter present settings held
    template new checked
  simp only [didOpen, validateOn, Job.run_bind, Job.run_update, Job.run_read, mode, if_true,
    List.nil_append]
  apply validated

end Session

namespace Command

/-- The resolution for a template of a workspace. -/
def Context.resolution (c : Context) (answer : Answering) (workspace file : Path) :
    Resolution :=
  ((c.resolver.run answer).resolve workspace (file.parent?.getD workspace) none).run answer

/-- A template can be checked in a workspace: both are written without links, the linter is
found and loaded from the workspace, and its check of the text finds problems. -/
structure Checkable (c : Context) (answer : Answering) (workspace file : Path)
    (text : String) (package : Package) (checker : Checker) (problems : List Problem) :
    Prop where
  workspacePath : answer (.canonical workspace) = .ok workspace
  filePath : answer (.canonical file) = .ok file
  status : ∃ executable, answer (.status file) = .ok ⟨.file, executable⟩
  readable : (readText file).run answer = .ok text
  template : Template.isPath file
  located : (c.locator.locate Package.linterName workspace).run answer = some package
  loaded : (c.load package).run answer = .ok checker
  checked : (checker (c.resolution answer workspace file).options text file).run answer
    = .ok problems

namespace Checkable

variable {c : Context} {answer : Answering} {workspace file : Path} {text : String}
  {package : Package} {checker : Checker} {problems : List Problem}

/-- The command that shows a configuration shows the resolution for the template. -/
theorem run_showConfig (h : Checkable c answer workspace file text package checker problems) :
  (showConfig c (some file) (some workspace)).run answer
    = shown (c.resolution answer workspace file)
  := by
  obtain ⟨executable, status⟩ := h.status
  simp [showConfig, showFor, run_workspaceRoot h.workspacePath, run_absolute h.filePath,
    directoryFor, run_isDirectory status, Context.resolution]

/-- The command that checks templates gets as far as the checks. -/
theorem reaches (h : Checkable c answer workspace file text package checker problems)
    {paths files : List Path} (collected : (collect paths).run answer = .ok files) :
  Reaches c answer paths (some workspace) workspace checker files
  := by
  constructor
  case rooted => apply run_workspaceRoot h.workspacePath
  case loaded => exact ⟨package, h.located, h.loaded⟩
  case collected => apply collected

/-- The template is checked, and its report consists of its diagnostics. -/
theorem verdict_eq (h : Checkable c answer workspace file text package checker problems) :
  verdict answer checker (c.resolver.run answer) workspace file
    = .checked ⟨file, problems.map Problem.toDiagnostic⟩
  := by
  have checked := h.checked
  rw [Context.resolution] at checked
  simp [verdict, h.readable, checked]

/-- The command that checks the template reports its diagnostics and no failure. -/
theorem run_check (h : Checkable c answer workspace file text package checker problems)
    (format : Format) :
  (check c [file] (some workspace) format).run answer
    = finish format ⟨[⟨file, problems.map Problem.toDiagnostic⟩], ""⟩
  := by
  obtain ⟨executable, status⟩ := h.status
  have reaches := h.reaches (run_collect_file h.filePath status)
  rw [reaches.run_check_readable format]
  · simp [reportsOf, complaintsOf, h.verdict_eq, Verdict.report?, Verdict.complaint?]
  · simp [h.verdict_eq, Verdict.isReadable]

/-- The command that checks templates which can all be read ends with their reports. -/
theorem run_check_among (h : Checkable c answer workspace file text package checker problems)
    (format : Format) {paths files : List Path}
    (collected : (collect paths).run answer = .ok files)
    (readable : ∀ file ∈ files, ∃ text, (readText file).run answer = .ok text) :
  ∃ failures, (check c paths (some workspace) format).run answer
    = finish format
      ⟨reportsOf (verdict answer checker (c.resolver.run answer) workspace) files, failures⟩
  := by
  refine ⟨_, (h.reaches collected).run_check_readable format ?_⟩
  intro other present
  obtain ⟨text, read⟩ := readable other present
  apply isReadable_verdict read

theorem run_setup (c : Context) (answer : Answering) :
  c.setup.run answer = ⟨c.locator, c.load, c.resolver.run answer⟩
  := by
  simp [Context.setup]

/-- A session that starts in the workspace is ready. -/
theorem run_startUp (h : Checkable c answer workspace file text package checker problems)
    {root : Uri} (located : root.filePath? = some workspace) {request : StartRequest}
    (named : request.rootUri = some root)
    (defaults : ∀ value ∈ request.options, Settings.ofValue value = Settings.default) :
  (Session.startUp (c.setup.run answer) request).run (Job.calmHost answer) Session.start
    = (.running, ⟨.ready, [⟨checker, Options.empty, false⟩], some 0, some workspace,
        Settings.default, [], Store.empty⟩, [.loading package])
  := by
  have asked : Session.workspaceRoot c.locator.environment.cwd request = workspace := by
    simp [Session.workspaceRoot, named, located]
  have settings : (request.options.map Settings.ofValue).getD Settings.default
      = Settings.default := by
    cases options : request.options with
    | none => rfl
    | some value => exact defaults value options
  have found : (Session.startUp ⟨c.locator, c.load, c.resolver.run answer⟩ request).run
      (Job.calmHost answer) Session.start = _ :=
    Session.run_startUp_found Session.start asked h.located h.loaded
  rw [run_setup, found]
  simp [Session.requested, Session.addEngine, Session.start, settings, asked]

/-- A resolution can be shown unless the path of its source is no text. -/
theorem isSome_shown (r : Resolution) :
  (shown r).isSome ↔ ∀ path, r.source.path? = some path → path.text?.isSome
  := by
  rw [shown, Option.isSome_map, resolutionValue?, Option.isSome_map, Source.toValue?]
  cases r.source.path? <;> simp

/-- The paths of a small workspace. -/
def sampleFiles : List (String × String) :=
  [("/w/node_modules/pug-lint/package.json", "\x7b\"name\": \"pug-lint\"\x7d"),
    ("/w/node_modules/pug-lint/lib/linter.js", ""), ("/w/package.json",
      "\x7b\"pugLintConfig\": \x7b\"requireStrictEqualityOperators\": true\x7d\x7d"),
    ("/w/a.pug", "p")]

/-- What the linter writes. -/
def sampleOutput : String :=
  "[\x7b\"line\": 1, \"column\": 2, \"code\": \"PUG:LINT_A\", \"msg\": \"no\"\x7d]"

/-- The answers in the workspace, where node always writes the same. -/
def sampleAnswer : Answering
  | .status path =>
    if (sampleFiles.lookup path.toText).isSome then .ok ⟨.file, false⟩ else .error .notFound
  | .read path =>
    match sampleFiles.lookup path.toText with
    | some text => .ok (Text.encode text)
    | none => .error .notFound
  | .canonical path => .ok path
  | .names _ => .error .notFound
  | .outline _ => .error .notFound
  | .invoke _ => .ok ⟨some 0, Text.encode sampleOutput, []⟩

/-- The workspace. -/
def sampleWorkspace : Path := Path.ofText "/w"

/-- A template in the workspace. -/
def sampleFile : Path := Path.ofText "/w/a.pug"

/-- A URI of a file. -/
def sampleUri (path : String) : Uri := ⟨"file", some ⟨"", "", none⟩, path, none, none⟩

/-- The problem that the linter writes. -/
def sampleProblem : Problem := ⟨1, 2, "PUG:LINT_A", .text "no"⟩

/-- A command in the workspace. -/
def sampleContext : Context :=
  ⟨⟨.ok sampleWorkspace, none, none, none, none⟩, some (Path.ofText "/n"), false⟩

/-- The linter in the workspace. -/
def samplePackage : Package := ⟨Path.ofText "/w/node_modules/pug-lint", .project⟩

/-- The template in the workspace can be checked. -/
theorem sample_checkable :
  Checkable sampleContext sampleAnswer sampleWorkspace sampleFile "p" samplePackage
    (Bridge.check samplePackage ⟨Path.ofText "/n"⟩) [sampleProblem]
  := by
  constructor
  · rfl
  · rfl
  · use false
    decide +kernel
  · decide +kernel
  · decide +kernel
  · decide +kernel
  · rfl
  · decide +kernel

end Checkable

end Command
end TemplateLint
