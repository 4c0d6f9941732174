import Mathlib.Tactic.Use
import TemplateLint.Proofs.Session.Publication
import TemplateLint.Session.Handlers
import TemplateLint.Session.Pool

/-!
# Runs of jobs

What the jobs of a session come to when they run alone: their results, the states that
they leave and the events on the way, function by function.
-/

namespace TemplateLint

/-- A way to answer requests. -/
abbrev Answering : Type := (r : Request) → r.Answer

namespace Job

/-- A job that is followed by nothing is that job. -/
theorem bind_done (t : Job α) :
  t.bind done = t
  := by
  induction t with
  | done => rfl
  | change update next ih => rw [bind, ih]
  | take engine next ih => rw [bind, ih]
  | tell event next ih => rw [bind, ih]
  | _ => simp_all [bind]

/-- A sequence comes to what its parts come to one after the other. -/
theorem run_bind_of {host : Host} {t : Job α} {next : α → Job β} {s₀ s₁ s₂ : Session}
    {a : α} {b : β} {first second : List Event} (h : t.run host s₀ = (a, s₁, first))
    (h' : (next a).run host s₁ = (b, s₂, second)) :
  (t >>= next).run host s₀ = (b, s₂, first ++ second)
  := by
  simp [run_bind, h, h']

variable (host : Host) (s : Session)

@[simp] theorem run_pure (a : α) :
  (pure a : Job α).run host s = (a, s, [])
  := rfl

@[simp] theorem run_done (a : α) :
  (done a : Job α).run host s = (a, s, [])
  := rfl

@[simp] theorem run_read (part : Session → α) :
  (read part).run host s = (part s, s, [])
  := rfl

@[simp] theorem run_update (f : Session → Session) :
  (update f).run host s = ((), f s, [])
  := rfl

@[simp] theorem run_say (event : Event) :
  (say event).run host s = ((), s, [event])
  := rfl

@[simp] theorem run_await (p : Program α) :
  (await p).run host s = (p.run host.answer, s, [])
  := by
  induction p with
  | done a => rfl
  | ask request next ih => apply ih

@[simp] theorem run_immediately (p : Program α) :
  (immediately p).run host s = (p.run host.answer, s, [])
  := by
  induction p with
  | done a => rfl
  | ask request next ih => apply ih

@[simp] theorem run_forEach_say (xs : List α) (event : α → Event) :
  (forEach xs fun x => say (event x)).run host s = ((), s, xs.map event)
  := by
  induction xs with
  | nil => rfl
  | cons x xs ih =>
    rw [forEach]
    apply run_bind_of (run_say host s (event x)) ih

end Job

namespace Session

/-! ### Engines -/

/-- The state after an engine was taken, configured and given back. -/
def used (s : Session) (engine : Nat) (options : Options) : Session :=
  ((s.take engine).configure engine options).giveBack engine

theorem engines_changeEngine (s : Session) (engine : Nat) (change : Engine → Engine) :
  (s.changeEngine engine change).engines[engine]? = s.engines[engine]?.map change
  := by
  simp [changeEngine]

theorem used_eq (s : Session) (engine : Nat) (options : Options) :
  s.used engine options
    = s.changeEngine engine fun e => { e with options := options, taken := false }
  := by
  simp [used, take, configure, giveBack, changeEngine, List.modify_modify_eq,
    Function.comp_def]

/-! ### Starting -/

/-- The state of a session that was asked to start, before the linter is looked for. -/
def requested (setup : Setup) (request : StartRequest) (s : Session) : Session :=
  { s with
    root := some (workspaceRoot setup.locator.environment.cwd request)
    settings := (request.options.map Settings.ofValue).getD s.settings }

/-- The part of starting a session in which the linter is looked for. -/
def lookFor (setup : Setup) (root : Path) : Job Started := do
  match ← activate setup root with
  | .ok true => return .running
  | .ok false =>
    if ← Job.immediately (Package.hasConfig root) then
      Job.update fun s => { s with phase := .unavailable }
      return .packageMissing
    else
      Job.update fun s => { s with phase := .awaitingPackage }
      return .running
  | .error failure =>
    Job.say (.logged .error ("Failed to load pug-lint: " ++ failure.message))
    Job.update fun s => { s with phase := .awaitingPackage }
    return .running

/-- The job that takes the settings of the editor over, if it tells any. -/
def takeSettings : Option Json.Value → Job Unit
  | some value => Job.update fun s => { s with settings := Settings.ofValue value }
  | none => Job.done ()

/-- Starting a session is looking for the linter once the root and the settings are
taken over. -/
theorem startUp_eq (setup : Setup) (request : StartRequest) :
  startUp setup request
    = (do
      Job.update fun s =>
        { s with root := some (workspaceRoot setup.locator.environment.cwd request) }
      takeSettings request.options
      lookFor setup (workspaceRoot setup.locator.environment.cwd request))
  := by
  obtain ⟨rootUri, rootPath, folders, options⟩ := request
  cases options with
  | none => rfl
  | some value => rfl

/-- Starting a session is looking for the linter in the state that was asked for. -/
theorem run_startUp (host : Job.Host) (s : Session) (setup : Setup)
    (request : StartRequest) :
  (startUp setup request).run host s
    = (lookFor setup (workspaceRoot setup.locator.environment.cwd request)).run host
        (s.requested setup request)
  := by
  rw [startUp_eq]
  cases options : request.options with
  | none => simp [Job.run_bind, takeSettings, requested, options]
  | some value => simp [Job.run_bind, takeSettings, requested, options]

/-- An attempt to load the linter either puts a loaded one in its place or changes
nothing. -/
theorem run_activate (setup : Setup) (root : Path) (s : Session) (answer : Answering) :
  ∃ result next events,
    (activate setup root).run (Job.calmHost answer) s = (result, next, events)
      ∧ (∀ event ∈ events, event.isNote)
      ∧ ((result = .ok true ∧ ∃ package check,
            (setup.load package).run answer = .ok check
              ∧ next = { s.addEngine check with phase := .ready })
          ∨ (result ≠ .ok true ∧ next = s))
  := by
  cases found : (setup.locator.locate Package.linterName root).run answer with
  | none =>
    refine ⟨.ok false, s, [], ?_, ?_, ?_⟩
    · simp [activate, Job.run_bind, Job.calmHost, found]
    · simp
    · simp
  | some package =>
    cases loaded : (setup.load package).run answer with
    | error failure =>
      refine ⟨.error failure, s, [.loading package], ?_, ?_, ?_⟩
      · simp [activate, Job.run_bind, Job.calmHost, found, loaded]
      · simp [Event.isNote]
      · simp
    | ok check =>
      refine ⟨.ok true, { s.addEngine check with phase := .ready }, [.loading package],
        ?_, ?_, ?_⟩
      · simp [activate, Job.run_bind, Job.calmHost, found, loaded]
      · simp [Event.isNote]
      · left
        use rfl, package, check, loaded

/-- Looking for the linter puts a loaded one in its place, or changes nothing but the
phase. -/
theorem run_lookFor (setup : Setup) (root : Path) (s : Session) (answer : Answering) :
  ∃ result next events,
    (lookFor setup root).run (Job.calmHost answer) s = (result, next, events)
      ∧ (∀ event ∈ events, event.isNote)
      ∧ ((result = .running ∧ ∃ package check,
            (setup.load package).run answer = .ok check
              ∧ next = { s.addEngine check with phase := .ready })
          ∨ (result = .running ∧ next = { s with phase := .awaitingPackage })
          ∨ (result = .packageMissing ∧ next = { s with phase := .unavailable }))
  := by
  obtain ⟨result, next, events, run, notes, outcome⟩ := run_activate setup root s answer
  rw [lookFor, Job.run_bind, run]
  rcases outcome with ⟨rfl, package, check, loaded, rfl⟩ | ⟨failed, rfl⟩
  · refine ⟨.running, _, events, ?_, notes, .inl ⟨rfl, package, check, loaded, rfl⟩⟩
    simp
  · rcases result with failure | _ | _
    · refine ⟨.running, { next with phase := .awaitingPackage }, events ++ [.logged .error
        ("Failed to load pug-lint: " ++ failure.message)], ?_, ?_, .inr (.inl ⟨rfl, rfl⟩)⟩
      · simp [Job.run_bind]
      · simp only [List.mem_append, List.mem_singleton]
        rintro event (present | rfl)
        · apply notes event present
        · rfl
    · cases configured : (Package.hasConfig root).run answer with
      | true =>
        refine ⟨.packageMissing, { next with phase := .unavailable }, events, ?_, notes,
          .inr (.inr ⟨rfl, rfl⟩)⟩
        simp [Job.run_bind, Job.calmHost, configured]
      | false =>
        refine ⟨.running, { next with phase := .awaitingPackage }, events, ?_, notes,
          .inr (.inl ⟨rfl, rfl⟩)⟩
        simp [Job.run_bind, Job.calmHost, configured]
    · cases failed rfl

/-! ### Options -/

/-- What is shown of a resolution. -/
def warned (resolution : Resolution) : List Event :=
  resolution.warnings.map fun failure => .shown .warning (warningMessage failure)

theorem mute_warned (resolution : Resolution) :
  ∀ event ∈ warned resolution, event.isMute
  := by
  intro event present
  obtain ⟨failure, _, rfl⟩ := List.mem_map.mp present
  rfl

/-- The resolution for the documents of a directory in a state. -/
def resolution (setup : Setup) (answer : Answering) (s : Session) (directory : Path) :
    Resolution :=
  (setup.resolver.resolve (s.root.getD Path.here) directory s.settings.inlineOptions).run answer

/-- The directory that decides on the options of a document in a state. -/
def directory (s : Session) (document : Document) : Path :=
  directoryOf (s.root.getD Path.here) document

theorem run_resolveOptions (host : Job.Host) (s : Session) (setup : Setup)
    (root directory : Path) (inline : Option Options) :
  (resolveOptions setup root directory inline).run host s
    = let resolution := (setup.resolver.resolve root directory inline).run host.answer
      (resolution.options, s, warned resolution)
  := by
  simp [resolveOptions, Job.run_bind, warned]

/-- Options of the editor are resolved anew for each document. -/
theorem run_optionsFor_inline (host : Job.Host) {s : Session} (setup : Setup)
    (document : Document) {inline : Options}
    (h : s.settings.inlineOptions = some inline) :
  (optionsFor setup document).run host s
    = let resolution := s.resolution setup host.answer (s.directory document)
      (resolution.options, s, warned resolution)
  := by
  simp [optionsFor, Job.run_bind, h, run_resolveOptions, resolution, directory]

/-- Options that are kept are taken as they are. -/
theorem run_optionsFor_kept (host : Job.Host) {s : Session} (setup : Setup)
    (document : Document) {options : Options} (h : s.settings.inlineOptions = none)
    (kept : s.cache.get? (s.directory document) = some options) :
  (optionsFor setup document).run host s = (options, s, [])
  := by
  rw [directory] at kept
  simp [optionsFor, Job.run_bind, h, kept]

/-- Options that are not kept yet are resolved and kept. -/
theorem run_optionsFor_new (host : Job.Host) {s : Session} (setup : Setup)
    (document : Document) (h : s.settings.inlineOptions = none)
    (new : s.cache.get? (s.directory document) = none) :
  (optionsFor setup document).run host s
    = let resolution := s.resolution setup host.answer (s.directory document)
      (resolution.options,
        { s with cache := s.cache.insert (s.directory document) resolution.options },
        warned resolution)
  := by
  rw [directory] at new
  simp [optionsFor, Job.run_bind, h, new, run_resolveOptions, resolution, directory]

end Session

/-! ### Validation -/

namespace Validation

/-- The outcome of a check: the diagnostics of its problems or its failure, or nothing if
the document is not current any more. -/
def outcome (current : Bool) (problems : Except Failure (List Problem)) :
    Except Failure (Option (List Diagnostic)) :=
  if current then problems.map fun problems => some (problems.map Problem.toDiagnostic)
  else .ok none

/-- What is published of an outcome. -/
def announced (document : Document) : Except Failure (Option (List Diagnostic)) → List Event
  | .ok (some diagnostics) => [.published document.uri diagnostics document.version]
  | _ => []

/-- A validation asks for one check and publishes the outcome. -/
theorem run_one_any (answer : Answering) (s : Session) (engine : Nat) (document : Document)
    (options : Options) :
  (one engine document options).run (Job.calmHost answer) s
    = let check := Job.checkBy ((s.take engine).configure engine options) engine
        document.text document.checkPath
      let result := outcome (s.documents.isCurrent document) (check.2.run answer)
      (result, s.used engine options,
        .checking check.1 document.text document.checkPath :: announced document result)
  := by
  simp only [one, Job.run, Job.calmHost, outcome]
  have stored : (s.used engine options).documents = s.documents := rfl
  rw [Session.used] at stored
  cases current : s.documents.isCurrent document with
  | false => simp [stored, current, announced, Session.used]
  | true =>
    rcases (Job.checkBy ((s.take engine).configure engine options) engine document.text
      document.checkPath).2.run answer with failure | problems <;>
      simp [stored, current, announced, Session.used, Job.run, Except.map]

/-- An engine checks with the options that the validation is given. -/
theorem run_one (answer : Answering) {s : Session} {engine : Nat} {e : Engine}
    (present : s.engines[engine]? = some e) (document : Document) (options : Options) :
  (one engine document options).run (Job.calmHost answer) s
    = let problems := (e.check options document.text document.checkPath).run answer
      let result := outcome (s.documents.isCurrent document) problems
      (result, s.used engine options,
        .checking options document.text document.checkPath :: announced document result)
  := by
  have check : Job.checkBy ((s.take engine).configure engine options) engine document.text
      document.checkPath
      = (options, e.check options document.text document.checkPath) := by
    simp [Job.checkBy, Session.take, Session.configure, Session.engines_changeEngine, present]
  rw [run_one_any, check]

end Validation

end TemplateLint
