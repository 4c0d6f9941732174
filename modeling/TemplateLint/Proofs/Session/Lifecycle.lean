import TemplateLint.Proofs.Session.Conversation
import TemplateLint.Proofs.Session.Validation
import TemplateLint.Server.Serve

/-!
# The life of a session

How the phase of a session changes from message to message, and when it has a linter.  A
session may be asked to start as long as it was not started yet, or when the linter was
missing the last time.  Between messages a session has a linter if and only if it is ready,
and it stays ready from then on.  A session that waits for the linter becomes ready when a
manifest changes and the linter is found; one for which it was missing has to be started
again.
-/

namespace TemplateLint

/-! ### Jobs that keep the phase -/

namespace Job

variable {answer : Answering}

/-- Whether a job that runs alone leaves a state that continues the one before it. -/
def Steady (answer : Answering) (t : Job α) : Prop :=
  ∀ s : Session, s.Continues (t.run (calmHost answer) s).2.1

theorem Steady.bind {t : Job α} {next : α → Job β} (steady : t.Steady answer)
    (rest : ∀ a, (next a).Steady answer) :
  (t >>= next).Steady answer
  := by
  intro s
  rw [run_bind]
  apply (steady s).trans
  apply rest

theorem steady_pure (a : α) :
  (pure a : Job α).Steady answer
  := Session.Continues.refl

theorem steady_read (part : Session → α) :
  (read part).Steady answer
  := Session.Continues.refl

theorem steady_say (event : Event) :
  (say event).Steady answer
  := Session.Continues.refl

theorem steady_forEach_say (xs : List α) (event : α → Event) :
  (forEach xs fun x => say (event x)).Steady answer
  := by
  intro s
  rw [run_forEach_say]
  apply Session.Continues.refl

end Job

namespace Validation

variable {answer : Answering}

theorem steady_one (engine : Nat) (document : Document) (options : Options) :
  (one engine document options).Steady answer
  := by
  intro s
  rw [run_one_any]
  apply Session.Continues.used

theorem steady_single (engine : Nat) (document : Document) (options : Options) :
  (single engine document options).Steady answer
  := by
  apply (steady_one engine document options).bind
  rintro (failure | diagnostics)
  · apply Job.steady_say
  · apply Job.steady_pure

theorem steady_through (engine : Nat) (batch : List (Document × Options)) (report : Report) :
  (through engine batch report).Steady answer
  := by
  induction batch generalizing report with
  | nil => apply Job.steady_pure
  | cons entry rest ih =>
    apply (steady_one engine entry.1 entry.2).bind
    rintro (failure | diagnostics)
    · apply ih
    · apply ih

theorem steady_all (engine : Nat) (batch : List (Document × Options)) :
  (all engine batch).Steady answer
  := by
  apply (steady_through engine batch .empty).bind
  intro report
  have send : report.send.Steady answer := by
    rw [Report.send]
    split
    · apply Job.steady_pure
    · apply Job.steady_say
  apply send.bind
  intro _
  apply Job.steady_pure

end Validation

namespace Session

variable {answer : Answering} (setup : Setup)

theorem steady_optionsFor (document : Document) :
  (optionsFor setup document).Steady answer
  := by
  intro s
  cases editor : s.settings.inlineOptions with
  | some inline =>
    rw [run_optionsFor_inline _ setup document editor]
    apply Continues.refl
  | none =>
    cases kept : s.cache.get? (s.directory document) with
    | some options =>
      rw [run_optionsFor_kept _ setup document editor kept]
      apply Continues.refl
    | none =>
      rw [run_optionsFor_new _ setup document editor kept]
      dsimp only
      rw [Cache.insert_new kept]
      apply Continues.kept

theorem steady_batchOf (documents : List Document) :
  (batchOf setup documents).Steady answer
  := by
  induction documents with
  | nil => apply Job.steady_pure
  | cons document rest ih =>
    rw [batchOf]
    split
    · apply (steady_optionsFor setup document).bind
      intro options
      apply ih.bind
      intro batch
      apply Job.steady_pure
    · apply ih

theorem steady_validateDocument (document : Document) :
  (validateDocument setup document).Steady answer
  := by
  apply (Job.steady_read _).bind
  rintro (_ | engine)
  · apply Job.steady_pure
  · apply (Job.steady_read _).bind
    intro settings
    split
    · apply (steady_optionsFor setup document).bind
      intro options
      apply Validation.steady_single
    · apply Job.steady_pure

theorem steady_validateOpen :
  (validateOpen setup).Steady answer
  := by
  apply (Job.steady_read _).bind
  rintro (_ | engine)
  · apply Job.steady_pure
  · apply (Job.steady_read _).bind
    intro settings
    split
    · apply (Job.steady_read _).bind
      intro documents
      apply (steady_batchOf setup documents).bind
      intro batch
      apply (Validation.steady_all engine batch).bind
      intro report
      apply Job.steady_pure
    · apply Job.steady_pure

theorem steady_validateOn (mode : RunMode) (document : Document) :
  (validateOn mode setup document).Steady answer
  := by
  apply (Job.steady_read _).bind
  intro settings
  split
  · apply steady_validateDocument
  · apply Job.steady_pure

theorem steady_clearOpen :
  clearOpen.Steady answer
  := by
  apply (Job.steady_read _).bind
  intro documents
  apply Job.steady_forEach_say

end Session

/-! ### Looking for the linter -/

/-- What looking for the linter comes to: it is absent, it fails to load, or it is
loaded. -/
inductive Attempt where
  | absent
  | failed (package : Package) (failure : Failure)
  | loaded (package : Package) (check : Checker)

/-- The attempt to load the linter for a root. -/
def Setup.attempt (setup : Setup) (answer : Answering) (root : Path) : Attempt :=
  match (setup.locator.locate Package.linterName root).run answer with
  | none => .absent
  | some package =>
    match (setup.load package).run answer with
    | .error failure => .failed package failure
    | .ok check => .loaded package check

/-- The linter is loaded if it is located and loads. -/
theorem Setup.attempt_eq_loaded {setup : Setup} {answer : Answering} {root : Path}
    {package : Package} {check : Checker} :
  setup.attempt answer root = .loaded package check
    ↔ (setup.locator.locate Package.linterName root).run answer = some package
      ∧ (setup.load package).run answer = .ok check
  := by
  rw [attempt]
  cases (setup.locator.locate Package.linterName root).run answer with
  | none => simp
  | some other =>
    dsimp only
    constructor
    · intro loaded
      cases outcome : (setup.load other).run answer with
      | error failure =>
        rw [outcome] at loaded
        cases loaded
      | ok found =>
        rw [outcome] at loaded
        obtain ⟨rfl, rfl⟩ := Attempt.loaded.inj loaded
        exact ⟨rfl, outcome⟩
    · rintro ⟨same, loaded⟩
      obtain rfl := Option.some.inj same
      rw [loaded]

namespace Session

variable (setup : Setup) (answer : Answering) (root : Path) (s : Session)

theorem run_activate_eq :
  (activate setup root).run (Job.calmHost answer) s
    = match setup.attempt answer root with
      | .absent => (.ok false, s, [])
      | .failed package failure => (.error failure, s, [.loading package])
      | .loaded package check =>
        (.ok true, { s.addEngine check with phase := .ready }, [.loading package])
  := by
  rw [Setup.attempt]
  cases found : (setup.locator.locate Package.linterName root).run answer with
  | none => simp [activate, Job.run_bind, Job.calmHost, found]
  | some package =>
    cases loaded : (setup.load package).run answer with
    | error failure => simp [activate, Job.run_bind, Job.calmHost, found, loaded]
    | ok check => simp [activate, Job.run_bind, Job.calmHost, found, loaded]

theorem run_lookFor_eq :
  (lookFor setup root).run (Job.calmHost answer) s
    = match setup.attempt answer root with
      | .absent =>
        if (Package.hasConfig root).run answer then
          (.packageMissing, { s with phase := .unavailable }, [])
        else (.running, { s with phase := .awaitingPackage }, [])
      | .failed package failure =>
        (.running, { s with phase := .awaitingPackage },
          [.loading package, .logged .error ("Failed to load pug-lint: " ++ failure.message)])
      | .loaded package check =>
        (.running, { s.addEngine check with phase := .ready }, [.loading package])
  := by
  rw [lookFor, Job.run_bind, run_activate_eq]
  cases setup.attempt answer root with
  | absent =>
    cases configured : (Package.hasConfig root).run answer with
    | true => simp [Job.run_bind, Job.calmHost, configured]
    | false => simp [Job.run_bind, Job.calmHost, configured]
  | failed package failure => simp [Job.run_bind]
  | loaded package check => simp

end Session

/-! ### Turns -/

/-- The error that answers the request to start a session, if there is one. -/
def Started.error? : Started → Option Server.Error
  | running => none
  | packageMissing => some Server.packageMissing

/-- A server answers the request to start with that error, and may be asked again then. -/
theorem Server.run_start (host : Job.Host) (s : Session) (setup : Setup) {call : Server.Call}
    {request : StartRequest} (asked : call.id.isSome)
    (decoded : Server.decodeParams Server.startRequest call = .ok request) :
  let begun := (Session.startUp setup request).run host s
  (Server.start setup .created call).run host s
    = match begun.1.error? with
      | none => ((.started, Server.answer call (.ok Server.description)), begun.2)
      | some error => ((.created, Server.answer call (.error error)), begun.2)
  := by
  have present : call.id.isNone = false := by simpa using asked
  rw [Server.start, if_neg (by simp), if_neg (by simp [present]), decoded]
  dsimp only
  rw [Job.run_bind]
  generalize (Session.startUp setup request).run host s = begun
  obtain ⟨outcome, next, events⟩ := begun
  cases outcome with
  | running => simp [Started.error?]
  | packageMissing => simp [Started.error?]

namespace History

/-- The outcome of the start of a session, if a turn asks for one. -/
def started? (setup : Setup) (h : History) (t : Turn) : Option Started :=
  match t.message with
  | .start request =>
    some ((Session.startUp setup request).run (Job.calmHost t.answer) h.session).1
  | _ => none

/-- Whether a session may be asked to start after a turn, given whether it may be before:
once it was asked, it may be asked again if it answered with an error. -/
def mayStart (setup : Setup) (free : Bool) (h : History) (t : Turn) : Bool :=
  match h.started? setup t with
  | none => free
  | some outcome => outcome.error?.isSome

/-- Whether a session is asked to start in turns only when it may be. -/
def Regular (setup : Setup) : Bool → History → List Turn → Prop
  | _, _, [] => True
  | free, h, t :: rest =>
    (t.message.isStart = true → free = true)
      ∧ Regular setup (h.mayStart setup free t) (h.turn setup t) rest

instance Regular.decidable (setup : Setup) :
    (free : Bool) → (h : History) → (turns : List Turn) → Decidable (Regular setup free h turns)
  | _, _, [] => inferInstanceAs (Decidable True)
  | free, h, t :: rest =>
    have := Regular.decidable setup (h.mayStart setup free t) (h.turn setup t) rest
    inferInstanceAs (Decidable (_ ∧ _))

/-- The root for which a turn looks for the linter, if it does. -/
def sought? (setup : Setup) (h : History) (t : Turn) : Option Path :=
  match t.message with
  | .start request => some (Session.workspaceRoot setup.locator.environment.cwd request)
  | .files uris =>
    if h.session.phase = .awaitingPackage
        ∧ Package.manifestName ∈ uris.filterMap Uri.lastSegment? then
      h.session.root
    else none
  | _ => none

variable {setup : Setup} {h : History}

theorem mayStart_follow {free : Bool} {t : Turn} (later : t.message.isStart = false) :
  h.mayStart setup free t = free
  := by
  obtain ⟨answer, message⟩ := t
  cases message with
  | start request => cases later
  | _ => rfl

/-- A session that was started looks for the linter when a manifest is changed. -/
theorem files_of_sought {t : Turn} {root : Path} (later : t.message.isStart = false)
    (sought : h.sought? setup t = some root) :
  ∃ uris, t.message = .files uris ∧ h.session.phase = .awaitingPackage
    ∧ Package.manifestName ∈ uris.filterMap Uri.lastSegment? ∧ h.session.root = some root
  := by
  rw [sought?] at sought
  split at sought
  · rename_i asked
    rw [asked] at later
    cases later
  · rename_i uris asked
    rw [Option.ite_none_right_eq_some] at sought
    obtain ⟨⟨awaiting, named⟩, rooted⟩ := sought
    exact ⟨uris, asked, awaiting, named, rooted⟩
  · cases sought

/-- Whether a state has the phase, the linter and the root of another one. -/
structure Stays (s next : Session) : Prop where
  phase : next.phase = s.phase
  linter : next.linter = s.linter
  root : next.root = s.root

theorem Stays.refl (s : Session) :
  Stays s s
  := ⟨rfl, rfl, rfl⟩

/-- Steady jobs leave the phase, the linter and the root as they are. -/
theorem Stays.run {s : Session} (stays : Stays s h.session) {job : Job α}
    (steady : job.Steady h.answer) :
  Stays s (h.run job).session
  := by
  have continues := steady h.session
  constructor
  · exact continues.phase.trans stays.phase
  · exact continues.linter.trans stays.linter
  · exact continues.root.trans stays.root

theorem contains_configNames (uris : List Uri) :
  (Session.configNames uris).contains Package.manifestName = true
    ↔ Package.manifestName ∈ uris.filterMap Uri.lastSegment?
  := by
  simp [Session.configNames, ConfigFile.isName]

/-- A session with a root that looks for the linter again validates all open documents if it
is loaded. -/
theorem run_retry {root : Path} (rooted : h.session.root = some root) :
  h.run (Session.retry setup)
    = match setup.attempt h.answer root with
      | .absent => h
      | .failed package _ => { h with events := h.events ++ [.loading package] }
      | .loaded package check =>
        History.run ⟨h.answer, { h.session.addEngine check with phase := .ready },
          h.events ++ [.loading package,
            .logged .info "pug-lint found; validating open documents"]⟩
          (Session.validateOpen setup)
  := by
  rw [Session.retry, run_read_bind, rooted]
  dsimp only
  have activated := Session.run_activate_eq setup h.answer root h.session
  rw [run_bind, activated]
  cases attempt : setup.attempt h.answer root with
  | absent =>
    rw [attempt] at activated
    simp [run_eq h activated]
  | failed package failure =>
    rw [attempt] at activated
    simp [run_eq h activated]
  | loaded package check =>
    rw [attempt] at activated
    simp [run_eq h activated]

/-- A request to start a session is looking for the linter. -/
theorem turn_start (setup : Setup) (h : History) (answer : Answering) (request : StartRequest) :
  let root := Session.workspaceRoot setup.locator.environment.cwd request
  let looked := (Session.lookFor setup root).run (Job.calmHost answer)
    (h.session.requested setup request)
  h.turn setup ⟨answer, .start request⟩ = ⟨answer, looked.2.1, h.events ++ looked.2.2⟩
    ∧ h.started? setup ⟨answer, .start request⟩ = some looked.1
  := by
  intro root looked
  have started := Session.run_startUp (Job.calmHost answer) h.session setup request
  constructor
  · rw [turn, Message.job, run_bind, run_pure, History.run]
    dsimp only
    rw [started]
  · rw [started?]
    dsimp only
    rw [started]

/-- Looking for the linter again is without effect on these if it is not loaded. -/
theorem Stays.retry {s : Session} (stays : Stays s h.session)
    (unloaded : ∀ root package check, h.session.root = some root →
      setup.attempt h.answer root ≠ .loaded package check) :
  Stays s (h.run (Session.retry setup)).session
  := by
  cases rooted : h.session.root with
  | none =>
    rw [Session.retry, run_read_bind, rooted]
    apply stays
  | some root =>
    rw [run_retry rooted]
    cases attempt : setup.attempt h.answer root with
    | absent => apply stays
    | failed package failure => apply stays
    | loaded package check => cases unloaded root package check rooted attempt

/-- A turn leaves the phase, the linter and the root as they are, unless it starts the
session or loads the linter. -/
theorem stays_turn {t : Turn} (later : t.message.isStart = false)
    (unloaded : ∀ root package check, h.sought? setup t = some root →
      setup.attempt t.answer root ≠ .loaded package check) :
  Stays h.session (h.turn setup t).session
  := by
  obtain ⟨answer, message⟩ := t
  rw [turn]
  cases message with
  | start request => cases later
  | opened document =>
    rw [Message.job, Session.didOpen, run_update_bind]
    apply Stays.run
    · exact ⟨rfl, rfl, rfl⟩
    · apply Session.steady_validateOn
  | changed uri version texts =>
    rw [Message.job, Session.didChange]
    cases texts.getLast? with
    | none => apply Stays.refl
    | some text =>
      dsimp only
      rw [run_updateDocument_bind]
      apply Stays.run
      · exact ⟨rfl, rfl, rfl⟩
      · split
        · apply Job.steady_pure
        · apply Session.steady_validateOn
  | saved uri text =>
    dsimp only [Message.job, Session.didSave]
    cases text with
    | none =>
      simp only [run_read_bind]
      apply Stays.run
      · exact ⟨rfl, rfl, rfl⟩
      · split
        · apply Job.steady_pure
        · apply Session.steady_validateOn
    | some text =>
      simp only [run_updateDocument_bind]
      apply Stays.run
      · exact ⟨rfl, rfl, rfl⟩
      · split
        · apply Job.steady_pure
        · apply Session.steady_validateOn
  | closed uri => exact ⟨rfl, rfl, rfl⟩
  | settings value =>
    rw [Message.job, Session.didChangeSettings, run_update_bind, run_read_bind]
    apply Stays.run
    · exact ⟨rfl, rfl, rfl⟩
    · split
      · split
        · apply Session.steady_validateOpen
        · apply Session.steady_clearOpen
      · apply Job.steady_pure
  | files uris =>
    rw [Message.job, Session.didChangeFiles]
    split
    · apply Stays.refl
    rw [run_update_bind, run_read_bind]
    have cleared : Stays h.session { h.session with cache := [] } := ⟨rfl, rfl, rfl⟩
    split
    · apply Stays.run
      · apply cleared
      · apply Session.steady_validateOpen
    · rename_i awaiting
      split
      · rename_i named
        apply Stays.retry
        · apply cleared
        · intro root package check rooted
          apply unloaded
          rw [contains_configNames] at named
          simpa [sought?, named] using And.intro awaiting rooted
      · apply cleared
    · apply cleared

/-- A session that finds the linter is ready, and has it. -/
theorem stays_retry {root : Path} {package : Package} {check : Checker}
    (rooted : h.session.root = some root)
    (loaded : setup.attempt h.answer root = .loaded package check) :
  Stays { h.session.addEngine check with phase := .ready }
    (h.run (Session.retry setup)).session
  := by
  rw [run_retry rooted, loaded]
  apply Stays.run
  · apply Stays.refl
  · apply Session.steady_validateOpen

/-- A waiting session is ready after a turn that names a manifest if the linter is loaded. -/
theorem stays_turn_loaded {answer : Answering} {uris : List Uri} {root : Path}
    {package : Package} {check : Checker} (awaiting : h.session.phase = .awaitingPackage)
    (named : Package.manifestName ∈ uris.filterMap Uri.lastSegment?)
    (rooted : h.session.root = some root)
    (loaded : setup.attempt answer root = .loaded package check) :
  Stays { h.session.addEngine check with phase := .ready }
    (h.turn setup ⟨answer, .files uris⟩).session
  := by
  have contains := (contains_configNames uris).2 named
  have names : Session.configNames uris ≠ [] := by
    intro none
    rw [none] at contains
    cases contains
  rw [turn, Message.job, Session.didChangeFiles, if_neg names, run_update_bind, run_read_bind]
  dsimp only
  rw [awaiting]
  dsimp only
  rw [if_pos contains, ← awaiting]
  have stays := stays_retry (h := ⟨answer, { h.session with cache := [] }, h.events⟩)
    rooted loaded
  exact ⟨stays.phase, stays.linter, stays.root⟩

/-! ### The phases -/

/-- How a turn changes the phase of a session, and how the request to start one is
answered. -/
structure Advances (setup : Setup) (h : History) (t : Turn) : Prop where
  ready : h.session.phase = .ready → (h.turn setup t).session.phase = .ready
  awaiting : h.session.phase = .awaitingPackage →
    (h.turn setup t).session.phase = .awaitingPackage
      ∨ (h.turn setup t).session.phase = .ready
        ∧ ∃ uris root package check, t.message = .files uris
          ∧ Package.manifestName ∈ uris.filterMap Uri.lastSegment?
          ∧ h.session.root = some root
          ∧ setup.attempt t.answer root = .loaded package check
  unavailable : h.session.phase = .unavailable →
    (h.turn setup t).session.phase = .unavailable ∨ t.message.isStart = true
  refused : ∀ request, t.message = .start request →
    let root := Session.workspaceRoot setup.locator.environment.cwd request
    (((h.started? setup t).bind Started.error?).map Server.Error.code = some 99
        ↔ (h.turn setup t).session.phase = .unavailable)
      ∧ ((h.turn setup t).session.phase = .unavailable
        ↔ (setup.locator.locate Package.linterName root).run t.answer = none
          ∧ (Package.hasConfig root).run t.answer = true)

/-- What holds of a session between messages, given whether it may be asked to start. -/
structure Balanced (free : Bool) (s : Session) : Prop where
  filled : s.linter ≠ none ↔ s.phase = .ready
  idle : free = true → s.phase = .uninitialized ∨ s.phase = .unavailable

theorem Balanced.stays {free : Bool} {s next : Session} (balanced : Balanced free s)
    (stays : Stays s next) :
  Balanced free next
  := by
  constructor
  · rw [stays.linter, stays.phase]
    apply balanced.filled
  · rw [stays.phase]
    apply balanced.idle

theorem balanced_initial :
  Balanced true Session.start
  := ⟨by simp [Session.start], by simp [Session.start]⟩

/-- A session that was loaded. -/
theorem balanced_ready {s next : Session} {check : Checker}
    (stays : Stays { s.addEngine check with phase := .ready } next) :
  Balanced false next
  := by
  constructor
  · rw [stays.linter, stays.phase]
    simp [Session.addEngine]
  · rintro ⟨⟩

theorem attempt_eq_absent {answer : Answering} {root : Path} :
  setup.attempt answer root = .absent
    ↔ (setup.locator.locate Package.linterName root).run answer = none
  := by
  rw [Setup.attempt]
  cases (setup.locator.locate Package.linterName root).run answer with
  | none => simp
  | some package =>
    dsimp only
    split
    · simp
    · simp

theorem error_code (outcome : Started) :
  outcome.error?.map Server.Error.code = some 99 ↔ outcome = .packageMissing
  := by
  cases outcome with
  | running => simp [Started.error?]
  | packageMissing => simp [Started.error?, Server.packageMissing, Session.packageMissingCode]

/-- What comes of a request to start a session that has no linter. -/
structure Begins (setup : Setup) (answer : Answering) (root : Path) (outcome : Started)
    (next : Session) : Prop where
  balanced : Balanced outcome.error?.isSome next
  missing : outcome = .packageMissing ↔ next.phase = .unavailable
  unavailable : next.phase = .unavailable
    ↔ setup.attempt answer root = .absent ∧ (Package.hasConfig root).run answer = true

theorem begins_lookFor (setup : Setup) (answer : Answering) (root : Path) {s : Session}
    (unfilled : s.linter = none) :
  let looked := (Session.lookFor setup root).run (Job.calmHost answer) s
  Begins setup answer root looked.1 looked.2.1
  := by
  rw [Session.run_lookFor_eq]
  cases attempt : setup.attempt answer root with
  | absent =>
    dsimp only
    split
    · rename_i configured
      exact ⟨⟨by simp [unfilled], by simp⟩, by simp, by simp [attempt, configured]⟩
    · rename_i configured
      exact ⟨⟨by simp [unfilled], by simp [Started.error?]⟩, by simp, by simp [configured]⟩
  | failed package failure =>
    exact ⟨⟨by simp [unfilled], by simp [Started.error?]⟩, by simp, by simp [attempt]⟩
  | loaded package check =>
    exact ⟨balanced_ready (Stays.refl _), by simp, by simp [attempt]⟩

theorem advances_start {answer : Answering} {request : StartRequest}
    (balanced : Balanced true h.session) :
  h.Advances setup ⟨answer, .start request⟩
    ∧ Balanced (h.mayStart setup true ⟨answer, .start request⟩)
      (h.turn setup ⟨answer, .start request⟩).session
  := by
  have idle := balanced.idle rfl
  have unfilled : h.session.linter = none := by
    by_contra filled
    have ready := balanced.filled.1 filled
    simp [ready] at idle
  obtain ⟨turned, started⟩ := turn_start setup h answer request
  have begins := begins_lookFor setup answer
    (Session.workspaceRoot setup.locator.environment.cwd request)
    (s := h.session.requested setup request) unfilled
  refine ⟨⟨?ready, ?awaiting, ?unavailable, ?refused⟩, ?balanced⟩
  case ready =>
    intro ready
    simp [ready] at idle
  case awaiting =>
    intro awaiting
    simp [awaiting] at idle
  case unavailable =>
    intro _
    right
    rfl
  case refused =>
    rintro _ ⟨⟩
    constructor
    · rw [started, turned, Option.bind_some, error_code]
      apply begins.missing
    · rw [turned, ← attempt_eq_absent]
      apply begins.unavailable
  case balanced =>
    rw [turned, mayStart, started]
    apply begins.balanced

theorem advances_of_stays {t : Turn} (later : t.message.isStart = false)
    (stays : Stays h.session (h.turn setup t).session) :
  h.Advances setup t
  := by
  refine ⟨?ready, ?awaiting, ?unavailable, ?refused⟩
  case ready => apply stays.phase.trans
  case awaiting =>
    intro awaiting
    left
    apply stays.phase.trans awaiting
  case unavailable =>
    intro unavailable
    left
    apply stays.phase.trans unavailable
  case refused =>
    intro request asked
    rw [asked] at later
    cases later

theorem advances_of_loaded {answer : Answering} {uris : List Uri} {root : Path}
    {package : Package} {check : Checker} (awaiting : h.session.phase = .awaitingPackage)
    (named : Package.manifestName ∈ uris.filterMap Uri.lastSegment?)
    (rooted : h.session.root = some root)
    (loaded : setup.attempt answer root = .loaded package check) :
  h.Advances setup ⟨answer, .files uris⟩
  := by
  have stays := stays_turn_loaded awaiting named rooted loaded
  refine ⟨?ready, ?awaiting, ?unavailable, ?refused⟩
  case ready =>
    intro _
    apply stays.phase
  case awaiting =>
    intro _
    right
    exact ⟨stays.phase, uris, root, package, check, rfl, named, rooted, loaded⟩
  case unavailable =>
    rw [awaiting]
    rintro ⟨⟩
  case refused => rintro _ ⟨⟩

theorem advances_follow {free : Bool} {t : Turn} (balanced : Balanced free h.session)
    (later : t.message.isStart = false) :
  h.Advances setup t ∧ Balanced free (h.turn setup t).session
  := by
  by_cases found : ∃ root package check, h.sought? setup t = some root
      ∧ setup.attempt t.answer root = .loaded package check
  · obtain ⟨root, package, check, sought, loaded⟩ := found
    obtain ⟨uris, asked, awaiting, named, rooted⟩ := files_of_sought later sought
    obtain ⟨answer, message⟩ := t
    cases asked
    constructor
    · apply advances_of_loaded awaiting named rooted loaded
    · cases free with
      | false => apply balanced_ready (stays_turn_loaded awaiting named rooted loaded)
      | true =>
        have idle := balanced.idle rfl
        simp [awaiting] at idle
  · have stays : Stays h.session (h.turn setup t).session := by
      apply stays_turn later
      intro root package check sought loaded
      apply found
      exact ⟨root, package, check, sought, loaded⟩
    constructor
    · apply advances_of_stays later stays
    · apply balanced.stays stays

/-- A turn leaves a balanced session balanced, if it asks it to start only when it may. -/
theorem advances_turn {free : Bool} {t : Turn} (balanced : Balanced free h.session)
    (allowed : t.message.isStart = true → free = true) :
  h.Advances setup t ∧ Balanced (h.mayStart setup free t) (h.turn setup t).session
  := by
  cases starts : t.message.isStart with
  | false =>
    rw [mayStart_follow starts]
    apply advances_follow balanced starts
  | true =>
    obtain ⟨answer, message⟩ := t
    cases message with
    | start request =>
      obtain rfl := allowed starts
      apply advances_start balanced
    | _ => cases starts

/-- A session is balanced after regular turns, and what follows them is regular. -/
theorem balanced_after {free : Bool} {earlier later : List Turn}
    (balanced : Balanced free h.session) (regular : Regular setup free h (earlier ++ later)) :
  ∃ free, Balanced free (h.after setup earlier).session
    ∧ Regular setup free (h.after setup earlier) later
  := by
  induction earlier generalizing free h with
  | nil => exact ⟨free, balanced, regular⟩
  | cons t rest ih =>
    obtain ⟨allowed, regular⟩ := regular
    apply ih _ regular
    apply (advances_turn balanced allowed).2

/-- In every session that is asked to start only when it may be, there is a linter between
messages if and only if the session is ready; it stays ready then; a session that waits
for the linter goes on waiting until files are changed, a manifest is among them, and the
linter is found; one that the linter was missing for stays so until it is asked to start
again; and the request to start is refused if and only if it leaves the session without
the linter that the workspace is configured for. -/
theorem advances_of_regular {answer : Answering} {turns : List Turn}
    (regular : Regular setup true (ofSession answer Session.start) turns) :
  let after turns := (ofSession answer Session.start).after setup turns
  (∀ earlier, earlier <+: turns →
      ((after earlier).session.linter ≠ none ↔ (after earlier).session.phase = .ready))
    ∧ ∀ earlier t later, turns = earlier ++ t :: later → (after earlier).Advances setup t
  := by
  intro after
  constructor
  · rintro earlier ⟨later, rfl⟩
    obtain ⟨free, balanced, _⟩ := balanced_after balanced_initial regular
    apply balanced.filled
  · rintro earlier t later rfl
    obtain ⟨free, balanced, allowed, _⟩ := balanced_after balanced_initial regular
    apply (advances_turn balanced allowed).1

end History

/-! ### A workspace in which the linter is installed late -/

namespace Sample

/-- The answers in the small workspace while the linter is not installed, given the names of
its files. -/
def uninstalled (names : List String) : Answering
  | .status _ => .error .notFound
  | .read _ => .error .notFound
  | .names _ => .ok (names.map Text.encode)
  | request => answer none request

/-- The linter is missing, then nobody asks for it any more, and then it is installed. -/
def lateTurns : List Turn :=
  [⟨uninstalled [".pug-lintrc"], .start (startIn "/w")⟩,
    ⟨uninstalled [".pug-lintrc"], .opened document⟩,
    ⟨uninstalled [], .start (startIn "/w")⟩,
    ⟨uninstalled [], .files [manifestUri]⟩,
    ⟨answer none, .files [manifestUri]⟩,
    ⟨uninstalled [], .closed document.uri⟩]

end Sample

namespace History

/-- The phases after each of the turns, and what lets the session leave the phase in which
it waits. -/
theorem advances_in_lateTurns :
  Regular Sample.setup true (ofSession (Sample.answer none) Session.start) Sample.lateTurns
    ∧ Sample.lateTurns.inits.map (fun earlier =>
        ((ofSession (Sample.answer none) Session.start).after Sample.setup earlier).session.phase)
      = [.uninitialized, .unavailable, .unavailable, .awaitingPackage, .awaitingPackage, .ready,
        .ready]
    ∧ ((ofSession (Sample.answer none) Session.start).after Sample.setup
        (Sample.lateTurns.take 4)).Advances Sample.setup
        ⟨Sample.answer none, .files [Sample.manifestUri]⟩
  := by
  have regular : Regular Sample.setup true (ofSession (Sample.answer none) Session.start)
      Sample.lateTurns := by
    decide +kernel
  refine ⟨regular, by decide +kernel, ?_⟩
  apply (advances_of_regular regular).2
  rfl

end History

end TemplateLint
