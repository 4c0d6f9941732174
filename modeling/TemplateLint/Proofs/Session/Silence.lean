import TemplateLint.Proofs.Session.Lifecycle

/-!
# Sessions without a linter

A session that never finds a linter stays out of the way: whatever is opened, changed,
saved or set, it asks for no check, waits for no file in which options may be, and shows
nothing.  It clears the diagnostics of a document that is closed, as every session does, and
it logs that the linter failed to load if that happens when it is started.
-/

namespace TemplateLint

/-- The events that tell of the loading of the linter's package. -/
def Event.isLoading : Event → Bool
  | loading _ => true
  | _ => false

/-- What is heard of events: all but the loading of the linter. -/
def Event.heard (events : List Event) : List Event := events.filter fun event => !event.isLoading

theorem Event.heard_append (first second : List Event) :
  heard (first ++ second) = heard first ++ heard second
  := List.filter_append ..

/-! ### Jobs that wait for nothing -/

namespace Job

/-- The requests for whose answers a job waits when it runs alone. -/
def awaited (host : Host) : Job α → Session → List Request
  | done _, _ => []
  | access update next, s => (next s).awaited host (update s)
  | change update next, s => next.awaited host (update s)
  | take engine next, s => next.awaited host (s.take engine)
  | check engine text path next, s =>
    let problems := (checkBy s engine text path).2.run host.answer
    (next problems).awaited host { s with documents := host.during text path s.documents }
  | ask request next, s => request :: (next (host.answer request)).awaited host s
  | probe request next, s => (next (host.answer request)).awaited host s
  | tell _ next, s => next.awaited host s

theorem awaited_bind (host : Host) (t : Job α) (next : α → Job β) (s : Session) :
  (t >>= next).awaited host s
    = t.awaited host s ++ (next (t.run host s).1).awaited host (t.run host s).2.1
  := by
  change (t.bind next).awaited host s = _
  induction t generalizing s with
  | done a => rfl
  | access update rest ih => exact ih s (update s)
  | change update rest ih => exact ih (update s)
  | take engine rest ih => exact ih (s.take engine)
  | check engine text path rest ih => simp [bind, run, awaited, ih]
  | ask request rest ih => simp [bind, run, awaited, ih]
  | probe request rest ih => exact ih (host.answer request) s
  | tell event rest ih => exact ih s

@[simp] theorem awaited_immediately (host : Host) (p : Program α) (s : Session) :
  (immediately p).awaited host s = []
  := by
  induction p with
  | done a => rfl
  | ask request next ih => apply ih

/-- Whether a job that runs alone waits for no file on its way from a state to a result,
another state and what it says. -/
structure Glides (answer : Answering) (s : Session) (t : Job α) (a : α) (next : Session)
    (events : List Event) : Prop where
  run : t.run (calmHost answer) s = (a, next, events)
  awaited : t.awaited (calmHost answer) s = []

theorem Glides.bind {answer : Answering} {s s₁ s₂ : Session} {t : Job α} {next : α → Job β}
    {a : α} {b : β} {first second : List Event} (glides : Glides answer s t a s₁ first)
    (rest : Glides answer s₁ (next a) b s₂ second) :
  Glides answer s (t >>= next) b s₂ (first ++ second)
  := by
  constructor
  · apply run_bind_of glides.run rest.run
  · rw [awaited_bind, glides.awaited, glides.run]
    apply rest.awaited

end Job

/-- Whether a session has no linter and is not ready. -/
structure Session.Unlinked (s : Session) : Prop where
  linter : s.linter = none
  phase : s.phase ≠ .ready

namespace Job

variable {answer : Answering} {s : Session} {heard : List Event}

/-- Whether a job of a session without a linter waits for no file, leaves the session
without a linter, and says only what is heard, apart from the loading of the linter. -/
def QuietBut (answer : Answering) (s : Session) (heard : List Event) (t : Job Unit) : Prop :=
  ∃ next events, Glides answer s t () next events ∧ next.Unlinked
    ∧ Event.heard events = heard

theorem quietBut_pure (unlinked : s.Unlinked) :
  (pure () : Job Unit).QuietBut answer s []
  := ⟨s, [], ⟨rfl, rfl⟩, unlinked, rfl⟩

/-- A job that accesses the shared state goes on from what it leaves. -/
theorem quietBut_access {update : Session → Session} {next : Session → Job Unit}
    (rest : (next s).QuietBut answer (update s) heard) :
  (access update next).QuietBut answer s heard
  := by
  obtain ⟨last, events, glides, unlinked, said⟩ := rest
  exact ⟨last, events, ⟨glides.run, glides.awaited⟩, unlinked, said⟩

theorem quietBut_read_bind {part : Session → α} {next : α → Job Unit}
    (rest : (next (part s)).QuietBut answer s heard) :
  (read part >>= next).QuietBut answer s heard
  := quietBut_access rest

theorem quietBut_update_bind {f : Session → Session} {next : Unit → Job Unit}
    (rest : (next ()).QuietBut answer (f s) heard) :
  (update f >>= next).QuietBut answer s heard
  := quietBut_access rest

theorem quietBut_updateDocument_bind {uri : Uri} {version : Option Int} {text : String}
    {next : Option Document → Job Unit}
    (rest : (next (s.documents.update uri version text).1).QuietBut answer
      { s with documents := (s.documents.update uri version text).2 } heard) :
  (Session.updateDocument uri version text >>= next).QuietBut answer s heard
  := quietBut_access rest

end Job

/-! ### Handlers without a linter -/

namespace Session

variable {setup : Setup} {answer : Answering} {s : Session}

theorem quietBut_validateOn (unlinked : s.Unlinked) (mode : RunMode) (document : Document) :
  (validateOn mode setup document).QuietBut answer s []
  := by
  apply Job.quietBut_read_bind
  split
  · apply Job.quietBut_read_bind
    rw [unlinked.linter]
    apply Job.quietBut_pure unlinked
  · apply Job.quietBut_pure unlinked

theorem awaited_activate (setup : Setup) (host : Job.Host) (root : Path) (s : Session) :
  (activate setup root).awaited host s = []
  := by
  rw [activate, Job.awaited_bind, Job.awaited_immediately, List.nil_append]
  split
  · rfl
  · rw [Job.awaited_bind, Job.awaited_bind, Job.awaited_immediately]
    split
    · rfl
    · rfl

theorem awaited_lookFor (setup : Setup) (host : Job.Host) (root : Path) (s : Session) :
  (lookFor setup root).awaited host s = []
  := by
  rw [lookFor, Job.awaited_bind, awaited_activate, List.nil_append]
  split
  · rfl
  · rw [Job.awaited_bind, Job.awaited_immediately]
    split
    · rfl
    · rfl
  · rfl

theorem quietBut_didOpen (unlinked : s.Unlinked) (document : Document) :
  (didOpen setup document).QuietBut answer s []
  := by
  apply Job.quietBut_update_bind
  apply quietBut_validateOn
  exact ⟨unlinked.linter, unlinked.phase⟩

theorem quietBut_didChange (unlinked : s.Unlinked) (uri : Uri) (version : Int)
    (texts : List String) :
  (didChange setup uri version texts).QuietBut answer s []
  := by
  rw [didChange]
  split
  · apply Job.quietBut_pure unlinked
  · apply Job.quietBut_updateDocument_bind
    split
    · apply Job.quietBut_pure
      exact ⟨unlinked.linter, unlinked.phase⟩
    · apply quietBut_validateOn
      exact ⟨unlinked.linter, unlinked.phase⟩

theorem quietBut_didSave (unlinked : s.Unlinked) (uri : Uri) (text : Option String) :
  (didSave setup uri text).QuietBut answer s []
  := by
  dsimp only [didSave]
  cases text with
  | none =>
    apply Job.quietBut_read_bind
    split
    · apply Job.quietBut_pure unlinked
    · apply quietBut_validateOn unlinked
  | some text =>
    apply Job.quietBut_updateDocument_bind
    split
    · apply Job.quietBut_pure
      exact ⟨unlinked.linter, unlinked.phase⟩
    · apply quietBut_validateOn
      exact ⟨unlinked.linter, unlinked.phase⟩

theorem quietBut_didClose (unlinked : s.Unlinked) (uri : Uri) :
  (didClose uri).QuietBut answer s [.published uri [] none]
  := ⟨_, _, ⟨rfl, rfl⟩, ⟨unlinked.linter, unlinked.phase⟩, rfl⟩

theorem quietBut_didChangeSettings (unlinked : s.Unlinked) (value : Json.Value) :
  (didChangeSettings setup value).QuietBut answer s []
  := by
  apply Job.quietBut_update_bind
  apply Job.quietBut_read_bind
  rw [if_neg unlinked.phase]
  apply Job.quietBut_pure
  exact ⟨unlinked.linter, unlinked.phase⟩

/-- Looking for the linter again is in vain if it is not loaded. -/
theorem quietBut_retry (unlinked : s.Unlinked)
    (unloaded : ∀ root package check, s.root = some root →
      setup.attempt answer root ≠ .loaded package check) :
  (retry setup).QuietBut answer s []
  := by
  apply Job.quietBut_read_bind
  cases rooted : s.root with
  | none => apply Job.quietBut_pure unlinked
  | some root =>
    have activated := run_activate_eq setup answer root s
    cases attempt : setup.attempt answer root with
    | absent =>
      rw [attempt] at activated
      refine ⟨s, [], Job.Glides.bind ⟨activated, ?_⟩ ⟨rfl, rfl⟩, unlinked, rfl⟩
      apply awaited_activate
    | failed package failure =>
      rw [attempt] at activated
      refine ⟨s, _, Job.Glides.bind ⟨activated, ?_⟩ ⟨rfl, rfl⟩, unlinked, rfl⟩
      apply awaited_activate
    | loaded package check => cases unloaded root package check rooted attempt

theorem quietBut_didChangeFiles (unlinked : s.Unlinked) (uris : List Uri)
    (unloaded : s.phase = .awaitingPackage →
      Package.manifestName ∈ uris.filterMap Uri.lastSegment? →
      ∀ root package check, s.root = some root →
        setup.attempt answer root ≠ .loaded package check) :
  (didChangeFiles setup uris).QuietBut answer s []
  := by
  rw [didChangeFiles]
  split
  · apply Job.quietBut_pure unlinked
  have cleared : Unlinked { s with cache := [] } := ⟨unlinked.linter, unlinked.phase⟩
  apply Job.quietBut_update_bind
  apply Job.quietBut_read_bind
  split
  · rename_i ready
    cases unlinked.phase ready
  · rename_i awaiting
    split
    · rename_i named
      rw [History.contains_configNames] at named
      apply quietBut_retry cleared
      apply unloaded awaiting named
    · apply Job.quietBut_pure cleared
  · apply Job.quietBut_pure cleared

theorem awaited_startUp (setup : Setup) (host : Job.Host) (request : StartRequest)
    (s : Session) :
  (startUp setup request).awaited host s = []
  := by
  rw [startUp_eq, Job.awaited_bind, Job.awaited_bind, awaited_lookFor, List.append_nil]
  cases request.options with
  | none => rfl
  | some value => rfl

/-- A session that starts without the linter logs that it failed to load, if it did. -/
theorem quietBut_startUp (unlinked : s.Unlinked) (request : StartRequest)
    (unloaded : ∀ package check,
      setup.attempt answer (workspaceRoot setup.locator.environment.cwd request)
        ≠ .loaded package check) :
  (startUp setup request >>= fun _ => pure ()).QuietBut answer s
    (match setup.attempt answer (workspaceRoot setup.locator.environment.cwd request) with
    | .failed _ failure => [.logged .error ("Failed to load pug-lint: " ++ failure.message)]
    | _ => [])
  := by
  have started := run_startUp (Job.calmHost answer) s setup request
  rw [run_lookFor_eq] at started
  have awaited := awaited_startUp setup (Job.calmHost answer) request s
  cases attempt : setup.attempt answer
      (workspaceRoot setup.locator.environment.cwd request) with
  | absent =>
    rw [attempt] at started
    dsimp only at started
    split at started
    · exact ⟨_, _, Job.Glides.bind ⟨started, awaited⟩ ⟨rfl, rfl⟩,
        ⟨unlinked.linter, by simp⟩, rfl⟩
    · exact ⟨_, _, Job.Glides.bind ⟨started, awaited⟩ ⟨rfl, rfl⟩,
        ⟨unlinked.linter, by simp⟩, rfl⟩
  | failed package failure =>
    rw [attempt] at started
    exact ⟨_, _, Job.Glides.bind ⟨started, awaited⟩ ⟨rfl, rfl⟩,
      ⟨unlinked.linter, by simp⟩, rfl⟩
  | loaded package check => cases unloaded package check attempt

end Session

namespace History

/-- What a session without a linter says in a turn, apart from the loading of the linter. -/
def told (setup : Setup) (t : Turn) : List Event :=
  match t.message with
  | .closed uri => [.published uri [] none]
  | .start request =>
    match setup.attempt t.answer
        (Session.workspaceRoot setup.locator.environment.cwd request) with
    | .failed _ failure => [.logged .error ("Failed to load pug-lint: " ++ failure.message)]
    | _ => []
  | _ => []

variable {setup : Setup} {h : History}

/-- Whether the linter is not loaded in a turn. -/
def Unloaded (setup : Setup) (h : History) (t : Turn) : Prop :=
  ∀ root package check, h.sought? setup t = some root →
    setup.attempt t.answer root ≠ .loaded package check

theorem quietBut_job {t : Turn} (unlinked : h.session.Unlinked)
    (unloaded : h.Unloaded setup t) :
  (t.message.job setup).QuietBut t.answer h.session (told setup t)
  := by
  obtain ⟨answer, message⟩ := t
  cases message with
  | start request =>
    apply Session.quietBut_startUp unlinked
    intro package check
    apply unloaded _ package check rfl
  | opened document => apply Session.quietBut_didOpen unlinked
  | changed uri version texts => apply Session.quietBut_didChange unlinked
  | saved uri text => apply Session.quietBut_didSave unlinked
  | closed uri => apply Session.quietBut_didClose unlinked
  | settings value => apply Session.quietBut_didChangeSettings unlinked
  | files uris =>
    apply Session.quietBut_didChangeFiles unlinked
    intro awaiting named root package check rooted
    apply unloaded root package check
    simpa [sought?, named] using And.intro awaiting rooted

/-- What is said in a turn of a session without a linter is what is told. -/
theorem heard_turn {t : Turn} (unlinked : h.session.Unlinked) (unloaded : h.Unloaded setup t) :
  (t.message.job setup).awaited (Job.calmHost t.answer) h.session = []
    ∧ (h.turn setup t).session.Unlinked
    ∧ Event.heard (h.turn setup t).events
      = Event.heard h.events ++ told setup t
  := by
  obtain ⟨next, events, glides, unlinked, said⟩ := quietBut_job unlinked unloaded
  use glides.awaited
  rw [turn, History.run_eq _ glides.run]
  use unlinked
  rw [Event.heard_append, said]

/-- What is said in turns of a session that never loads a linter is what is told in them. -/
theorem heard_after {turns : List Turn} (unlinked : h.session.Unlinked)
    (unloaded : ∀ earlier t later, turns = earlier ++ t :: later →
      (h.after setup earlier).Unloaded setup t) :
  (h.after setup turns).session.Unlinked
    ∧ Event.heard (h.after setup turns).events
      = Event.heard h.events ++ turns.flatMap (told setup)
  := by
  induction turns generalizing h with
  | nil =>
    use unlinked
    rw [List.flatMap_nil, List.append_nil]
    rfl
  | cons t rest ih =>
    obtain ⟨_, next, heard⟩ := heard_turn unlinked (unloaded [] t rest rfl)
    rw [List.flatMap_cons, ← List.append_assoc, ← heard]
    apply ih next
    rintro earlier u later rfl
    apply unloaded (t :: earlier) u later rfl

/-- A session that never loads a linter asks for no check and waits for no file in any turn,
and all that is told of it are the documents that are closed and the starts in which the
linter failed to load. -/
theorem silent_of_unloaded {answer : Answering} {turns : List Turn}
    (unloaded : ∀ earlier t later, turns = earlier ++ t :: later →
      ((ofSession answer Session.start).after setup earlier).Unloaded setup t) :
  let after turns := (ofSession answer Session.start).after setup turns
  Event.heard (after turns).events = turns.flatMap (told setup)
    ∧ ∀ earlier t later, turns = earlier ++ t :: later →
      (t.message.job setup).awaited (Job.calmHost t.answer) (after earlier).session = []
  := by
  intro after
  have unlinked : (ofSession answer Session.start).session.Unlinked :=
    ⟨rfl, by simp [ofSession, Session.start]⟩
  constructor
  · apply (heard_after unlinked unloaded).2
  · rintro earlier t later rfl
    refine (heard_turn (heard_after unlinked ?_).1 (unloaded earlier t later rfl)).1
    rintro first u second rfl
    apply unloaded first u (second ++ t :: later)
    rw [List.append_assoc, List.cons_append]

end History

/-! ### A workspace with a linter that does not load -/

namespace Sample

/-- A session in the small workspace whose linter does not load. -/
def brokenSetup : Setup := { setup with load := fun _ => pure (.error .unknown) }

/-- The linter is missing, then it is installed but does not load. -/
def brokenTurns : List Turn :=
  [⟨uninstalled [".pug-lintrc"], .start (startIn "/w")⟩,
    ⟨answer (some manifest), .start (startIn "/w")⟩,
    ⟨answer (some manifest), .opened document⟩,
    ⟨answer (some manifest), .files [manifestUri]⟩,
    ⟨answer (some manifest), .closed document.uri⟩]

theorem attempt_brokenSetup (answer : Answering) (root : Path) (package : Package)
    (check : Checker) :
  brokenSetup.attempt answer root ≠ .loaded package check
  := by
  rw [Setup.attempt]
  split
  · rintro ⟨⟩
  · rintro ⟨⟩

end Sample

namespace History

/-- What is told are the start in which the linter fails to load and the closed document. -/
theorem silent_in_brokenTurns :
  let after turns :=
    (ofSession (Sample.answer none) Session.start).after Sample.brokenSetup turns
  (∀ earlier t later, Sample.brokenTurns = earlier ++ t :: later →
      (after earlier).Unloaded Sample.brokenSetup t)
    ∧ (after Sample.brokenTurns).session.phase = .awaitingPackage
    ∧ Sample.brokenTurns.map (fun t => (told Sample.brokenSetup t).length) = [0, 1, 0, 0, 1]
    ∧ Event.heard (after Sample.brokenTurns).events
      = Sample.brokenTurns.flatMap (told Sample.brokenSetup)
  := by
  intro after
  have unloaded : ∀ earlier t later, Sample.brokenTurns = earlier ++ t :: later →
      (after earlier).Unloaded Sample.brokenSetup t := by
    intro earlier t later _ root package check _
    apply Sample.attempt_brokenSetup
  refine ⟨unloaded, by decide +kernel, by decide +kernel, ?_⟩
  apply (silent_of_unloaded unloaded).1

end History

end TemplateLint
