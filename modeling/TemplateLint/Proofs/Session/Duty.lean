import TemplateLint.Proofs.Session.Discipline
import TemplateLint.Proofs.Session.Inspection
import TemplateLint.Proofs.Session.Lifecycle

/-!
# Duties while the linter arrives

What jobs owe to documents while a session finds its linter.  A job that stores a template
looks for the linter after that, and owes the template a validation if there is one.  The job
that brings the linter puts it in its place, and lists the documents after that; from then on
it owes a validation to all templates that it has listed.  A template that was checked is
published if it is still what is stored.
-/

namespace TemplateLint

/-- What jobs share: how the session is set up, what the machine answers, the root of the
workspace, and what the linter that is installed there computes. -/
structure Arrival where
  setup : Setup
  answer : Answering
  root : Path
  lint : Lint

/-- The duties of a job: none, or to look for the linter for a document that it has stored;
to bring the linter, from the call for it to its arrival; to list the documents; and to
validate those of a list, the first of which was judged already, and is known to be current
when it is about to be published. -/
inductive Duty where
  | idle
  | coming (document : Document)
  | called
  | bringing
  | arriving
  | equipped
  | listing (engine : Nat)
  | owing (engine : Nat) (documents : List Document)
  | judged (engine : Nat) (document : Document) (options : Options) (rest : List Document)
  | current (engine : Nat) (document : Document) (options : Options) (rest : List Document)

namespace Duty

/-- The duties with which a job may have to wait. -/
def Waits : Duty → Prop
  | current _ _ _ _ => False
  | _ => True

/-- The duties with which a job may end: it owes nothing. -/
def Rests : Duty → Prop
  | idle => True
  | owing _ [] => True
  | _ => False

/-- What is true of the shared state while a job has a duty. -/
def Fits (s : Session) : Duty → Prop
  | arriving => s.linter ≠ none
  | equipped => s.linter ≠ none
  | listing engine => engine < s.engines.length
  | owing engine _ => engine < s.engines.length
  | judged engine _ _ _ => engine < s.engines.length
  | current engine document _ _ =>
    engine < s.engines.length ∧ s.documents.isCurrent document = true
  | _ => True

/-- The duty after a document was stored. -/
def stored (document : Document) : Duty :=
  if document.isTemplate then coming document else idle

theorem waits_stored (document : Document) :
  (stored document).Waits
  := by
  rw [stored]
  split
  · trivial
  · trivial

theorem waits_of_rests (duty : Duty) (rests : duty.Rests) :
  duty.Waits
  := by
  cases duty with
  | current => cases rests
  | _ => trivial

end Duty

namespace Arrival

variable (c : Arrival)

/-- Whether the linter is installed, and computes its function. -/
def Installed : Prop :=
  ∃ package check, c.setup.attempt c.answer c.root = .loaded package check
    ∧ ∀ options text path, (check options text path).run c.answer
      = .ok (c.lint options text path)

/-- What is true of the shared state all the time: settings and root do not change, all
engines compute what the linter does, and the session is ready only if it has a linter. -/
structure Fits (s : Session) : Prop where
  prompt : s.settings.enable = true ∧ s.settings.run = .onType
  root : s.root = some c.root
  engines : ∀ e ∈ s.engines, e.Computes c.answer c.lint
  linked : s.Linked
  keyed : s.documents.WellKeyed
  phase : s.phase = .awaitingPackage ∨ s.phase = .ready ∧ s.linter ≠ none

/-- How a job may access the shared state, and how its duty changes. -/
inductive Access : Duty → Session → Session → Duty → Prop where
  | read {duty s} : Access duty s s duty
  | keep {duty} {s : Session} (cache : Cache) : Access duty s { s with cache := cache } duty
  | store {s : Session} (document : Document) (documents : Store) (keyed : documents.WellKeyed)
      (get? : ∀ uri, documents.get? uri
        = if uri.text = document.uri.text then some document else s.documents.get? uri) :
      Access .idle s { s with documents := documents } (.stored document)
  | find {s : Session} {document engine} (linter : s.linter = some engine) :
      Access (.coming document) s s (.owing engine [document])
  | miss {s : Session} {document} (linter : s.linter = none) :
      Access (.coming document) s s .idle
  | wait {s : Session} (phase : s.phase = .awaitingPackage) : Access .called s s .bringing
  | late {s : Session} (phase : s.phase = .ready) : Access .called s s .equipped
  | bring {s : Session} {check : Checker} (computes : ∀ options text path,
      (check options text path).run c.answer = .ok (c.lint options text path)) :
      Access .bringing s (s.addEngine check) .arriving
  | arrive {s : Session} : Access .arriving s { s with phase := .ready } .equipped
  | link {s : Session} {engine} (linter : s.linter = some engine) :
      Access .equipped s s (.listing engine)
  | list {s : Session} {engine} :
      Access (.listing engine) s s
        (.owing engine (s.documents.all.filter Document.isTemplate))
  | confirm {s : Session} {engine document options rest}
      (current : s.documents.isCurrent document = true) :
      Access (.judged engine document options rest) s s
        (.current engine document options rest)
  | drop {s : Session} {engine document options rest}
      (outdated : s.documents.isCurrent document = false) :
      Access (.judged engine document options rest) s s (.owing engine rest)

/-- How a job may change an engine without waiting. -/
inductive Change : Duty → (Session → Session) → Duty → Prop where
  | engine {duty} (engine : Nat) (change : Engine → Engine)
      (same : ∀ e, (change e).check = e.check) :
      Change duty (fun s => s.changeEngine engine change) duty

/-- What a check of a document that is owed one comes to. -/
inductive Check : Duty → Options → String → Path → Except Failure (List Problem) → Duty →
    Prop where
  | judge {engine document options rest} :
      Check (.owing engine (document :: rest)) options document.text document.checkPath
        (.ok (c.lint options document.text document.checkPath))
        (.judged engine document options rest)

/-- What a job may tell. -/
inductive Tell : Duty → Event → Duty → Prop where
  | aside {duty event} (mute : event.isMute = true) : Tell duty event duty
  | publish {engine document options rest} :
      Tell (.current engine document options rest)
        (.published document.uri (c.lint.diagnostics document options) document.version)
        (.owing engine rest)

/-- The discipline of the jobs. -/
def discipline : Discipline Duty where
  answer := c.answer
  waits := Duty.Waits
  rests := Duty.Rests
  fits duty s := c.Fits s ∧ duty.Fits s
  access := c.Access
  change := Change
  take duty _ after := after = duty
  check := c.Check
  tell := c.Tell
  waits_of_rests := Duty.waits_of_rests

variable {c} {duty : Duty}

/-! ### Parts of jobs -/

/-- A job that reads the shared state may keep its duty. -/
theorem follows_read (waits : duty.Waits) (part : Session → α) :
  c.discipline.Follows duty (Job.read part) fun a after =>
    after = duty ∧ ∃ s, c.Fits s ∧ a = part s
  := by
  use waits
  rintro s ⟨fits, -⟩
  exact ⟨duty, .read, rfl, s, fits, rfl⟩

theorem follows_mute {event : Event} (mute : event.isMute = true) :
  c.discipline.Follows duty (Job.say event) fun _ after => after = duty
  := Discipline.follows_say (Tell.aside mute)

theorem follows_resolveOptions (waits : duty.Waits) (root directory : Path)
    (inline : Option Options) :
  c.discipline.Follows duty (Session.resolveOptions c.setup root directory inline)
    fun _ after => after = duty
  := by
  apply (Discipline.follows_await waits _).bind
  rintro resolution _ ⟨rfl, -⟩
  apply (Discipline.follows_forEach_say _ fun _ => Tell.aside rfl).bind
  rintro _ _ rfl
  rfl

theorem follows_optionsFor (waits : duty.Waits) (document : Document) :
  c.discipline.Follows duty (Session.optionsFor c.setup document) fun _ after => after = duty
  := by
  apply (follows_read waits _).bind
  rintro settings _ ⟨rfl, -⟩
  apply (follows_read waits _).bind
  rintro root _ ⟨rfl, -⟩
  dsimp only
  split
  · apply follows_resolveOptions waits
  · apply (follows_read waits _).bind
    rintro cache _ ⟨rfl, -⟩
    split
    · rfl
    · apply (follows_resolveOptions waits _ _ _).bind
      rintro options _ rfl
      use waits
      intro s _
      exact ⟨_, .keep _, rfl⟩

/-! ### Validation -/

variable {engine : Nat} {document : Document} {options : Options} {rest : List Document}

/-- A job that owes documents a validation is done with the first one when it has validated
it. -/
theorem follows_one :
  c.discipline.Follows (.owing engine (document :: rest))
    (Validation.one engine document options)
    fun result after => after = .owing engine rest ∧ ∃ published, result = .ok published
  := by
  refine ⟨trivial, _, rfl, _, .engine engine _ fun _ => rfl, trivial, ?_⟩
  rintro s ⟨fits, here⟩
  have present : s.engines[engine]? = some s.engines[engine] := List.getElem?_eq_getElem here
  have computes := fits.engines _ (List.mem_of_getElem? present)
  simp only [Job.checkBy, present]
  rw [show c.discipline.answer = c.answer from rfl, computes]
  refine ⟨_, .judge, _, .engine engine _ fun _ => rfl, trivial, ?_⟩
  intro s _
  cases current : s.documents.isCurrent document with
  | true =>
    refine ⟨_, .confirm current, ?_⟩
    simp only [current]
    exact ⟨_, .publish, rfl, _, rfl⟩
  | false =>
    refine ⟨_, .drop current, ?_⟩
    simp [current, Discipline.Follows]

theorem follows_single :
  c.discipline.Follows (.owing engine [document]) (Validation.single engine document options)
    fun _ after => after.Rests
  := by
  apply follows_one.bind
  rintro _ _ ⟨rfl, published, rfl⟩
  trivial

/-- A job that owes the documents of a batch a validation has no failures to report. -/
theorem follows_through (batch : List (Document × Options)) (report : Validation.Report) :
  c.discipline.Follows (.owing engine (batch.map Prod.fst))
    (Validation.through engine batch report)
    fun last after => after = .owing engine [] ∧ last = report
  := by
  induction batch with
  | nil => exact ⟨rfl, rfl⟩
  | cons entry rest ih =>
    apply follows_one.bind
    rintro _ _ ⟨rfl, published, rfl⟩
    apply ih

theorem follows_all (batch : List (Document × Options)) :
  c.discipline.Follows (.owing engine (batch.map Prod.fst)) (Validation.all engine batch)
    fun _ after => after.Rests
  := by
  apply (follows_through batch .empty).bind
  rintro _ _ ⟨rfl, rfl⟩
  trivial

/-- The documents of a batch are the templates that it is made from. -/
theorem follows_batchOf (waits : duty.Waits) (documents : List Document) :
  c.discipline.Follows duty (Session.batchOf c.setup documents) fun batch after =>
    after = duty ∧ batch.map Prod.fst = documents.filter Document.isTemplate
  := by
  induction documents with
  | nil => exact ⟨rfl, rfl⟩
  | cons document rest ih =>
    rw [Session.batchOf]
    split
    · rename_i template
      apply (follows_optionsFor waits document).bind
      rintro options _ rfl
      apply ih.bind
      rintro batch _ ⟨rfl, same⟩
      refine ⟨rfl, ?_⟩
      rw [List.filter_cons_of_pos template, List.map_cons, same]
    · rename_i other
      rw [List.filter_cons_of_neg other]
      apply ih

/-- A job that looks for the linter after it has stored a template owes it a validation, if
there is one. -/
theorem follows_look :
  c.discipline.Follows (.stored document) (Job.read Session.linter) fun linter after =>
    match linter with
    | none => after = .idle
    | some engine =>
      after = if document.isTemplate then .owing engine [document] else .idle
  := by
  use Duty.waits_stored document
  rintro s ⟨fits, -⟩
  rw [Duty.stored]
  cases linter : s.linter with
  | none =>
    split
    · refine ⟨_, .miss linter, ?_⟩
      simp [Discipline.Follows, linter]
    · refine ⟨_, .read, ?_⟩
      simp [Discipline.Follows, linter]
  | some engine =>
    split
    · refine ⟨_, .find linter, ?_⟩
      simp [Discipline.Follows, linter]
    · refine ⟨_, .read, ?_⟩
      simp [Discipline.Follows, linter]

/-- A job that has stored a document owes nothing in the end. -/
theorem follows_validateDocument :
  c.discipline.Follows (.stored document) (Session.validateDocument c.setup document)
    fun _ after => after.Rests
  := by
  apply follows_look.bind
  rintro (_ | engine) after looked
  · obtain rfl := looked
    trivial
  · obtain rfl : after = if document.isTemplate then .owing engine [document] else .idle := looked
    split
    · rename_i template
      have waits : (Duty.owing engine [document]).Waits := trivial
      apply (follows_read waits _).bind
      rintro settings _ ⟨rfl, s, fits, rfl⟩
      rw [if_pos (by simp [fits.prompt.1, template])]
      apply (follows_optionsFor waits document).bind
      rintro options _ rfl
      apply follows_single
    · rename_i other
      have waits : Duty.idle.Waits := trivial
      apply (follows_read waits _).bind
      rintro settings _ ⟨rfl, -⟩
      rw [if_neg (by simp [other])]
      trivial

theorem follows_validateOn :
  c.discipline.Follows (.stored document) (Session.validateOn .onType c.setup document)
    fun _ after => after.Rests
  := by
  apply (follows_read (Duty.waits_stored document) _).bind
  rintro settings _ ⟨rfl, s, fits, rfl⟩
  rw [if_pos fits.prompt.2]
  apply follows_validateDocument

/-- A job that knows that there is a linter looks for it, and lists the documents then. -/
theorem follows_validateOpen :
  c.discipline.Follows .equipped (Session.validateOpen c.setup) fun _ after => after.Rests
  := by
  have look : c.discipline.Follows .equipped (Job.read Session.linter) fun linter after =>
      ∃ engine, linter = some engine ∧ after = .listing engine := by
    use trivial
    rintro s ⟨-, present⟩
    obtain ⟨engine, linter⟩ := Option.ne_none_iff_exists'.mp present
    exact ⟨_, .link linter, engine, linter, rfl⟩
  apply look.bind
  rintro _ _ ⟨engine, rfl, rfl⟩
  have waits : (Duty.listing engine).Waits := trivial
  apply (follows_read waits _).bind
  rintro settings _ ⟨rfl, s, fits, rfl⟩
  rw [if_pos fits.prompt.1]
  have list : c.discipline.Follows (.listing engine) (Job.read fun s => s.documents.all)
      fun documents after => after = .owing engine (documents.filter Document.isTemplate) := by
    use trivial
    intro s _
    exact ⟨_, .list, rfl⟩
  apply list.bind
  rintro documents _ rfl
  have waits : (Duty.owing engine (documents.filter Document.isTemplate)).Waits := trivial
  apply (follows_batchOf waits documents).bind
  rintro batch _ ⟨rfl, same⟩
  rw [← same]
  apply (follows_all batch).bind
  rintro _ after rests
  apply rests

/-! ### Messages -/

theorem follows_didOpen :
  c.discipline.Follows .idle (Session.didOpen c.setup document) fun _ after => after.Rests
  := by
  use trivial
  rintro s ⟨fits, -⟩
  use .stored document
  constructor
  · apply Access.store document (s.documents.insert document)
    · apply fits.keyed.insert
    · apply Store.get?_insert
  · apply follows_validateOn

/-- A change stores the document that it leads to, or nothing. -/
theorem follows_updateDocument (uri : Uri) (version : Option Int) (text : String) :
  c.discipline.Follows .idle (Session.updateDocument uri version text) fun result after =>
    match result with
    | none => after = .idle
    | some document => after = .stored document
  := by
  use trivial
  rintro s ⟨fits, -⟩
  dsimp only
  rcases updated : s.documents.update uri version text with ⟨_ | document, documents⟩
  · obtain rfl := Store.update_none updated
    exact ⟨_, .read, rfl⟩
  · obtain ⟨old, found, rfl, -⟩ := Store.update_some updated
    refine ⟨_, .store (Store.changed old version text) documents ?_ ?_, rfl⟩
    · have keyed := fits.keyed.update uri version text
      rw [updated] at keyed
      apply keyed
    · intro other
      rw [Store.get?_update updated, ← fits.keyed.uri_eq found]
      rfl

theorem follows_didChange (uri : Uri) (version : Int) (texts : List String) :
  c.discipline.Follows .idle (Session.didChange c.setup uri version texts)
    fun _ after => after.Rests
  := by
  rw [Session.didChange]
  split
  · trivial
  · apply (follows_updateDocument uri _ _).bind
    rintro (_ | document) _ rfl
    · trivial
    · apply follows_validateOn

/-- A job that looks for the linter finds it, puts it in its place and says so. -/
theorem follows_activate (installed : c.Installed) :
  c.discipline.Follows .bringing (Session.activate c.setup c.root) fun result after =>
    result = .ok true ∧ after = .equipped
  := by
  obtain ⟨package, check, attempt, computes⟩ := installed
  obtain ⟨located, loaded⟩ := Setup.attempt_eq_loaded.mp attempt
  apply (Discipline.follows_immediately _).bind
  rintro _ _ ⟨rfl, rfl⟩
  rw [show c.discipline.answer = c.answer from rfl, located]
  apply (follows_mute rfl).bind
  rintro _ _ rfl
  apply (Discipline.follows_immediately _).bind
  rintro _ _ ⟨rfl, rfl⟩
  rw [show c.discipline.answer = c.answer from rfl, loaded]
  use trivial
  intro s _
  refine ⟨_, .bring computes, trivial, ?_⟩
  intro s _
  exact ⟨_, .arrive, rfl, rfl⟩

theorem follows_retry (installed : c.Installed) :
  c.discipline.Follows .bringing (Session.retry c.setup) fun _ after => after.Rests
  := by
  have waits : Duty.bringing.Waits := trivial
  apply (follows_read waits _).bind
  rintro _ _ ⟨rfl, s, fits, rfl⟩
  rw [fits.root]
  apply (follows_activate installed).bind
  rintro _ _ ⟨rfl, rfl⟩
  apply (follows_mute rfl).bind
  rintro _ _ rfl
  apply follows_validateOpen

/-- A job that is called for the manifest brings the linter, unless it has arrived. -/
theorem follows_didChangeFiles (installed : c.Installed) {uris : List Uri}
    (named : Package.manifestName ∈ uris.filterMap Uri.lastSegment?) :
  c.discipline.Follows .called (Session.didChangeFiles c.setup uris) fun _ after => after.Rests
  := by
  have contains := (History.contains_configNames uris).2 named
  have names : Session.configNames uris ≠ [] := by
    intro none
    rw [none] at contains
    cases contains
  rw [Session.didChangeFiles, if_neg names]
  use trivial
  intro s _
  refine ⟨_, .keep [], ?_⟩
  have look : c.discipline.Follows .called (Job.read Session.phase) fun phase after =>
      phase = .awaitingPackage ∧ after = .bringing ∨ phase = .ready ∧ after = .equipped := by
    use trivial
    rintro s ⟨fits, -⟩
    rcases fits.phase with phase | ⟨phase, -⟩
    · refine ⟨_, .wait phase, .inl ⟨phase, rfl⟩⟩
    · refine ⟨_, .late phase, .inr ⟨phase, rfl⟩⟩
  apply look.bind
  rintro _ _ (⟨rfl, rfl⟩ | ⟨rfl, rfl⟩)
  · rw [if_pos contains]
    apply follows_retry installed
  · apply follows_validateOpen

end Arrival

end TemplateLint
