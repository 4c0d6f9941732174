import TemplateLint.Proofs.Session.Validation

/-!
# Stages of jobs

What a job for an edit of a document promises to the jobs beside it.  A job that stores a
document owes it a validation from then on.  It takes the linter, holds it configured
until the document is checked, gives it back with the result, and publishes the result if
the document is still stored.  A job that closes a document publishes an empty list at
once.  At most of these stages the job may have to wait; where it must not, nothing comes
between it and what it found in the shared state.

That a job follows its stages is shown of one function after the other, from what is true
of the shared state whenever any job goes on.
-/

namespace TemplateLint

/-- Whether documents are validated whenever they change. -/
structure Settings.Prompt (settings : Settings) : Prop where
  enable : settings.enable = true
  run : settings.run = .onType

/-- What jobs for edits share: how the session is set up, what the machine answers, what
the linter computes, the state in which the first one begins, the engine of the linter,
and the URIs under which documents may be open. -/
structure Scene where
  setup : Setup
  answer : Answering
  lint : Lint
  first : Session
  engine : Nat
  opened : Uri → Prop

namespace Scene

variable (c : Scene)

/-- The options that files give for the directory of a document. -/
def fileOptions (document : Document) : Options :=
  Session.fileOptions c.setup c.answer (c.first.root.getD Path.here)
    (c.first.directory document)

/-- Whether a document may be checked with options: they are in force for it at first, or
files give them for its directory, as it is written in a document that may be open. -/
def Offered (document : Document) (options : Options) : Prop :=
  c.first.InForce document options
    ∨ c.first.settings.inlineOptions = none
      ∧ ∃ other : Document, c.opened other.uri
        ∧ (c.first.directory other).same (c.first.directory document) = true
        ∧ options = c.fileOptions other

/-- What holds of the shared state whenever a job goes on: settings, linter and root are
the same as at first, the linter computes its function, and the options in force for
documents are those that they may be checked with. -/
structure Fits (s : Session) : Prop where
  settings : s.settings = c.first.settings
  linter : s.linter = some c.engine
  root : s.root = c.first.root
  computes : ∃ e, s.engines[c.engine]? = some e ∧ e.Computes c.answer c.lint
  kept : ∀ document options, c.opened document.uri → s.InForce document options →
    c.Offered document options
  keyed : s.documents.WellKeyed
  documents : ∀ uri document, s.documents.get? uri = some document → c.opened document.uri

end Scene

/-- The stages of a job. -/
inductive Stage where
  | idle
  | owing (document : Document)
  | taking (document : Document)
  | holding (document : Document) (options : Options)
  | checked (document : Document) (options : Options)
  | found (document : Document) (options : Options)
  | current (document : Document) (options : Options)
  | closing (uri : Uri)
  | closed (uri : Uri)

namespace Stage

/-- The stages at which a job may have to wait for the shared state or a file. -/
def rests : Stage → Bool
  | idle => true
  | owing _ => true
  | found _ _ => true
  | closing _ => true
  | _ => false

/-- The stages at which a job may be when other jobs go on: it also waits for a check. -/
def waits : Stage → Bool
  | holding _ _ => true
  | stage => stage.rests

/-- The stages at which a job has taken the linter. -/
def holds : Stage → Bool
  | taking _ => true
  | holding _ _ => true
  | checked _ _ => true
  | _ => false

/-- Whether a job owes a document a validation. -/
def Owes (document : Document) : Stage → Prop
  | owing other => other = document
  | taking other => other = document
  | holding other _ => other = document
  | checked other _ => other = document
  | found other _ => other = document
  | current other _ => other = document
  | _ => False

/-- Whether a job is to close the document under a URI or to clear the URI. -/
def Closes (uri : Uri) : Stage → Prop
  | closing other => other = uri
  | closed other => other = uri
  | _ => False

/-- Whether a job is about to clear what is seen under a URI. -/
def Clears (uri : Uri) : Stage → Prop
  | closed other => other.text = uri.text
  | _ => False

/-- The stage after a document was stored. -/
def stored (document : Document) : Stage :=
  if document.isTemplate then owing document else idle

theorem closes_of_clears {stage : Stage} {uri : Uri} (clears : stage.Clears uri) :
  ∃ other, stage.Closes other
  := by
  cases stage with
  | closed other =>
    use other
    rfl
  | _ => cases clears

theorem waits_of_rests {stage : Stage} (rests : stage.rests = true) :
  stage.waits = true
  := by
  cases stage with
  | holding => cases rests
  | _ => apply rests

theorem holds_of_rests {stage : Stage} (rests : stage.rests = true) :
  stage.holds = false
  := by
  cases stage with
  | taking => cases rests
  | holding => cases rests
  | checked => cases rests
  | _ => rfl

theorem rests_stored (document : Document) :
  (stored document).rests = true
  := by
  rw [stored]
  split
  · rfl
  · rfl

end Stage

namespace Scene

/-- How a job at a stage may access the shared state, and the stage that it is at then. -/
inductive Access (c : Scene) : Stage → Session → Session → Stage → Prop where
  | read {stage s} (rests : stage.rests = true) : Access c stage s s stage
  | keep {s} (document) (opened : c.opened document.uri)
      (editor : c.first.settings.inlineOptions = none) :
      Access c (.owing document) s
        { s with cache := s.cache.insert (c.first.directory document) (c.fileOptions document) }
        (.owing document)
  | store {s} (document) (documents : Store) (opened : c.opened document.uri)
      (keyed : documents.WellKeyed)
      (get? : ∀ uri, documents.get? uri
        = if uri.text = document.uri.text then some document else s.documents.get? uri) :
      Access c .idle s { s with documents := documents } (.stored document)
  | close {s} (uri) :
      Access c (.closing uri) s { s with documents := s.documents.close uri } (.closed uri)
  | confirm {s document options} (current : s.documents.isCurrent document = true) :
      Access c (.found document options) s s (.current document options)
  | drop {s document options} (outdated : s.documents.isCurrent document = false) :
      Access c (.found document options) s s .idle

/-- How a job at a stage may change how the engine is used without waiting. -/
inductive Change (c : Scene) : Stage → (Session → Session) → Stage → Prop where
  | configure {document options} (opened : c.opened document.uri)
      (offered : c.Offered document options) :
      Change c (.taking document) (fun s => s.configure c.engine options)
        (.holding document options)
  | giveBack {document options} :
      Change c (.checked document options) (fun s => s.giveBack c.engine)
        (.found document options)

/-- What a job at a stage may tell. -/
inductive Tell (c : Scene) : Stage → Event → Stage → Prop where
  | aside {stage event} (mute : event.isMute = true) : Tell c stage event stage
  | publish {document options} :
      Tell c (.current document options)
        (.published document.uri (c.lint.diagnostics document options) document.version) .idle
  | clear {uri} : Tell c (.closed uri) (.published uri [] none) .idle

/-- Whether a job that is at a stage goes on from stage to stage, and ends with a result
at a stage that have a property. -/
def Follows (c : Scene) : Stage → Job α → (α → Stage → Prop) → Prop
  | stage, .done a, ends => ends a stage
  | stage, .access update next, ends =>
    stage.rests = true ∧ ∀ s, c.Fits s →
      ∃ after, c.Access stage s (update s) after ∧ Follows c after (next s) ends
  | stage, .change update next, ends =>
    ∃ after, c.Change stage update after ∧ Follows c after next ends
  | stage, .take engine next, ends =>
    ∃ document, stage = .owing document ∧ engine = c.engine
      ∧ Follows c (.taking document) next ends
  | stage, .check engine text path next, ends =>
    ∃ document options, stage = .holding document options ∧ engine = c.engine
      ∧ text = document.text ∧ path = document.checkPath
      ∧ Follows c (.checked document options) (next (.ok (c.lint options text path))) ends
  | stage, .ask request next, ends =>
    stage.rests = true ∧ Follows c stage (next (c.answer request)) ends
  | stage, .probe request next, ends => Follows c stage (next (c.answer request)) ends
  | stage, .tell event next, ends =>
    ∃ after, c.Tell stage event after ∧ Follows c after next ends

variable {c : Scene} {stage : Stage}

/-! ### Parts of jobs -/

/-- A sequence of jobs follows its stages if its parts do. -/
theorem Follows.bind {t : Job α} {next : α → Job β} {first : α → Stage → Prop}
    {ends : β → Stage → Prop} (h : c.Follows stage t first)
    (h' : ∀ a after, first a after → c.Follows after (next a) ends) :
  c.Follows stage (t >>= next) ends
  := by
  change c.Follows stage (t.bind next) ends
  induction t generalizing stage with
  | done a => apply h' a stage h
  | access update rest ih =>
    use h.1
    intro s fits
    obtain ⟨after, access, follows⟩ := h.2 s fits
    use after, access
    apply ih s follows
  | change update rest ih =>
    obtain ⟨after, change, follows⟩ := h
    use after, change
    apply ih follows
  | take engine rest ih =>
    obtain ⟨document, owing, same, follows⟩ := h
    use document, owing, same
    apply ih follows
  | check engine text path rest ih =>
    obtain ⟨document, options, holding, same, text, path, follows⟩ := h
    use document, options, holding, same, text, path
    apply ih _ follows
  | ask request rest ih =>
    use h.1
    apply ih _ h.2
  | probe request rest ih => apply ih _ h
  | tell event rest ih =>
    obtain ⟨after, tell, follows⟩ := h
    use after, tell
    apply ih follows

theorem Follows.weaken {t : Job α} {first second : α → Stage → Prop}
    (h : c.Follows stage t first) (sub : ∀ a after, first a after → second a after) :
  c.Follows stage t second
  := by
  have follows : c.Follows stage (t >>= Job.done) second := by
    apply h.bind
    apply sub
  change c.Follows stage (t.bind Job.done) second at follows
  rw [Job.bind_done] at follows
  apply follows

theorem follows_read (rests : stage.rests = true) (part : Session → α) :
  c.Follows stage (Job.read part) fun a after =>
    after = stage ∧ ∃ s, c.Fits s ∧ a = part s
  := by
  use rests
  intro s fits
  use stage, .read rests, rfl, s, fits

theorem follows_say {event : Event} (mute : event.isMute = true) :
  c.Follows stage (Job.say event) fun _ after => after = stage
  := by
  use stage, .aside mute
  rfl

theorem follows_forEach_say (xs : List α) {event : α → Event}
    (mute : ∀ x, (event x).isMute = true) :
  c.Follows stage (Job.forEach xs fun x => Job.say (event x)) fun _ after => after = stage
  := by
  induction xs with
  | nil => rfl
  | cons x rest ih =>
    apply (follows_say (mute x)).bind
    rintro _ after rfl
    apply ih

theorem follows_await (rests : stage.rests = true) (p : Program α) :
  c.Follows stage (Job.await p) fun a after => after = stage ∧ a = p.run c.answer
  := by
  induction p with
  | done a =>
    use rfl
    rfl
  | ask request next ih =>
    use rests
    apply ih

/-! ### Options -/

/-- Options of the editor may be used for every document. -/
theorem offered_inline {inline : Options} (editor : c.first.settings.inlineOptions = some inline)
    (document : Document) :
  c.Offered document (c.first.resolution c.setup c.answer (c.first.directory document)).options
  := by
  left
  rw [Session.resolution_inline editor, Session.InForce, editor]

/-- The options that files give may be used for the documents of the directory. -/
theorem offered_files (editor : c.first.settings.inlineOptions = none) {document : Document}
    (opened : c.opened document.uri) :
  c.Offered document (c.fileOptions document)
  := by
  right
  use editor, document, opened
  simp [Path.same]

/-- Resolving options neither publishes anything nor changes what is shared. -/
theorem follows_resolveOptions (rests : stage.rests = true) (root directory : Path)
    (inline : Option Options) :
  c.Follows stage (Session.resolveOptions c.setup root directory inline) fun options after =>
    after = stage
      ∧ options = ((c.setup.resolver.resolve root directory inline).run c.answer).options
  := by
  apply (follows_await rests _).bind
  rintro resolution _ ⟨rfl, rfl⟩
  apply (follows_forEach_say _ fun _ => rfl).bind
  rintro _ _ rfl
  use rfl

/-- A job that owes a document a validation finds options that it may use. -/
theorem follows_optionsFor {document : Document} (opened : c.opened document.uri) :
  c.Follows (.owing document) (Session.optionsFor c.setup document) fun options after =>
    after = .owing document ∧ c.Offered document options
  := by
  apply (follows_read rfl _).bind
  rintro settings _ ⟨rfl, s, fits, rfl⟩
  rw [fits.settings]
  apply (follows_read rfl _).bind
  rintro root _ ⟨rfl, s', fits', rfl⟩
  rw [fits'.root]
  dsimp only
  cases editor : c.first.settings.inlineOptions with
  | some inline =>
    apply Follows.weaken (follows_resolveOptions rfl _ _ _)
    rintro options after ⟨rfl, rfl⟩
    use rfl
    have offered := offered_inline editor document
    rw [Session.resolution, editor] at offered
    apply offered
  | none =>
    apply (follows_read rfl _).bind
    rintro cache _ ⟨rfl, s, fits, rfl⟩
    split
    · rename_i options kept
      use rfl
      apply fits.kept document options opened
      rw [Session.InForce, fits.settings, editor, Session.directory, fits.root]
      apply kept
    · apply (follows_resolveOptions rfl _ _ _).bind
      rintro options _ ⟨rfl, rfl⟩
      refine ⟨rfl, ?_⟩
      intro s fits
      refine ⟨.owing document, .keep document opened editor, rfl, ?_⟩
      apply offered_files editor opened

/-! ### Validation -/

/-- A job that owes a document a validation is done with it when it has checked the
document. -/
theorem follows_one {document : Document} {options : Options}
    (opened : c.opened document.uri) (offered : c.Offered document options) :
  c.Follows (.owing document) (Validation.one c.engine document options)
    fun result after => after = .idle ∧ ∃ published, result = .ok published
  := by
  refine ⟨document, rfl, rfl, _, .configure opened offered, document, options, rfl, rfl, rfl, rfl,
    _, .giveBack, rfl, ?_⟩
  intro s _
  cases current : s.documents.isCurrent document with
  | true =>
    refine ⟨_, .confirm current, ?_⟩
    simp only [current]
    use .idle, .publish, rfl
    simp
  | false =>
    refine ⟨_, .drop current, ?_⟩
    simp [current, Follows]

theorem follows_single {document : Document} {options : Options}
    (opened : c.opened document.uri) (offered : c.Offered document options) :
  c.Follows (.owing document) (Validation.single c.engine document options)
    fun _ after => after = .idle
  := by
  apply (follows_one opened offered).bind
  rintro _ _ ⟨rfl, published, rfl⟩
  rfl

/-- A job that has stored a document owes nothing in the end. -/
theorem follows_validateDocument (prompt : c.first.settings.Prompt) {document : Document}
    (opened : c.opened document.uri) :
  c.Follows (.stored document) (Session.validateDocument c.setup document)
    fun _ after => after = .idle
  := by
  apply (follows_read (Stage.rests_stored document) _).bind
  rintro linter _ ⟨rfl, s, fits, rfl⟩
  rw [fits.linter]
  apply (follows_read (Stage.rests_stored document) _).bind
  rintro settings _ ⟨rfl, s', fits', rfl⟩
  rw [fits'.settings, prompt.enable, Stage.stored]
  cases template : document.isTemplate with
  | true =>
    apply (follows_optionsFor opened).bind
    rintro options _ ⟨rfl, offered⟩
    apply follows_single opened offered
  | false => rfl

theorem follows_validateOn (prompt : c.first.settings.Prompt) {document : Document}
    (opened : c.opened document.uri) :
  c.Follows (.stored document) (Session.validateOn .onType c.setup document)
    fun _ after => after = .idle
  := by
  apply (follows_read (Stage.rests_stored document) _).bind
  rintro settings _ ⟨rfl, s, fits, rfl⟩
  rw [fits.settings, if_pos prompt.run]
  apply follows_validateDocument prompt opened

/-! ### Messages -/

theorem follows_didOpen (prompt : c.first.settings.Prompt) {document : Document}
    (opened : c.opened document.uri) :
  c.Follows .idle (Session.didOpen c.setup document) fun _ after => after = .idle
  := by
  use rfl
  intro s fits
  use .stored document
  constructor
  · apply Access.store document (s.documents.insert document) opened
    · apply fits.keyed.insert
    · apply Store.get?_insert
  · apply follows_validateOn prompt opened

/-- A change stores the document that it leads to, or nothing. -/
theorem follows_updateDocument (uri : Uri) (version : Option Int) (text : String) :
  c.Follows .idle (Session.updateDocument uri version text) fun result after =>
    match result with
    | none => after = .idle
    | some document => after = .stored document ∧ c.opened document.uri
  := by
  use rfl
  intro s fits
  dsimp only
  rcases updated : s.documents.update uri version text with ⟨_ | document, documents⟩
  · obtain rfl := Store.update_none updated
    use .idle, .read rfl
    rfl
  · obtain ⟨old, found, rfl, -⟩ := Store.update_some updated
    have opened := fits.documents uri old found
    refine ⟨_, .store (Store.changed old version text) documents opened ?_ ?_, rfl, opened⟩
    · have keyed := fits.keyed.update uri version text
      rw [updated] at keyed
      apply keyed
    · intro other
      rw [Store.get?_update updated, ← fits.keyed.uri_eq found]
      rfl

theorem follows_didChange (prompt : c.first.settings.Prompt) (uri : Uri) (version : Int)
    (texts : List String) :
  c.Follows .idle (Session.didChange c.setup uri version texts) fun _ after => after = .idle
  := by
  rw [Session.didChange]
  split
  · rfl
  · apply (follows_updateDocument uri _ _).bind
    rintro (_ | document) after changed
    · apply changed
    · obtain ⟨rfl, opened⟩ := changed
      apply follows_validateOn prompt opened

theorem follows_didClose (uri : Uri) :
  c.Follows (.closing uri) (Session.didClose uri) fun _ after => after = .idle
  := by
  use rfl
  intro s fits
  use .closed uri, .close uri, .idle, .clear
  rfl

end Scene

end TemplateLint
