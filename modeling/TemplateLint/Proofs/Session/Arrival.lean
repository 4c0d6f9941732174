import TemplateLint.Proofs.Session.Duty
import TemplateLint.Proofs.Session.Edits

/-!
# The arrival of the linter

The linter is installed while a session waits for it, and documents are opened and changed at
the same time.  A job that stores a document looks for the linter after that, and the job that
brings the linter lists the documents after that, so no document is missed by both: as soon as
there is a linter, what is stored was checked and published, or some job owes it a
validation.  When all jobs have ended, none owes anything, and the session is ready.
-/

namespace TemplateLint

namespace Message

/-- Whether a message opens or changes a document. -/
def stores : Message → Bool
  | opened _ => true
  | changed _ _ _ => true
  | _ => false

/-- Whether a message names the manifest among files that were changed. -/
def namesManifest : Message → Bool
  | files uris => (uris.filterMap Uri.lastSegment?).contains Package.manifestName
  | _ => false

end Message

/-- Whether what comes next is a message that names the manifest. -/
def Happening.calls : Happening → Bool
  | comes message => message.namesManifest
  | resumes _ => false

namespace Duty

/-- Whether a job owes a document a validation, if there is a linter. -/
def Owes (document : Document) : Duty → Prop
  | coming other => document = other
  | arriving => True
  | equipped => True
  | listing _ => True
  | owing _ documents => document ∈ documents
  | judged _ other _ rest => document = other ∨ document ∈ rest
  | current _ other _ rest => document = other ∨ document ∈ rest
  | _ => False

/-- Whether a job is about to make the session ready. -/
def Brings : Duty → Prop
  | called => True
  | bringing => True
  | arriving => True
  | _ => False

/-- Whether the check of a document that a job is about to publish was asked for. -/
def Checked (events : List Event) : Duty → Prop
  | judged _ document options _ =>
    (options, document.text, document.checkPath) ∈ Event.checks events
  | current _ document options _ =>
    (options, document.text, document.checkPath) ∈ Event.checks events
  | _ => True

variable {duty : Duty}

theorem not_owes_of_rests (rests : duty.Rests) (document : Document) :
  ¬ duty.Owes document
  := by
  cases duty with
  | idle => exact id
  | owing engine documents =>
    cases documents with
    | nil => exact List.not_mem_nil
    | cons => cases rests
  | _ => cases rests

theorem not_brings_of_rests (rests : duty.Rests) :
  ¬ duty.Brings
  := by
  cases duty with
  | idle => exact id
  | owing => exact id
  | _ => cases rests

theorem Checked.append {events : List Event} (checked : duty.Checked events)
    (more : List Event) :
  duty.Checked (events ++ more)
  := by
  cases duty with
  | judged =>
    rw [Checked, Event.checks_append]
    apply List.mem_append_left _ checked
  | current =>
    rw [Checked, Event.checks_append]
    apply List.mem_append_left _ checked
  | _ => trivial

end Duty

namespace Arrival

variable {c : Arrival} {s next : Session} {duty after : Duty}

/-! ### The shared state -/

/-- Whether a state has as many engines as another one, or more, and a linter if that one
has. -/
structure Extends (s next : Session) : Prop where
  engines : s.engines.length ≤ next.engines.length
  linter : s.linter ≠ none → next.linter ≠ none

theorem Extends.of_eq (engines : next.engines.length = s.engines.length)
    (linter : next.linter = s.linter) :
  Extends s next
  := ⟨engines.ge, fun present => linter ▸ present⟩

/-- What is true while a job waits stays true when another one goes on, and what is true
while it must not wait stays so as long as the documents do. -/
theorem Extends.fits (ext : Extends s next) (kept : duty.Waits ∨ next.documents = s.documents)
    (apt : duty.Fits s) :
  duty.Fits next
  := by
  cases duty with
  | arriving => apply ext.linter apt
  | equipped => apply ext.linter apt
  | listing => apply apt.trans_le ext.engines
  | owing => apply apt.trans_le ext.engines
  | judged => apply apt.trans_le ext.engines
  | current =>
    rcases kept with waits | same
    · cases waits
    · rw [Duty.Fits, same]
      exact ⟨apt.1.trans_le ext.engines, apt.2⟩
  | _ => trivial

/-- A state fits as long as it differs only in how engines are used. -/
theorem Fits.changeEngine (fits : c.Fits s) (engine : Nat) {change : Engine → Engine}
    (same : ∀ e, (change e).check = e.check) :
  c.Fits (s.changeEngine engine change)
  := by
  refine { fits with engines := ?_, linked := fits.linked.changeEngine engine change }
  intro e present
  obtain ⟨i, here⟩ := List.mem_iff_getElem?.mp present
  rw [Session.changeEngine, List.getElem?_modify] at here
  obtain ⟨old, found, rfl⟩ := Option.map_eq_some_iff.mp here
  have computes := fits.engines old (List.mem_of_getElem? found)
  split
  · intro options text path
    rw [same]
    apply computes
  · apply computes

/-- Every access of a job leads to a state that fits. -/
theorem Access.fits (access : c.Access duty s next after) (fits : c.Fits s)
    (apt : duty.Fits s) :
  c.Fits next
  := by
  cases access with
  | keep => exact { fits with }
  | store document documents keyed => exact { fits with keyed := keyed }
  | bring computes =>
    refine { fits with engines := ?_, linked := ?_, phase := ?_ }
    · intro e present
      rcases List.mem_append.mp present with present | present
      · apply fits.engines e present
      · obtain rfl := List.mem_singleton.mp present
        intro options text path
        apply computes
    · apply (Session.grows_addEngine s _).linked fits.linked
    · apply fits.phase.imp_right
      rintro ⟨phase, -⟩
      use phase
      simp [Session.addEngine]
  | arrive => exact { fits with phase := .inr ⟨rfl, apt⟩ }
  | _ => apply fits

/-- What is to be true with the duty that the job has then is true in it. -/
theorem Access.apt (access : c.Access duty s next after) (fits : c.Fits s)
    (apt : duty.Fits s) :
  after.Fits next
  := by
  cases access with
  | read => apply apt
  | keep => apply (Extends.of_eq rfl rfl).fits (.inr rfl) apt
  | store document =>
    rw [Duty.stored]
    split
    · trivial
    · trivial
  | find linter => apply fits.linked _ linter
  | link linter => apply fits.linked _ linter
  | late phase =>
    rcases fits.phase with waiting | ⟨-, present⟩
    · rw [phase] at waiting
      cases waiting
    · apply present
  | bring =>
    change (Session.addEngine s _).linter ≠ none
    simp [Session.addEngine]
  | confirm current => exact ⟨apt, current⟩
  | miss => trivial
  | wait => trivial
  | _ => apply apt

theorem Access.extends (access : c.Access duty s next after) :
  Extends s next
  := by
  cases access with
  | bring =>
    constructor
    · simp [Session.addEngine]
    · simp [Session.addEngine]
  | _ => exact .of_eq rfl rfl

/-! ### Documents -/

/-- Whether the text of a document was checked, under its URI, and what this check has come
to was published last for the URI. -/
def Seen (c : Arrival) (events : List Event) (uri : Uri) (document : Document) : Prop :=
  ∃ checked options, checked.uri.text = uri.text ∧ checked.text = document.text
    ∧ (options, checked.text, checked.checkPath) ∈ Event.checks events
    ∧ Event.lastPublished events uri = some (c.lint.diagnostics checked options)

variable {events more : List Event} {uri : Uri} {document : Document}

/-- What is seen stays so as long as nothing else is published for the URI. -/
theorem Seen.append (seen : c.Seen events uri document)
    (unpublished : Event.lastPublished more uri = none) :
  c.Seen (events ++ more) uri document
  := by
  obtain ⟨checked, options, same, text, asked, published⟩ := seen
  refine ⟨checked, options, same, text, ?_, ?_⟩
  · rw [Event.checks_append]
    apply List.mem_append_left _ asked
  · rw [Event.lastPublished_append_none unpublished, published]

variable {stages : Nat → Duty} {i : Nat}

/-- Whether each template that is stored is seen, or some job owes it a validation. -/
def Covers (c : Arrival) (documents : Store) (events : List Event) (stages : Nat → Duty) :
    Prop :=
  ∀ uri document, documents.get? uri = some document → document.isTemplate = true →
    c.Seen events uri document ∨ ∃ i, (stages i).Owes document

variable {documents : Store}

/-- Documents stay covered when a job goes on to owe what it owed of them. -/
theorem Covers.go (covers : c.Covers documents events stages) (keyed : documents.WellKeyed)
    (owes : ∀ document, documents.isCurrent document = true → (stages i).Owes document →
      after.Owes document) :
  c.Covers documents events (Function.update stages i after)
  := by
  intro uri document stored template
  apply (covers uri document stored template).imp_right
  apply Scene.exists_update
  apply owes
  apply Store.isCurrent_of_get?
  rw [Store.get?_congr (keyed.uri_eq stored), stored]

/-- They stay so as long as nothing is published. -/
theorem Covers.unpublished (covers : c.Covers documents events stages)
    (unpublished : ∀ uri, Event.lastPublished more uri = none) :
  c.Covers documents (events ++ more) stages
  := by
  intro uri document stored template
  apply (covers uri document stored template).imp_left
  intro seen
  apply seen.append (unpublished uri)

/-- All documents are covered by a job that owes every one. -/
theorem covers_of_owes (owes : ∀ uri document, documents.get? uri = some document →
      document.isTemplate = true → after.Owes document) :
  c.Covers documents events (Function.update stages i after)
  := by
  intro uri document stored template
  right
  use i
  rw [Function.update_self]
  apply owes uri document stored template

/-- A job owes what it stores. -/
theorem Covers.store (covers : c.Covers documents events stages) (idle : stages i = .idle)
    {stored : Store} (get? : ∀ uri, stored.get? uri
      = if uri.text = document.uri.text then some document else documents.get? uri) :
  c.Covers stored events (Function.update stages i (.stored document))
  := by
  intro uri other found template
  rw [get?] at found
  split at found
  · obtain rfl := Option.some.inj found
    right
    use i
    rw [Function.update_self, Duty.stored, if_pos template]
    rfl
  · apply (covers uri other found template).imp_right
    apply Scene.exists_update
    rw [idle]
    exact False.elim

/-- What a job publishes of a document that was checked and is still stored is seen. -/
theorem Covers.publish (covers : c.Covers documents events stages)
    (keyed : documents.WellKeyed) {engine : Nat} {options : Options} {rest : List Document}
    (current : stages i = .current engine document options rest)
    (stored : documents.isCurrent document = true)
    (checked : (options, document.text, document.checkPath) ∈ Event.checks events) :
  c.Covers documents
    (events ++ [.published document.uri (c.lint.diagnostics document options)
      document.version])
    (Function.update stages i (.owing engine rest))
  := by
  intro uri other found template
  by_cases same : document.uri.text = uri.text
  · left
    obtain ⟨held, here, -, text⟩ := (Store.isCurrent_iff _ _).mp stored
    rw [Store.get?_congr same, found] at here
    obtain rfl := Option.some.inj here
    refine ⟨document, options, same, text.symm, ?_, ?_⟩
    · rw [Event.checks_append]
      apply List.mem_append_left _ checked
    · rw [Event.lastPublished_append_published, if_pos same]
  · have unpublished : Event.lastPublished [.published document.uri
        (c.lint.diagnostics document options) document.version] uri = none := by
      rw [← List.nil_append [_], Event.lastPublished_append_published, if_neg same]
      rfl
    apply (covers uri other found template).imp
    · intro seen
      apply seen.append unpublished
    · apply Scene.exists_update
      rw [current]
      rintro (rfl | owes)
      · cases same (keyed.uri_eq found)
      · apply owes

/-! ### Steps of jobs -/

/-- What holds of the shared state, of the events and of the duties of all jobs: as soon as
there is a linter, all documents are covered, and if the linter was called for, the session is
ready or will be. -/
structure Sound (c : Arrival) (came : Prop) (s : Session) (events : List Event)
    (stages : Nat → Duty) : Prop where
  fits : c.Fits s
  apt : ∀ i, (stages i).Fits s
  checked : ∀ i, (stages i).Checked events
  covers : s.linter ≠ none → c.Covers s.documents events stages
  brought : came → s.phase = .ready ∨ ∃ i, (stages i).Brings

variable {came : Prop}

theorem Access.checked (access : c.Access duty s next after) (checked : duty.Checked events) :
  after.Checked events
  := by
  cases access with
  | read => apply checked
  | keep => apply checked
  | confirm => apply checked
  | store document =>
    rw [Duty.stored]
    split
    · trivial
    · trivial
  | _ => trivial

/-- An access keeps what is covered.  Without a linter nothing is owed, and the job that brings
one owes everything that is stored. -/
theorem Access.covers (access : c.Access (stages i) s next after)
    (sound : c.Sound came s events stages) (present : next.linter ≠ none) :
  c.Covers next.documents events (Function.update stages i after)
  := by
  have keyed := sound.fits.keyed
  generalize here : stages i = duty at access
  have go (owes : ∀ document, s.documents.isCurrent document = true → duty.Owes document →
      after.Owes document) (linter : s.linter ≠ none) :
      c.Covers s.documents events (Function.update stages i after) := by
    apply (sound.covers linter).go keyed
    rw [here]
    apply owes
  cases access with
  | read => apply go (fun _ _ => id) present
  | keep => apply go (fun _ _ => id) present
  | store document documents _ get? => apply (sound.covers present).store here get?
  | miss linter => cases present linter
  | bring =>
    apply covers_of_owes
    intro _ _ _ _
    trivial
  | find =>
    apply go _ present
    rintro document _ rfl
    apply List.mem_singleton_self
  | list =>
    apply covers_of_owes
    intro uri document stored template
    apply List.mem_filter.mpr
    refine ⟨?_, template⟩
    rw [keyed.mem_all, Store.get?_congr (keyed.uri_eq stored), stored]
  | confirm => apply go (fun _ _ => id) present
  | drop outdated =>
    apply go _ present
    rintro document current (rfl | owes)
    · rw [outdated] at current
      cases current
    · apply owes
  | wait => apply go (fun _ _ => False.elim) present
  | late => apply go (fun _ _ => False.elim) present
  | arrive => apply go (fun _ _ _ => trivial) present
  | link => apply go (fun _ _ _ => trivial) present

/-- The session goes on to be ready, or to have a job that makes it so. -/
theorem brought_update (brought : s.phase = .ready ∨ ∃ i, (stages i).Brings)
    (brings : (stages i).Brings → after.Brings) :
  s.phase = .ready ∨ ∃ j, (Function.update stages i after j).Brings
  := by
  apply brought.imp_right
  apply Scene.exists_update brings

theorem Access.brought (access : c.Access (stages i) s next after)
    (brought : s.phase = .ready ∨ ∃ i, (stages i).Brings) :
  next.phase = .ready ∨ ∃ j, (Function.update stages i after j).Brings
  := by
  generalize here : stages i = duty at access
  have go (phase : next.phase = s.phase) (brings : duty.Brings → after.Brings) :
      next.phase = .ready ∨ ∃ j, (Function.update stages i after j).Brings := by
    rw [phase]
    apply brought_update brought
    rw [here]
    apply brings
  cases access with
  | arrive =>
    left
    rfl
  | late phase =>
    left
    apply phase
  | read => apply go rfl id
  | keep => apply go rfl id
  | wait => apply go rfl fun _ => trivial
  | bring => apply go rfl fun _ => trivial
  | _ => apply go rfl False.elim

theorem Access.sound (access : c.Access (stages i) s next after)
    (sound : c.Sound came s events stages) (others : ∀ j, j ≠ i → (stages j).Waits) :
  c.Sound came next events (Function.update stages i after)
  where
  fits := access.fits sound.fits (sound.apt i)
  apt := by
    apply (Function.forall_update_iff stages fun _ duty => duty.Fits next).mpr
    use access.apt sound.fits (sound.apt i)
    intro j differ
    apply access.extends.fits (.inl (others j differ)) (sound.apt j)
  checked := Scene.forall_update sound.checked (access.checked (sound.checked i))
  covers := access.covers sound
  brought called := access.brought (sound.brought called)

/-- How an engine is used matters to no other job. -/
theorem Sound.changeEngine (sound : c.Sound came s events stages) (engine : Nat)
    {change : Engine → Engine} (same : ∀ e, (change e).check = e.check) :
  c.Sound came (s.changeEngine engine change) events stages
  where
  fits := sound.fits.changeEngine engine same
  apt i := by
    have same : Extends s (s.changeEngine engine change) :=
      .of_eq (Session.length_changeEngine s engine change) rfl
    apply same.fits (.inr rfl) (sound.apt i)
  checked := sound.checked
  covers := sound.covers
  brought := sound.brought

/-- What a job owes a check is judged by it. -/
theorem Check.sound {options : Options} {text : String} {path : Path}
    {problems : Except Failure (List Problem)}
    (check : c.Check (stages i) options text path problems after)
    (sound : c.Sound came s events stages) :
  c.Sound came s (events ++ [.checking options text path]) (Function.update stages i after)
  := by
  have apt := sound.apt i
  generalize here : stages i = duty at check apt
  obtain ⟨⟩ := check
  constructor
  · apply sound.fits
  · apply Scene.forall_update sound.apt
    apply apt
  · apply Scene.forall_update
    · intro j
      apply (sound.checked j).append
    · rw [Duty.Checked, Event.checks_append]
      apply List.mem_append_right _ (List.mem_singleton_self _)
  · intro present
    apply Covers.unpublished
    · apply (sound.covers present).go sound.fits.keyed
      rw [here]
      intro document _
      apply List.mem_cons.mp
    · intro uri
      rfl
  · intro called
    apply brought_update (sound.brought called)
    rw [here]
    exact id

theorem Tell.sound {event : Event} (tell : c.Tell (stages i) event after)
    (sound : c.Sound came s events stages) :
  c.Sound came s (events ++ [event]) (Function.update stages i after)
  := by
  have checked (j : Nat) := (sound.checked j).append [event]
  have apt := sound.apt i
  have asked := sound.checked i
  generalize here : stages i = duty at tell apt asked
  cases tell with
  | aside mute =>
    rw [← here, Function.update_eq_self]
    refine ⟨sound.fits, sound.apt, checked, ?_, sound.brought⟩
    intro present
    apply (sound.covers present).unpublished
    apply Event.lastPublished_mute
    simpa using mute
  | publish =>
    constructor
    · apply sound.fits
    · apply Scene.forall_update sound.apt
      apply apt.1
    · apply Scene.forall_update checked
      trivial
    · intro present
      apply (sound.covers present).publish sound.fits.keyed here apt.2 asked
    · intro called
      apply brought_update (sound.brought called)
      rw [here]
      exact id

/-- Every step of a job keeps what holds. -/
theorem keeps_sound (c : Arrival) (came : Prop) :
  c.discipline.Keeps (c.Sound came)
  where
  fits sound i := ⟨sound.fits, sound.apt i⟩
  step := by
    intro s events stages i more after next sound others step
    cases step with
    | access access =>
      rw [List.append_nil]
      apply Access.sound access sound others
    | change s change =>
      rw [List.append_nil]
      obtain ⟨engine, change, same⟩ := change
      rw [Function.update_eq_self]
      apply sound.changeEngine engine same
    | take free take =>
      obtain rfl := take
      rw [List.append_nil, Function.update_eq_self]
      apply sound.changeEngine
      intro e
      rfl
    | check s check => apply Check.sound check sound
    | tell s tell => apply Tell.sound tell sound

/-! ### Messages -/

/-- The duty with which the job for a message begins. -/
def firstDuty (message : Message) : Duty := if message.namesManifest then .called else .idle

/-- The job for a message that stores a document or names the manifest keeps its duties. -/
theorem attends_message (installed : c.Installed) {message : Message}
    (suits : message.stores = true ∨ message.namesManifest = true) :
  c.discipline.Attends (firstDuty message) (message.job c.setup)
  := by
  cases message with
  | opened document => apply follows_didOpen
  | changed uri version texts => apply follows_didChange
  | files uris =>
    obtain named := suits.resolve_left Bool.false_ne_true
    rw [firstDuty, if_pos named]
    apply follows_didChangeFiles installed
    simpa [Message.namesManifest] using named
  | _ => simp [Message.stores, Message.namesManifest] at suits

/-- A job that begins in the place of one that owes nothing keeps what holds, and may have
been called for the linter. -/
theorem Sound.begin (sound : c.Sound came s events stages) (rests : (stages i).Rests)
    (message : Message) :
  c.Sound (came ∨ message.namesManifest = true) s events
    (Function.update stages i (firstDuty message))
  := by
  have free : (firstDuty message).Fits s ∧ (firstDuty message).Checked events := by
    rw [firstDuty]
    split
    · exact ⟨trivial, trivial⟩
    · exact ⟨trivial, trivial⟩
  refine ⟨sound.fits, Scene.forall_update sound.apt free.1,
    Scene.forall_update sound.checked free.2, ?_, ?_⟩
  · intro present
    apply (sound.covers present).go sound.fits.keyed
    intro document _ owes
    cases Duty.not_owes_of_rests rests document owes
  · rintro (called | named)
    · apply brought_update (sound.brought called)
      intro brings
      cases Duty.not_brings_of_rests rests brings
    · right
      use i
      rw [Function.update_self, firstDuty, if_pos named]
      trivial

variable {p : Pool}

/-- Whatever comes next, what holds is kept, and it is known whether the linter was called
for. -/
theorem governs_move (installed : c.Installed)
    (governs : c.discipline.Governs (c.Sound came) p stages) {happening : Happening}
    (suits : ∀ message, happening = .comes message →
      message.stores = true ∨ message.namesManifest = true) :
  ∃ stages, c.discipline.Governs (c.Sound (came ∨ happening.calls = true))
    (p.move (happening.move c.setup)) stages
  := by
  cases happening with
  | comes message =>
    apply governs.start (keeps_sound c _) (attends_message installed (suits message rfl))
    intro i rests
    apply governs.holds.begin rests message
  | resumes position =>
    simp only [Happening.calls, Bool.false_eq_true, or_false]
    apply governs.resume (keeps_sound c came)

theorem governs_play (installed : c.Installed)
    (governs : c.discipline.Governs (c.Sound came) p stages) {happenings : List Happening}
    (suits : ∀ message, .comes message ∈ happenings →
      message.stores = true ∨ message.namesManifest = true) :
  ∃ stages, c.discipline.Governs (c.Sound (came ∨ ∃ h ∈ happenings, h.calls = true))
    (p.play (happenings.map (Happening.move c.setup))) stages
  := by
  induction happenings generalizing p came stages with
  | nil =>
    use stages
    simp only [List.not_mem_nil, false_and, exists_false, or_false]
    apply governs
  | cons happening rest ih =>
    obtain ⟨stages, governs⟩ := governs_move installed governs fun message same =>
      suits message (same ▸ List.mem_cons_self)
    obtain ⟨stages, governs⟩ := ih governs fun message present =>
      suits message (List.mem_cons_of_mem _ present)
    use stages
    simp only [List.exists_mem_cons_iff, ← or_assoc]
    apply governs

/-- A session that waits for the linter, and validates documents when they change. -/
structure Waiting (c : Arrival) (s : Session) : Prop where
  phase : s.phase = .awaitingPackage
  linter : s.linter = none
  engines : s.engines = []
  root : s.root = some c.root
  prompt : s.settings.Prompt
  keyed : s.documents.WellKeyed

theorem governs_first (waiting : c.Waiting s) :
  c.discipline.Governs (c.Sound False) (Pool.ofSession c.answer s) fun _ => .idle
  where
  answer := rfl
  holds := by
    constructor
    · refine ⟨⟨waiting.prompt.enable, waiting.prompt.run⟩, waiting.root, ?_, ?_, waiting.keyed,
        .inl waiting.phase⟩
      · intro e present
        rw [Pool.ofSession, waiting.engines] at present
        cases present
      · intro engine linter
        rw [Pool.ofSession, waiting.linter] at linter
        cases linter
    · intro i
      trivial
    · intro i
      trivial
    · intro present
      cases present waiting.linter
    · exact False.elim
  waits i := trivial
  attends i job here := by cases here
  vacant i absent := trivial

/-- Let the linter be installed while a session waits for it, and let files be changed, the
manifest among them, while documents are opened and changed.  In whichever order the jobs go
on, when all have ended, the session is ready, and the text of each stored template was
checked, and what this check has come to was published last for its URI. -/
theorem seen_after_arrival (c : Arrival) (installed : c.Installed) {s : Session}
    (waiting : c.Waiting s) {happenings : List Happening}
    (suits : ∀ message, .comes message ∈ happenings →
      message.stores = true ∨ message.namesManifest = true)
    (called : ∃ happening ∈ happenings, happening.calls = true) :
  let after := (Pool.ofSession c.answer s).play (happenings.map (Happening.move c.setup))
  after.isQuiet = true →
    after.session.phase = .ready
      ∧ ∀ uri document, after.session.documents.get? uri = some document →
        document.isTemplate = true → c.Seen after.events uri document
  := by
  intro after quiet
  obtain ⟨stages, governs⟩ := governs_play installed (governs_first waiting) suits
  have sound := governs.holds
  have rests := governs.rests quiet
  have ready : after.session.phase = .ready := by
    rcases sound.brought (.inr called) with ready | ⟨i, brings⟩
    · apply ready
    · cases Duty.not_brings_of_rests (rests i) brings
  use ready
  intro uri document stored template
  have present : after.session.linter ≠ none := by
    rcases sound.fits.phase with waits | ⟨-, present⟩
    · rw [ready] at waits
      cases waits
    · apply present
  rcases sound.covers present uri document stored template with seen | ⟨i, owes⟩
  · apply seen
  · cases Duty.not_owes_of_rests (rests i) document owes

/-- The sample workspace, in which the linter is installed. -/
def sample : Arrival where
  setup := Sample.setup
  answer := Sample.answer (some Sample.manifest)
  root := Path.ofText "/w"
  lint options _ _ := Sample.lint options.members

/-- A session that waits for the linter in the sample workspace. -/
def sampleSession : Session :=
  { Session.start with phase := .awaitingPackage, root := some (Path.ofText "/w") }

/-- A template is opened, and looks for the linter before it is there; then files are changed,
and while the linter is put in its place, the template is changed. -/
def sampleHappenings : List Happening :=
  [.comes (.opened Sample.document), .resumes 0, .resumes 0, .resumes 0,
    .comes (.files [Sample.manifestUri]), .resumes 1, .resumes 1,
    .comes (.changed Sample.document.uri 2 ["q"]), .resumes 2, .resumes 2, .resumes 1]
    ++ (List.replicate 25 [.resumes 1, .resumes 2]).flatten

/-- The pool of the sample in the end. -/
def samplePool : Pool :=
  (Pool.ofSession sample.answer sampleSession).play
    (sampleHappenings.map (Happening.move sample.setup))

theorem seen_in_sampleArrival :
  samplePool.session.phase = .ready
    ∧ sample.Seen samplePool.events Sample.document.uri
      { Sample.document with version := some 2, text := "q" }
  := by
  have installed : sample.Installed := by
    obtain ⟨package, located⟩ := Option.isSome_iff_exists.mp
      (show ((sample.setup.locator.locate Package.linterName sample.root).run
        sample.answer).isSome = true by decide +kernel)
    refine ⟨package, fun options _ _ => pure (.ok (Sample.lint options.members)), ?_, ?_⟩
    · apply Setup.attempt_eq_loaded.mpr
      use located
      rfl
    · intro options text path
      rfl
  have waiting : sample.Waiting sampleSession :=
    ⟨rfl, rfl, rfl, rfl, ⟨by decide, by decide⟩, Store.wellKeyed_empty⟩
  have suits (message : Message) (present : .comes message ∈ sampleHappenings) :
      message.stores = true ∨ message.namesManifest = true := by
    simp only [sampleHappenings, List.reduceReplicate, List.flatten_cons, List.flatten_nil,
      List.append_nil, List.cons_append, List.nil_append, List.mem_cons,
      Happening.comes.injEq, reduceCtorEq, List.not_mem_nil, or_self, or_false,
      false_or] at present
    rcases present with rfl | rfl | rfl
    · left
      rfl
    · right
      decide +kernel
    · left
      rfl
  have called : ∃ happening ∈ sampleHappenings, happening.calls = true := by
    use .comes (.files [Sample.manifestUri]), by simp [sampleHappenings]
    decide +kernel
  have quiet : samplePool.isQuiet = true := by decide +kernel
  obtain ⟨ready, seen⟩ := seen_after_arrival sample installed waiting suits called quiet
  rw [samplePool]
  use ready
  apply seen
  · decide +kernel
  · decide +kernel

end Arrival

end TemplateLint
