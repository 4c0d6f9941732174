import Mathlib.Logic.Function.Basic
import TemplateLint.Proofs.Session.Stage
import TemplateLint.Session.Pool

/-!
# Jobs beside each other

What holds of the shared state, of the events and of the stages of all jobs is kept by
every step of a job that follows its stages.  Only one job holds the linter, with the
options that it has configured.  For each template that is stored, the diagnostics of the
text that is stored are what was published last, or some job owes them.  Nothing is seen
under a URI that has no stored document.
-/

namespace TemplateLint

namespace Scene

variable {c : Scene} {s : Session}

/-! ### The shared state -/

/-- A state fits as long as it differs only in how engines are used. -/
theorem Fits.changeEngine (fits : c.Fits s) (engine : Nat) {change : Engine → Engine}
    (same : ∀ e, (change e).check = e.check) :
  c.Fits (s.changeEngine engine change)
  where
  settings := fits.settings
  linter := fits.linter
  root := fits.root
  computes := by
    obtain ⟨e, present, computes⟩ := fits.computes
    rw [Session.changeEngine, List.getElem?_modify, present]
    split
    · use change e, rfl
      intro options text path
      rw [same]
      apply computes
    · use e, rfl
  kept := fits.kept
  keyed := fits.keyed
  documents := fits.documents

/-- A state fits if it keeps the options that files give for a further directory. -/
theorem Fits.keep (fits : c.Fits s) {document : Document} (opened : c.opened document.uri)
    (editor : c.first.settings.inlineOptions = none) :
  c.Fits
    { s with cache := s.cache.insert (c.first.directory document) (c.fileOptions document) }
  where
  settings := fits.settings
  linter := fits.linter
  root := fits.root
  computes := fits.computes
  kept := by
    intro other options opened' inForce
    rw [Session.InForce, fits.settings, editor] at inForce
    dsimp only [Session.directory] at inForce
    rw [Cache.get?_insert] at inForce
    split at inForce
    · rename_i same
      obtain rfl := Option.some.inj inForce
      rw [fits.root] at same
      right
      use editor, document, opened, same
    · apply fits.kept other options opened'
      rw [Session.InForce, fits.settings, editor]
      apply inForce
  keyed := fits.keyed
  documents := fits.documents

/-- A state fits with other documents, if they are open under known URIs. -/
theorem Fits.store (fits : c.Fits s) {documents : Store} (keyed : documents.WellKeyed)
    (opened : ∀ uri document, documents.get? uri = some document → c.opened document.uri) :
  c.Fits { s with documents := documents }
  := ⟨fits.settings, fits.linter, fits.root, fits.computes, fits.kept, keyed, opened⟩

/-- Every access of a job leads to a state that fits. -/
theorem Access.fits {stage after : Stage} {next : Session} (fits : c.Fits s)
    (access : c.Access stage s next after) :
  c.Fits next
  := by
  cases access with
  | read => apply fits
  | keep document opened editor => apply fits.keep opened editor
  | store document documents opened keyed get? =>
    apply fits.store keyed
    intro uri other found
    rw [get?] at found
    split at found
    · obtain rfl := Option.some.inj found
      apply opened
    · apply fits.documents uri other found
  | close uri =>
    apply fits.store (fits.keyed.close uri)
    intro other document found
    rw [Store.get?_close] at found
    split at found
    · cases found
    · apply fits.documents other document found
  | confirm => apply fits
  | drop => apply fits

/-- So does every change of how the engine is used. -/
theorem Change.fits {stage after : Stage} {change : Session → Session} (fits : c.Fits s)
    (changes : c.Change stage change after) :
  c.Fits (change s)
  := by
  cases changes with
  | configure =>
    dsimp only
    rw [Session.configure]
    apply fits.changeEngine
    intro e
    rfl
  | giveBack =>
    dsimp only
    rw [Session.giveBack]
    apply fits.changeEngine
    intro e
    rfl

theorem Access.engines {stage after : Stage} {next : Session}
    (access : c.Access stage s next after) :
  next.engines = s.engines
  := by
  cases access with
  | _ => rfl

/-! ### The linter -/

section Update

variable {σ : Type} {stages : Nat → σ} {i : Nat} {stage : σ} {holds : σ → Prop}

/-- What holds of all stages goes on to hold if it holds of one that changes. -/
theorem forall_update (all : ∀ j, holds (stages j)) (here : holds stage) :
  ∀ j, holds (Function.update stages i stage j)
  := by
  rw [Function.forall_update_iff stages fun _ => holds]
  use here
  intro j _
  apply all

/-- What holds of some stage goes on to hold of some if one changes that keeps it. -/
theorem exists_update (here : holds (stages i) → holds stage)
    (present : ∃ j, holds (stages j)) :
  ∃ j, holds (Function.update stages i stage j)
  := by
  rw [Function.exists_update_iff stages fun _ => holds]
  obtain ⟨j, found⟩ := present
  by_cases same : j = i
  · subst same
    left
    apply here found
  · right
    use j

end Update

/-- Only one job holds the linter, which is taken then, with the options that the job has
configured. -/
structure Exclusive (c : Scene) (s : Session) (stages : Nat → Stage) : Prop where
  alone : ∀ i j, (stages i).holds = true → (stages j).holds = true → i = j
  taken : ∀ i, (stages i).holds = true → s.isFree c.engine = false
  configured : ∀ i document options, stages i = .holding document options →
    ∃ e, s.engines[c.engine]? = some e ∧ e.options = options

variable {stages : Nat → Stage} {i : Nat} {stage : Stage}

/-- A job that leaves the linter alone, or no longer holds it, leaves the others alone. -/
theorem Exclusive.leave (exclusive : c.Exclusive s stages) (free : stage.holds = false)
    {next : Session} (engines : next.engines = s.engines) :
  c.Exclusive next (Function.update stages i stage)
  where
  alone := by
    intro j k
    by_cases hj : j = i
    · subst hj
      simp [free]
    by_cases hk : k = i
    · subst hk
      simp [free]
    rw [Function.update_of_ne hj, Function.update_of_ne hk]
    apply exclusive.alone
  taken := by
    intro j
    by_cases hj : j = i
    · subst hj
      simp [free]
    rw [Function.update_of_ne hj, Session.isFree, engines]
    apply exclusive.taken
  configured := by
    intro j document options
    by_cases hj : j = i
    · subst hj
      rw [Function.update_self]
      rintro rfl
      cases free
    rw [Function.update_of_ne hj, engines]
    apply exclusive.configured

/-- As long as no other job holds the linter, a job may do with it what it likes. -/
theorem Exclusive.only {next : Session} (others : ∀ j, j ≠ i → (stages j).holds = false)
    (taken : stage.holds = true → next.isFree c.engine = false)
    (configured : ∀ document options, stage = .holding document options →
      ∃ e, next.engines[c.engine]? = some e ∧ e.options = options) :
  c.Exclusive next (Function.update stages i stage)
  where
  alone := by
    have here j (holds : (Function.update stages i stage j).holds = true) : j = i := by
      by_contra differ
      rw [Function.update_of_ne differ, others j differ] at holds
      cases holds
    intro j k hj hk
    rw [here j hj, here k hk]
  taken := by
    intro j
    by_cases hj : j = i
    · subst hj
      rw [Function.update_self]
      apply taken
    rw [Function.update_of_ne hj, others j hj]
    intro holds
    cases holds
  configured := by
    intro j document options
    by_cases hj : j = i
    · subst hj
      rw [Function.update_self]
      apply configured
    rw [Function.update_of_ne hj]
    intro holding
    have free := others j hj
    rw [holding] at free
    cases free

/-- The linter is taken by one job at most. -/
theorem Exclusive.others (exclusive : c.Exclusive s stages) (holds : (stages i).holds = true) :
  ∀ j, j ≠ i → (stages j).holds = false
  := by
  intro j differ
  apply Bool.eq_false_iff.mpr
  intro holds'
  apply differ (exclusive.alone j i holds' holds)

/-- A linter that can be taken is held by no job. -/
theorem Exclusive.free (exclusive : c.Exclusive s stages) (free : s.isFree c.engine = true) :
  ∀ j, (stages j).holds = false
  := by
  intro j
  apply Bool.eq_false_iff.mpr
  intro holds
  rw [exclusive.taken j holds] at free
  cases free

/-- The linter that a job takes is taken. -/
theorem Fits.isFree_take (fits : c.Fits s) :
  (s.take c.engine).isFree c.engine = false
  := by
  obtain ⟨e, present, -⟩ := fits.computes
  simp [Session.isFree, Session.take, Session.changeEngine, present]

theorem isFree_configure (options : Options) :
  (s.configure c.engine options).isFree c.engine = s.isFree c.engine
  := by
  cases h : s.engines[c.engine]? with
  | none => simp [Session.isFree, Session.configure, Session.changeEngine, h]
  | some e => simp [Session.isFree, Session.configure, Session.changeEngine, h]

/-- No access of a job disturbs the one that holds the linter. -/
theorem Access.exclusive {after : Stage} {next : Session}
    (access : c.Access (stages i) s next after) (exclusive : c.Exclusive s stages) :
  c.Exclusive next (Function.update stages i after)
  := by
  apply exclusive.leave _ access.engines
  generalize stages i = stage at access
  cases access with
  | read rests => apply Stage.holds_of_rests rests
  | store document => apply Stage.holds_of_rests (Stage.rests_stored document)
  | _ => rfl

/-- The job that holds the linter configures it and gives it back. -/
theorem Change.exclusive {after : Stage} {change : Session → Session}
    (changes : c.Change (stages i) change after) (fits : c.Fits s)
    (exclusive : c.Exclusive s stages) :
  c.Exclusive (change s) (Function.update stages i after)
  := by
  generalize h : stages i = stage at changes
  have holds : (stages i).holds = true := by
    rw [h]
    cases changes with
    | _ => rfl
  have others := exclusive.others holds
  cases changes with
  | @configure document options opened offered =>
    apply Exclusive.only others
    · intro _
      dsimp only
      rw [isFree_configure]
      apply exclusive.taken i holds
    · intro _ _ same
      cases same
      obtain ⟨e, present, -⟩ := fits.computes
      use { e with options := options }
      simp [Session.configure, Session.changeEngine, present]
  | giveBack =>
    apply Exclusive.only others
    · intro holds
      cases holds
    · intro _ _ same
      cases same

/-! ### Documents and diagnostics -/

/-- Whether a stage fits the documents that are stored. -/
def Apt (c : Scene) (documents : Store) : Stage → Prop
  | .holding document options => c.opened document.uri ∧ c.Offered document options
  | .checked document options => c.opened document.uri ∧ c.Offered document options
  | .found document options => c.opened document.uri ∧ c.Offered document options
  | .current document options =>
    c.opened document.uri ∧ c.Offered document options ∧ documents.isCurrent document = true
  | .closed uri => documents.get? uri = none
  | _ => True

/-- Whether the diagnostics of a document, under options that it may be checked with, were
published last for a URI. -/
def Seen (c : Scene) (events : List Event) (uri : Uri) (document : Document) : Prop :=
  ∃ options, c.Offered document options
    ∧ Event.lastPublished events uri = some (c.lint.diagnostics document options)

/-- What holds of the stored documents, the events and the stages of all jobs, if the
documents under some URIs are asked to be closed.  The diagnostics of each stored template
are seen, or a job owes them.  Nothing is seen under a URI that has no stored document,
unless a job is about to clear it. -/
structure Displays (c : Scene) (asked : Uri → Prop) (documents : Store) (events : List Event)
    (stages : Nat → Stage) : Prop where
  apt : ∀ i, c.Apt documents (stages i)
  shown : ∀ uri document, documents.get? uri = some document → document.isTemplate = true →
    c.Seen events uri document ∨ ∃ i, (stages i).Owes document
  cleared : ∀ uri, documents.get? uri = none →
    Event.Cleared events uri ∨ ∃ i, (stages i).Clears uri
  answered : ∀ uri, asked uri →
    Event.lastPublished events uri ≠ none ∨ ∃ i, (stages i).Closes uri

variable {asked : Uri → Prop} {documents : Store} {events : List Event}

/-- A job goes from stage to stage while documents stay as they are and nothing is
published, if it goes on to owe what is stored and was not to close anything. -/
theorem Displays.go (displays : c.Displays asked documents events stages)
    (keyed : documents.WellKeyed) (apt : c.Apt documents stage)
    (owes : ∀ document, documents.isCurrent document = true → (stages i).Owes document →
      stage.Owes document)
    (opens : ∀ uri, ¬ (stages i).Closes uri) :
  c.Displays asked documents events (Function.update stages i stage)
  where
  apt := forall_update displays.apt apt
  shown uri document stored template := by
    apply (displays.shown uri document stored template).imp_right
    apply exists_update
    apply owes
    apply Store.isCurrent_of_get?
    rw [Store.get?_congr (keyed.uri_eq stored), stored]
  cleared uri absent := by
    apply (displays.cleared uri absent).imp_right
    apply exists_update
    intro clears
    obtain ⟨other, closes⟩ := Stage.closes_of_clears clears
    cases opens other closes
  answered uri ask := by
    apply (displays.answered uri ask).imp_right
    apply exists_update
    intro closes
    cases opens uri closes

/-- A stage at which a job may be when other jobs go on fits whatever is stored. -/
theorem Apt.of_waits {next : Store} (apt : c.Apt documents stage)
    (waits : stage.waits = true) :
  c.Apt next stage
  := by
  cases stage with
  | current => cases waits
  | closed => cases waits
  | _ => apply apt

/-- A job stores a document while no other one is about to publish or to clear
anything. -/
theorem Displays.store (displays : c.Displays asked documents events stages)
    (others : ∀ j, (stages j).waits = true) (idle : stages i = .idle) {document : Document}
    {next : Store}
    (get? : ∀ uri, next.get? uri
      = if uri.text = document.uri.text then some document else documents.get? uri) :
  c.Displays asked next events (Function.update stages i (.stored document))
  where
  apt := by
    apply forall_update
    · intro j
      apply (displays.apt j).of_waits (others j)
    · rw [Stage.stored]
      split
      · trivial
      · trivial
  shown uri other stored template := by
    rw [get?] at stored
    split at stored
    · obtain rfl := Option.some.inj stored
      right
      use i
      rw [Function.update_self, Stage.stored, if_pos template]
      rfl
    · apply (displays.shown uri other stored template).imp_right
      apply exists_update
      rw [idle]
      exact False.elim
  cleared uri absent := by
    rw [get?] at absent
    split at absent
    · cases absent
    · apply (displays.cleared uri absent).imp_right
      apply exists_update
      rw [idle]
      exact False.elim
  answered uri ask := by
    apply (displays.answered uri ask).imp_right
    apply exists_update
    rw [idle]
    exact False.elim

/-- A job closes a document, and is about to clear the URI then. -/
theorem Displays.close (displays : c.Displays asked documents events stages)
    (others : ∀ j, (stages j).waits = true) {uri : Uri} (closing : stages i = .closing uri) :
  c.Displays asked (documents.close uri) events (Function.update stages i (.closed uri))
  where
  apt := by
    apply forall_update
    · intro j
      apply (displays.apt j).of_waits (others j)
    · change (documents.close uri).get? uri = none
      rw [Store.get?_close, if_pos rfl]
  shown other document stored template := by
    rw [Store.get?_close] at stored
    split at stored
    · cases stored
    · apply (displays.shown other document stored template).imp_right
      apply exists_update
      rw [closing]
      exact False.elim
  cleared other absent := by
    rw [Store.get?_close] at absent
    split at absent
    · rename_i same
      right
      use i
      rw [Function.update_self]
      apply same.symm
    · apply (displays.cleared other absent).imp_right
      apply exists_update
      rw [closing]
      exact False.elim
  answered other ask := by
    apply (displays.answered other ask).imp_right
    apply exists_update
    rw [closing]
    exact id

/-- Mute events change nothing, and neither do checks. -/
theorem Displays.unpublished (displays : c.Displays asked documents events stages)
    {more : List Event} (unpublished : ∀ uri, Event.lastPublished more uri = none) :
  c.Displays asked documents (events ++ more) stages
  where
  apt := displays.apt
  shown uri document stored template := by
    rw [Seen, Event.lastPublished_append_none (unpublished uri)]
    apply displays.shown uri document stored template
  cleared uri absent := by
    rw [Event.Cleared, Event.lastPublished_append_none (unpublished uri)]
    apply displays.cleared uri absent
  answered uri ask := by
    rw [Event.lastPublished_append_none (unpublished uri)]
    apply displays.answered uri ask

/-- Whether two URIs under which documents may be open are the same if their texts are. -/
def Apart (c : Scene) : Prop :=
  ∀ first second : Uri, c.opened first → c.opened second → first.text = second.text →
    first = second

/-- What a document may be checked with depends on its URI, and so does the path. -/
theorem diagnostics_congr {first second : Document} (uri : first.uri = second.uri)
    (text : first.text = second.text) (options : Options) :
  c.lint.diagnostics first options = c.lint.diagnostics second options
  := by
  rw [Lint.diagnostics, Lint.diagnostics, Document.checkPath, Document.checkPath,
    Document.filePath?, Document.filePath?, Document.displayPath, Document.displayPath,
    Document.filePath?, Document.filePath?, uri, text]

theorem offered_congr {first second : Document} (uri : first.uri = second.uri)
    {options : Options} (offered : c.Offered first options) :
  c.Offered second options
  := by
  have directory : c.first.directory first = c.first.directory second := by
    rw [Session.directory, Session.directory, Session.directoryOf, Session.directoryOf,
      Document.filePath?, Document.filePath?, uri]
  rw [Offered, Session.InForce, directory] at offered
  apply offered

/-- What is stored in the place of a current document is that document, but perhaps for
its language. -/
theorem Fits.stored_of_current (fits : c.Fits s) (apart : c.Apart) {document : Document}
    (opened : c.opened document.uri) (current : s.documents.isCurrent document = true) :
  ∃ held, s.documents.get? document.uri = some held ∧ held.uri = document.uri
    ∧ held.version = document.version ∧ held.text = document.text
  := by
  obtain ⟨held, found, version, text⟩ := (Store.isCurrent_iff _ _).mp current
  use held, found
  use apart _ _ (fits.documents _ _ found) opened (fits.keyed.uri_eq found), version, text

/-- A job publishes the diagnostics of a document that is still stored. -/
theorem Displays.publish (displays : c.Displays asked s.documents events stages)
    (fits : c.Fits s) (apart : c.Apart) {document : Document} {options : Options}
    (current : stages i = .current document options) :
  c.Displays asked s.documents
    (events ++ [.published document.uri (c.lint.diagnostics document options)
      document.version])
    (Function.update stages i .idle)
  := by
  have apt := displays.apt i
  rw [current] at apt
  obtain ⟨opened, offered, here⟩ := apt
  obtain ⟨held, found, alike, version, text⟩ := fits.stored_of_current apart opened here
  constructor
  · apply forall_update displays.apt
    trivial
  · intro uri other stored template
    rw [Seen, Event.lastPublished_append_published]
    split
    · rename_i same
      left
      rw [Store.get?_congr same, stored] at found
      obtain rfl := Option.some.inj found
      use options, offered_congr alike.symm offered
      rw [diagnostics_congr alike text]
    · rename_i differ
      apply (displays.shown uri other stored template).imp_right
      apply exists_update
      rw [current]
      rintro rfl
      apply differ
      apply fits.keyed.uri_eq stored
  · intro uri absent
    rw [Event.Cleared, Event.lastPublished_append_published]
    split
    · rename_i same
      rw [Store.get?_congr same, absent] at found
      cases found
    · apply (displays.cleared uri absent).imp_right
      apply exists_update
      rw [current]
      exact False.elim
  · intro uri ask
    rw [Event.lastPublished_append_published]
    split
    · left
      simp
    · apply (displays.answered uri ask).imp_right
      apply exists_update
      rw [current]
      exact False.elim

/-- A job clears a URI that has no stored document. -/
theorem Displays.clear (displays : c.Displays asked documents events stages) {uri : Uri}
    (closed : stages i = .closed uri) :
  c.Displays asked documents (events ++ [.published uri [] none])
    (Function.update stages i .idle)
  := by
  have gone := displays.apt i
  rw [closed] at gone
  change documents.get? uri = none at gone
  constructor
  · apply forall_update displays.apt
    trivial
  · intro other document stored template
    rw [Seen, Event.lastPublished_append_published]
    split
    · rename_i same
      rw [Store.get?_congr same, stored] at gone
      cases gone
    · apply (displays.shown other document stored template).imp_right
      apply exists_update
      rw [closed]
      exact False.elim
  · intro other absent
    rw [Event.Cleared, Event.lastPublished_append_published]
    split
    · left
      intro diagnostics seen
      cases seen
      rfl
    · rename_i differ
      apply (displays.cleared other absent).imp_right
      apply exists_update
      rw [closed]
      intro clears
      cases differ clears
  · intro other ask
    rw [Event.lastPublished_append_published]
    split
    · left
      simp
    · rename_i differ
      apply (displays.answered other ask).imp_right
      apply exists_update
      rw [closed]
      rintro rfl
      cases differ rfl

/-! ### Steps of jobs -/

/-- What holds of the shared state, of the events and of the stages of all jobs. -/
structure Sound (c : Scene) (asked : Uri → Prop) (s : Session) (events : List Event)
    (stages : Nat → Stage) : Prop where
  fits : c.Fits s
  exclusive : c.Exclusive s stages
  displays : c.Displays asked s.documents events stages

/-- What may be published while documents are stored: an empty list for a URI that has no
stored document, or the diagnostics of the text that is stored, with its version. -/
def Genuine (c : Scene) (documents : Store) (event : Event) : Prop :=
  ∀ uri diagnostics version, event = .published uri diagnostics version →
    (diagnostics = [] ∧ documents.get? uri = none)
      ∨ ∃ document options, documents.get? uri = some document
        ∧ c.Offered document options ∧ version = document.version
        ∧ diagnostics = c.lint.diagnostics document options

theorem Access.sound {next : Session} {after : Stage}
    (access : c.Access (stages i) s next after) (sound : c.Sound asked s events stages)
    (others : ∀ j, (stages j).waits = true) :
  c.Sound asked next events (Function.update stages i after)
  where
  fits := access.fits sound.fits
  exclusive := access.exclusive sound.exclusive
  displays := by
    generalize here : stages i = stage at access
    cases access with
    | read =>
      rw [← here, Function.update_eq_self]
      apply sound.displays
    | keep =>
      rw [← here, Function.update_eq_self]
      apply sound.displays
    | store document documents opened keyed get? =>
      apply sound.displays.store others here get?
    | close uri => apply sound.displays.close others here
    | @confirm _ document options current =>
      have apt := sound.displays.apt i
      rw [here] at apt
      refine sound.displays.go sound.fits.keyed ⟨apt.1, apt.2, current⟩ ?_ ?_
      · rw [here]
        exact fun _ _ => id
      · rw [here]
        exact fun _ => id
    | @drop _ document options outdated =>
      refine sound.displays.go sound.fits.keyed trivial ?_ ?_
      · rw [here]
        rintro _ current rfl
        rw [outdated] at current
        cases current
      · rw [here]
        exact fun _ => id

/-- How an engine is used changes no documents. -/
theorem Change.documents_eq {after : Stage} {change : Session → Session}
    (changes : c.Change stage change after) (s : Session) :
  (change s).documents = s.documents
  := by
  cases changes with
  | _ => rfl

theorem Change.sound {change : Session → Session} {after : Stage}
    (changes : c.Change (stages i) change after) (sound : c.Sound asked s events stages) :
  c.Sound asked (change s) events (Function.update stages i after)
  where
  fits := changes.fits sound.fits
  exclusive := changes.exclusive sound.fits sound.exclusive
  displays := by
    rw [changes.documents_eq]
    generalize here : stages i = stage at changes
    cases changes with
    | @configure document options opened offered =>
      refine sound.displays.go sound.fits.keyed ⟨opened, offered⟩ ?_ ?_
      · rw [here]
        exact fun _ _ => id
      · rw [here]
        exact fun _ => id
    | @giveBack document options =>
      have apt := sound.displays.apt i
      rw [here] at apt
      refine sound.displays.go sound.fits.keyed apt ?_ ?_
      · rw [here]
        exact fun _ _ => id
      · rw [here]
        exact fun _ => id

theorem Tell.sound {event : Event} {after : Stage} (tell : c.Tell (stages i) event after)
    (sound : c.Sound asked s events stages) (apart : c.Apart) :
  c.Sound asked s (events ++ [event]) (Function.update stages i after)
  := by
  generalize here : stages i = stage at tell
  cases tell with
  | aside mute =>
    rw [← here, Function.update_eq_self]
    use sound.fits, sound.exclusive
    apply sound.displays.unpublished
    apply Event.lastPublished_mute
    simpa using mute
  | publish =>
    use sound.fits, sound.exclusive.leave rfl rfl
    apply sound.displays.publish sound.fits apart here
  | clear =>
    use sound.fits, sound.exclusive.leave rfl rfl
    apply sound.displays.clear here

theorem Tell.genuine {event : Event} {after : Stage} (tell : c.Tell (stages i) event after)
    (sound : c.Sound asked s events stages) (apart : c.Apart) :
  c.Genuine s.documents event
  := by
  rintro uri diagnostics version rfl
  have apt := sound.displays.apt i
  generalize stages i = stage at tell apt
  cases tell with
  | aside mute => cases mute
  | @publish document options =>
    obtain ⟨opened, offered, current⟩ := apt
    obtain ⟨held, found, alike, version, text⟩ :=
      sound.fits.stored_of_current apart opened current
    right
    use held, options, found, offered_congr alike.symm offered, version.symm
    apply diagnostics_congr alike.symm text.symm
  | clear =>
    left
    use rfl
    apply apt

/-- A job takes the linter that no other one holds. -/
theorem Sound.take (sound : c.Sound asked s events stages) {document : Document}
    (owing : stages i = .owing document) (free : s.isFree c.engine = true) :
  c.Sound asked (s.take c.engine) events (Function.update stages i (.taking document))
  where
  fits := by
    rw [Session.take]
    apply sound.fits.changeEngine
    intro e
    rfl
  exclusive := by
    apply Exclusive.only
    · intro j _
      apply sound.exclusive.free free
    · intro _
      apply sound.fits.isFree_take
    · intro _ _ same
      cases same
  displays := by
    refine sound.displays.go sound.fits.keyed trivial ?_ ?_
    · rw [owing]
      exact fun _ _ => id
    · rw [owing]
      exact fun _ => id

/-- A job that holds the linter has a document checked with the options that it has
chosen. -/
theorem Sound.check (sound : c.Sound asked s events stages) {document : Document}
    {options : Options} (holding : stages i = .holding document options) :
  (∃ program, Job.checkBy s c.engine document.text document.checkPath = (options, program)
      ∧ program.run c.answer = .ok (c.lint options document.text document.checkPath))
    ∧ c.Sound asked s
        (events ++ [.checking options document.text document.checkPath])
        (Function.update stages i (.checked document options))
  := by
  have holds : (stages i).holds = true := by
    rw [holding]
    rfl
  obtain ⟨e, present, configured⟩ := sound.exclusive.configured i document options holding
  obtain ⟨e', present', computes⟩ := sound.fits.computes
  rw [present] at present'
  obtain rfl := Option.some.inj present'
  constructor
  · use e.check options document.text document.checkPath
    use by rw [Job.checkBy, present, ← configured]
    apply computes
  · have apt := sound.displays.apt i
    rw [holding] at apt
    refine ⟨sound.fits, ?_, ?_⟩
    · apply Exclusive.only (sound.exclusive.others holds)
      · intro _
        apply sound.exclusive.taken i holds
      · intro _ _ same
        cases same
    · apply Displays.unpublished
      · refine sound.displays.go sound.fits.keyed apt ?_ ?_
        · rw [holding]
          exact fun _ _ => id
        · rw [holding]
          exact fun _ => id
      · intro uri
        rfl

/-- Whether a job follows its stages from one at which it is and owes nothing in the
end. -/
def Attends (c : Scene) (stage : Stage) (t : Job Unit) : Prop :=
  c.Follows stage t fun _ after => after = .idle

/-- Up to the step at which it waits, a job publishes only what is genuine, and changes no
documents. -/
theorem Sound.settle {t u : Job Unit} {next : Session} {more : List Event}
    (sound : c.Sound asked s events stages) (apart : c.Apart)
    (attends : c.Attends (stages i) t) (settled : t.settle c.answer s = (u, next, more)) :
  ∃ after, c.Attends after u ∧ after.waits = true
    ∧ c.Sound asked next (events ++ more) (Function.update stages i after)
    ∧ next.documents = s.documents ∧ ∀ event ∈ more, c.Genuine s.documents event
  := by
  induction t generalizing s events stages more with
  | done a =>
    cases settled
    use stages i, attends
    rw [Function.update_eq_self, List.append_nil]
    refine ⟨?_, sound, rfl, List.forall_mem_nil _⟩
    rw [show stages i = .idle from attends]
    rfl
  | access update rest =>
    cases settled
    use stages i, attends
    rw [Function.update_eq_self, List.append_nil]
    refine ⟨Stage.waits_of_rests attends.1, sound, rfl, List.forall_mem_nil _⟩
  | change update rest ih =>
    obtain ⟨after, changes, follows⟩ := attends
    have here : Function.update stages i after i = after := Function.update_self _ _ _
    obtain ⟨last, attends, waits, sound, documents, genuine⟩ :=
      ih (changes.sound sound) (by rw [here]; apply follows) settled
    rw [changes.documents_eq] at documents genuine
    rw [Function.update_idem] at sound
    use last
  | take engine rest =>
    cases settled
    use stages i, attends
    rw [Function.update_eq_self, List.append_nil]
    refine ⟨?_, sound, rfl, List.forall_mem_nil _⟩
    obtain ⟨document, owing, -⟩ := attends
    rw [owing]
    rfl
  | check engine text path rest =>
    cases settled
    use stages i, attends
    rw [Function.update_eq_self, List.append_nil]
    refine ⟨?_, sound, rfl, List.forall_mem_nil _⟩
    obtain ⟨document, options, holding, -⟩ := attends
    rw [holding]
    rfl
  | ask request rest =>
    cases settled
    use stages i, attends
    rw [Function.update_eq_self, List.append_nil]
    refine ⟨Stage.waits_of_rests attends.1, sound, rfl, List.forall_mem_nil _⟩
  | probe request rest ih => apply ih _ sound attends settled
  | tell event rest ih =>
    obtain ⟨after, tell, follows⟩ := attends
    have here : Function.update stages i after i = after := Function.update_self _ _ _
    rcases settles : rest.settle c.answer s with ⟨u', next', more'⟩
    simp only [Job.settle, settles, Prod.mk.injEq] at settled
    obtain ⟨rfl, rfl, rfl⟩ := settled
    obtain ⟨last, attends, waits, sound', documents, genuine⟩ :=
      ih (tell.sound sound apart) (by rw [here]; apply follows) settles
    rw [Function.update_idem, List.append_assoc] at sound'
    use last, attends, waits, sound', documents
    intro other present
    rcases List.mem_cons.mp present with rfl | present
    · apply tell.genuine sound apart
    · apply genuine other present

/-- A job that goes on, from where it waits to where it waits again, publishes only what
is genuine. -/
theorem Sound.resume {t u : Job Unit} {next : Session} {more : List Event}
    (sound : c.Sound asked s events stages) (apart : c.Apart)
    (others : ∀ j, (stages j).waits = true) (attends : c.Attends (stages i) t)
    (resumed : t.resume c.answer s = some (u, next, more)) :
  ∃ after, c.Attends after u ∧ after.waits = true
    ∧ c.Sound asked next (events ++ more) (Function.update stages i after)
    ∧ ∀ event ∈ more, c.Genuine next.documents event
  := by
  have settles {stage : Stage} {s : Session} {events : List Event} {t u : Job Unit}
      {next : Session} {more : List Event}
      (sound : c.Sound asked s events (Function.update stages i stage))
      (attends : c.Attends stage t) (settled : t.settle c.answer s = (u, next, more)) :
      ∃ after, c.Attends after u ∧ after.waits = true
        ∧ c.Sound asked next (events ++ more) (Function.update stages i after)
        ∧ ∀ event ∈ more, c.Genuine next.documents event := by
    have here : Function.update stages i stage i = stage := Function.update_self _ _ _
    obtain ⟨after, attends, waits, sound, documents, genuine⟩ :=
      sound.settle apart (by rw [here]; apply attends) settled
    rw [Function.update_idem] at sound
    rw [← documents] at genuine
    use after
  cases t with
  | done a => cases resumed
  | access update rest =>
    obtain ⟨after, access, follows⟩ := attends.2 s sound.fits
    apply settles (access.sound sound others) follows (Option.some.inj resumed)
  | take engine rest =>
    obtain ⟨document, owing, rfl, follows⟩ := attends
    rw [Job.resume] at resumed
    split at resumed
    · rename_i free
      apply settles (sound.take owing free) follows (Option.some.inj resumed)
    · cases resumed
  | check engine text path rest =>
    obtain ⟨document, options, holding, rfl, rfl, rfl, follows⟩ := attends
    obtain ⟨⟨program, checks, result⟩, checked⟩ := sound.check holding
    rcases settled :
      (rest (.ok (c.lint options document.text document.checkPath))).settle c.answer s
      with ⟨u', next', more'⟩
    simp only [Job.resume, checks, result, settled, Option.some.injEq, Prod.mk.injEq] at resumed
    obtain ⟨rfl, rfl, rfl⟩ := resumed
    obtain ⟨after, attends, waits, sound', genuine⟩ := settles checked follows settled
    rw [List.append_assoc] at sound'
    use after, attends, waits, sound'
    intro event present
    rcases List.mem_cons.mp present with rfl | present
    · rintro uri diagnostics version ⟨⟩
    · apply genuine event present
  | ask request rest =>
    rw [← Function.update_eq_self i stages] at sound
    apply settles sound attends.2 (Option.some.inj resumed)
  | change update rest =>
    rw [← Function.update_eq_self i stages] at sound
    apply settles sound attends (Option.some.inj resumed)
  | probe request rest =>
    rw [← Function.update_eq_self i stages] at sound
    apply settles sound attends (Option.some.inj resumed)
  | tell event rest =>
    rw [← Function.update_eq_self i stages] at sound
    apply settles sound attends (Option.some.inj resumed)

end Scene

end TemplateLint
