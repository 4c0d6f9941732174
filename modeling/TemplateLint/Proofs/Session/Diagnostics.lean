import TemplateLint.Proofs.Session.Transparency
import TemplateLint.Proofs.Session.Validation

/-!
# Diagnostics that a client sees

Between the messages of an editor, a client sees the diagnostics of the open templates as
they are now and nothing else.  While a message is worked on, some templates are owed:
their text or the options for them may have changed since they were validated.  Each
message leaves nothing owed, so what holds between messages holds after all of them.  The
options are those of the directory of the template, as long as it makes no difference how a
directory is written.
-/

namespace TemplateLint

/-- Whether every linter that is loaded computes a function and does not fail, as long as
the machine answers in one of several ways. -/
def Setup.Lints (setup : Setup) (lint : Lint) (answers : List Answering) : Prop :=
  ∀ a ∈ answers, ∀ package check, (setup.load package).run a = .ok check →
    ∀ b ∈ answers, ∀ options text path,
      (check options text path).run b = .ok (lint options text path)

/-- A session that is still to be started: it has no linter, no kept options and no open
documents. -/
structure Session.Idle (s : Session) : Prop where
  phase : s.phase ≠ .ready
  linter : s.linter = none
  cache : s.cache = []
  documents : s.documents = Store.empty

namespace History

/-- What holds of a history in which the documents under some URIs are owed a validation.
Nothing is seen under URIs that are not open, nor as long as there is no linter or it is
switched off; and if it works at every change, the diagnostics of all open templates but
the owed ones are seen, under options that are in force. -/
structure Truthful (setup : Setup) (lint : Lint) (answers : List Answering)
    (owed : String → Prop) (h : History) : Prop where
  keyed : h.session.documents.WellKeyed
  ready : h.session.phase = .ready ↔ h.session.linter ≠ none
  equipped : ∀ a ∈ answers, h.session.Equipped a lint
  faithful : h.session.Faithful setup h.answer
  closed : ∀ uri, h.session.documents.get? uri = none → Event.Cleared h.events uri
  silent : h.session.linter = none ∨ h.session.settings.enable = false →
    ∀ uri, Event.Cleared h.events uri
  shown : h.session.linter ≠ none → h.session.settings.enable = true →
    h.session.settings.run = .onType → ∀ uri document, ¬ owed uri.text →
      h.session.documents.get? uri = some document → document.isTemplate = true →
        ∃ options, h.session.InForce document options ∧
          Event.lastPublished h.events uri = some (lint.diagnostics document options)

variable {setup : Setup} {lint : Lint} {answers : List Answering} {owed : String → Prop}
  {h : History}

namespace Truthful

/-- Documents that are not owed a validation may be taken to be owed one. -/
theorem weaken (truthful : h.Truthful setup lint answers owed) {more : String → Prop}
    (sub : ∀ key, owed key → more key) :
  h.Truthful setup lint answers more
  where
  __ := truthful
  shown linter enable run uri document notOwed :=
    truthful.shown linter enable run uri document fun owed => notOwed (sub _ owed)

/-- Nothing is owed unless the linter works at every change. -/
theorem settled (truthful : h.Truthful setup lint answers owed)
    (idle : h.session.linter = none ∨ h.session.settings.enable = false
      ∨ h.session.settings.run ≠ .onType) :
  h.Truthful setup lint answers fun _ => False
  where
  __ := truthful
  shown linter enable run := by
    rcases idle with idle | idle | idle
    · cases linter idle
    · rw [enable] at idle
      cases idle
    · cases idle run

/-- Nothing is owed any more after a validation that publishes nothing for URIs that are
not open and, for all open templates that are owed, their diagnostics. -/
theorem validated (truthful : h.Truthful setup lint answers owed)
    (linter : h.session.linter ≠ none) (enable : h.session.settings.enable = true)
    {next : Session} {events : List Event} (continues : h.session.Continues next)
    (faithful : next.Faithful setup h.answer)
    (absent : ∀ uri, h.session.documents.get? uri = none →
      Event.lastPublished events uri = none)
    (present : ∀ uri document, h.session.documents.get? uri = some document →
      document.isTemplate = true →
        (¬ owed uri.text ∧ Event.lastPublished events uri = none) ∨
        ∃ options, next.InForce document options ∧
          Event.lastPublished events uri = some (lint.diagnostics document options)) :
  Truthful setup lint answers (fun _ => False) ⟨h.answer, next, h.events ++ events⟩
  where
  keyed := by
    rw [continues.documents]
    apply truthful.keyed
  ready := by
    rw [continues.phase, continues.linter]
    apply truthful.ready
  equipped a here := continues.equipped (truthful.equipped a here)
  faithful := faithful
  closed uri notOpen := by
    rw [continues.documents] at notOpen
    intro diagnostics
    rw [Event.lastPublished_append_none (absent uri notOpen)]
    apply truthful.closed uri notOpen
  silent idle := by
    rw [continues.linter, continues.settings, enable] at idle
    rcases idle with idle | idle
    · cases linter idle
    · cases idle
  shown _ _ onType uri document _ here template := by
    rw [continues.settings] at onType
    rw [continues.documents] at here
    rcases present uri document here template with ⟨notOwed, unseen⟩ | ⟨options, inForce, seen⟩
    · obtain ⟨options, inForce, seen⟩ :=
        truthful.shown linter enable onType uri document notOwed here template
      use options, continues.inForce inForce
      rw [Event.lastPublished_append_none unseen, seen]
    · use options, inForce
      apply Event.lastPublished_append_some seen

/-- Mute events change nothing. -/
theorem mute (truthful : h.Truthful setup lint answers owed) {events : List Event}
    (mute : ∀ event ∈ events, event.isMute) :
  Truthful setup lint answers owed { h with events := h.events ++ events }
  where
  __ := truthful
  closed uri absent := (truthful.closed uri absent).append_mute mute
  silent idle uri := (truthful.silent idle uri).append_mute mute
  shown linter enable run uri document notOwed here template := by
    rw [Event.lastPublished_append_none (Event.lastPublished_mute mute uri)]
    apply truthful.shown linter enable run uri document notOwed here template

end Truthful

/-! ### Validation -/

/-- The validation of a document that the store holds leaves the document no longer
owed. -/
theorem truthful_validateDocument {document : Document}
    (truthful : h.Truthful setup lint answers fun key => key = document.uri.text)
    (here : h.answer ∈ answers)
    (held : h.session.documents.get? document.uri = some document) :
  (h.run (Session.validateDocument setup document)).Truthful setup lint answers fun _ => False
  := by
  by_cases idle : h.session.linter = none ∨ h.session.settings.enable = false
      ∨ document.isTemplate = false
  · rw [run_eq h (Session.run_validateDocument_idle _ setup idle), List.append_nil]
    refine { truthful with shown := ?_ }
    intro linter enable run uri d _ present template
    apply truthful.shown linter enable run uri d _ present template
    intro same
    rw [Store.get?, same, ← Store.get?, held] at present
    obtain rfl := Option.some.inj present
    rw [enable, template] at idle
    simp [linter] at idle
  · simp only [not_or, Bool.not_eq_false] at idle
    obtain ⟨some', enable, template⟩ := idle
    obtain ⟨engine, linter⟩ := Option.ne_none_iff_exists'.mp some'
    obtain ⟨options, next, events, run, continues, faithful, inForce, published⟩ :=
      Session.validateDocument_spec linter enable (truthful.equipped _ here)
        truthful.faithful template held
    rw [run_eq h run]
    apply truthful.validated some' enable continues faithful
    · intro uri absent
      rw [published, if_neg]
      intro same
      rw [Store.get?, ← same, ← Store.get?, held] at absent
      cases absent
    · intro uri d present _
      rw [published]
      by_cases same : document.uri.text = uri.text
      · rw [Store.get?, ← same, ← Store.get?, held] at present
        obtain rfl := Option.some.inj present
        right
        use options, inForce
        rw [if_pos same]
      · left
        rw [if_neg same]
        use fun same' => same same'.symm

/-- The validation of all open templates leaves nothing owed. -/
theorem truthful_validateOpen (truthful : h.Truthful setup lint answers owed)
    (here : h.answer ∈ answers) :
  (h.run (Session.validateOpen setup)).Truthful setup lint answers fun _ => False
  := by
  by_cases idle : h.session.linter = none ∨ h.session.settings.enable = false
  · rw [run_eq h (Session.run_validateOpen_idle _ setup idle), List.append_nil]
    apply truthful.settled
    rcases idle with idle | idle
    · left
      apply idle
    · right
      left
      apply idle
  · simp only [not_or, Bool.not_eq_false] at idle
    obtain ⟨some', enable⟩ := idle
    obtain ⟨engine, linter⟩ := Option.ne_none_iff_exists'.mp some'
    obtain ⟨next, events, run, continues, faithful, present, absent⟩ :=
      Session.validateOpen_spec linter enable (truthful.equipped _ here) truthful.faithful
        truthful.keyed
    rw [run_eq h run]
    apply truthful.validated some' enable continues faithful absent
    intro uri document open' template
    right
    apply present uri document open' template

/-- On an occasion on which documents are not validated, a document stays owed only if the
linter does not work at every change. -/
theorem truthful_validateOn (mode : RunMode) {document : Document}
    (truthful : h.Truthful setup lint answers fun key => key = document.uri.text)
    (owed : mode = .onType ∨ h.Truthful setup lint answers fun _ => False)
    (here : h.answer ∈ answers)
    (held : h.session.documents.get? document.uri = some document) :
  (h.run (Session.validateOn mode setup document)).Truthful setup lint answers fun _ => False
  := by
  rw [Session.validateOn, run_read_bind]
  by_cases occasion : h.session.settings.run = mode
  · rw [if_pos occasion]
    apply truthful_validateDocument truthful here held
  · rw [if_neg occasion, run_pure]
    rcases owed with rfl | settled
    · apply truthful.settled
      right
      right
      apply occasion
    · apply settled

/-! ### Documents -/

/-- A document that comes under its URI is owed a validation. -/
theorem Truthful.store (truthful : h.Truthful setup lint answers fun _ => False)
    {store : Store} {uri : Uri} {document : Document} (keyed : store.WellKeyed)
    (stored : ∀ other, store.get? other
      = if other.text = uri.text then some document else h.session.documents.get? other) :
  Truthful setup lint answers (fun key => key = uri.text)
    { h with session := { h.session with documents := store } }
  where
  keyed := keyed
  ready := truthful.ready
  equipped := truthful.equipped
  faithful := truthful.faithful
  closed other absent := by
    apply truthful.closed other
    dsimp only at absent
    rw [stored] at absent
    split at absent
    · cases absent
    · apply absent
  silent := truthful.silent
  shown linter enable run other d notOwed here template := by
    dsimp only at here
    rw [stored, if_neg notOwed] at here
    apply truthful.shown linter enable run other d id here template

theorem truthful_didOpen (document : Document)
    (truthful : h.Truthful setup lint answers fun _ => False) (here : h.answer ∈ answers) :
  (h.run (Session.didOpen setup document)).Truthful setup lint answers fun _ => False
  := by
  rw [Session.didOpen, run_update_bind]
  apply truthful_validateOn
  · apply truthful.store (truthful.keyed.insert document)
    apply Store.get?_insert
  · left
    rfl
  · apply here
  · rw [Store.get?_insert, if_pos rfl]

theorem truthful_didClose (uri : Uri)
    (truthful : h.Truthful setup lint answers fun _ => False) :
  (h.run (Session.didClose uri)).Truthful setup lint answers fun _ => False
  := by
  rw [Session.didClose, run_update_bind, run_say]
  have cleared (other : Uri) (same : other.text = uri.text) :
      Event.Cleared (h.events ++ [.published uri [] none]) other := by
    apply Event.Cleared.prepend
    · apply Event.cleared_of_empty
      simp [Event.published?]
    · simp [Event.published?, same]
  have unseen (other : Uri) (differ : other.text ≠ uri.text) :
      Event.lastPublished [.published uri [] none] other = none := by
    have differ' : ¬ uri.text = other.text := fun same => differ same.symm
    simp [Event.lastPublished, Event.published?, differ']
  constructor
  · apply truthful.keyed.close
  · apply truthful.ready
  · apply truthful.equipped
  · apply truthful.faithful
  · intro other absent
    by_cases same : other.text = uri.text
    · apply cleared other same
    · rw [Store.get?_close, if_neg same] at absent
      intro diagnostics
      rw [Event.lastPublished_append_none (unseen other same)]
      apply truthful.closed other absent
  · intro idle other
    by_cases same : other.text = uri.text
    · apply cleared other same
    · intro diagnostics
      rw [Event.lastPublished_append_none (unseen other same)]
      apply truthful.silent idle other
  · intro linter enable run other document notOwed here template
    rw [Store.get?_close] at here
    split at here
    · cases here
    · rename_i same
      rw [Event.lastPublished_append_none (unseen other same)]
      apply truthful.shown linter enable run other document notOwed here template

theorem truthful_didChange (uri : Uri) (version : Int) (texts : List String)
    (truthful : h.Truthful setup lint answers fun _ => False) (here : h.answer ∈ answers) :
  (h.run (Session.didChange setup uri version texts)).Truthful setup lint answers
    fun _ => False
  := by
  rw [Session.didChange]
  cases texts.getLast? with
  | none =>
    rw [run_pure]
    apply truthful
  | some text =>
    simp only [run_updateDocument_bind]
    cases result : h.session.documents.update uri (some version) text with
    | mk changed store =>
      cases changed with
      | none =>
        rw [run_pure, Store.update_none result]
        apply truthful
      | some document =>
        have stored := Store.get?_update result
        have keyed := truthful.keyed.update uri (some version) text
        rw [result] at keyed
        have same : document.uri.text = uri.text := by
          apply keyed.uri_eq
          rw [stored, if_pos rfl]
        apply truthful_validateOn
        · rw [same]
          apply truthful.store keyed stored
        · left
          rfl
        · apply here
        · rw [stored, if_pos same]

theorem truthful_didSave (uri : Uri)
    (truthful : h.Truthful setup lint answers fun _ => False) (here : h.answer ∈ answers) :
  (h.run (Session.didSave setup uri none)).Truthful setup lint answers fun _ => False
  := by
  rw [Session.didSave]
  simp only [run_read_bind]
  cases found : h.session.documents.get? uri with
  | none =>
    rw [run_pure]
    apply truthful
  | some document =>
    apply truthful_validateOn
    · apply truthful.weaken
      simp
    · right
      apply truthful
    · apply here
    · rw [Store.get?, truthful.keyed.uri_eq found]
      apply found

/-! ### Settings and files -/

/-- Settings that switch the linter off clear what is seen of all documents. -/
theorem truthful_clearOpen
    (truthful : h.Truthful setup lint answers fun _ => False) {settings : Settings}
    (off : settings.enable = false) :
  ({ h with session := { h.session with settings := settings } }.run
    Session.clearOpen).Truthful setup lint answers fun _ => False
  := by
  rw [Session.clearOpen, run_read_bind, run_forEach_say]
  have cleared (uri : Uri) :
      Event.Cleared (h.events ++ h.session.documents.all.map fun document =>
        .published document.uri [] document.version) uri := by
    have empty : Event.Cleared (h.session.documents.all.map fun document =>
        .published document.uri [] document.version) uri := by
      apply Event.cleared_of_empty
      simp [Event.published?]
    cases found : h.session.documents.get? uri with
    | none => apply (truthful.closed uri found).append empty
    | some document =>
      have same := truthful.keyed.uri_eq found
      have listed : document ∈ h.session.documents.all := by
        rw [truthful.keyed.mem_all, Store.get?, same]
        apply found
      apply empty.prepend
      use .published document.uri [] document.version, List.mem_map_of_mem listed, []
      rw [Event.published?, if_pos same]
  constructor
  · apply truthful.keyed
  · apply truthful.ready
  · apply truthful.equipped
  · apply truthful.faithful
  · intro uri _
    apply cleared
  · intro _ uri
    apply cleared
  · intro _ enable
    dsimp only at enable
    rw [off] at enable
    cases enable

theorem truthful_didChangeSettings (value : Json.Value)
    (truthful : h.Truthful setup lint answers fun _ => False) (here : h.answer ∈ answers) :
  (h.run (Session.didChangeSettings setup value)).Truthful setup lint answers fun _ => False
  := by
  rw [Session.didChangeSettings, run_update_bind, run_read_bind]
  generalize Settings.ofValue value = settings
  have resettled (quiet : h.session.linter = none ∨ settings.enable = true) :
      Truthful setup lint answers (fun _ => True)
        { h with session := { h.session with settings := settings } } := by
    refine { truthful with silent := ?_, shown := ?_ }
    · intro idle
      apply truthful.silent
      left
      rcases quiet with quiet | quiet
      · apply quiet
      · rcases idle with idle | idle
        · apply idle
        · dsimp only at idle
          rw [quiet] at idle
          cases idle
    · intro _ _ _ _ _ notOwed
      cases notOwed trivial
  by_cases ready : h.session.phase = .ready
  · rw [if_pos ready]
    cases enable : settings.enable with
    | true =>
      rw [if_pos rfl]
      apply truthful_validateOpen
      · apply resettled
        right
        apply enable
      · apply here
    | false =>
      rw [if_neg Bool.false_ne_true]
      apply truthful_clearOpen truthful enable
  · rw [if_neg ready, run_pure]
    rw [truthful.ready, not_not] at ready
    apply (resettled (.inl ready)).settled
    left
    apply ready

/-- A linter that was loaded where there was none owes a validation to all documents. -/
theorem Truthful.equip (truthful : h.Truthful setup lint answers owed)
    (lints : setup.Lints lint answers) (here : h.answer ∈ answers)
    (none : h.session.linter = none) {package : Package} {check : Checker}
    (loaded : (setup.load package).run h.answer = .ok check) :
  Truthful setup lint answers (fun _ => True)
    { h with session := { h.session.addEngine check with phase := .ready } }
  where
  keyed := truthful.keyed
  ready := by simp [Session.addEngine]
  equipped a present engine linter := by
    obtain rfl := Option.some.inj linter
    use ⟨check, Options.empty, false⟩
    constructor
    · simp [Session.addEngine]
    · apply lints _ here package check loaded a present
  faithful := truthful.faithful
  closed := truthful.closed
  silent _ := truthful.silent (.inl none)
  shown _ _ _ _ _ notOwed := by cases notOwed trivial

theorem truthful_retry (truthful : h.Truthful setup lint answers owed)
    (lints : setup.Lints lint answers) (here : h.answer ∈ answers)
    (none : h.session.linter = none) :
  (h.run (Session.retry setup)).Truthful setup lint answers fun _ => False
  := by
  have settled := truthful.settled (.inl none)
  rw [Session.retry, run_read_bind]
  cases h.session.root with
  | none =>
    rw [run_pure]
    apply settled
  | some root =>
    obtain ⟨result, next, events, run, notes, outcome⟩ :=
      Session.run_activate setup root h.session h.answer
    have mute event (present : event ∈ events) := Event.isMute_of_isNote (notes event present)
    simp only [run_bind, run, run_eq h run]
    rcases outcome with ⟨rfl, package, check, loaded, rfl⟩ | ⟨failed, rfl⟩
    · dsimp only
      rw [run_say_bind]
      apply truthful_validateOpen
      · apply ((truthful.equip lints here none loaded).mute mute).mute
        simp [Event.isMute]
      · apply here
    · rcases result with failure | _ | _
      · dsimp only
        rw [run_pure]
        apply settled.mute mute
      · dsimp only
        rw [run_pure]
        apply settled.mute mute
      · cases failed rfl

/-- What holds under one way to answer requests holds under another one, if files give the
same options. -/
theorem Truthful.alike (truthful : h.Truthful setup lint answers owed) {answer : Answering}
    (alike : setup.resolver.Alike h.answer answer) :
  Truthful setup lint answers owed { h with answer := answer }
  where
  __ := truthful
  faithful := truthful.faithful.alike alike

/-- Once all kept options are dropped, files may change, and all documents are owed a
validation. -/
theorem Truthful.dropKept (truthful : h.Truthful setup lint answers owed)
    (answer : Answering) :
  Truthful setup lint answers (fun _ => True)
    ⟨answer, { h.session with cache := [] }, h.events⟩
  where
  __ := truthful
  faithful := List.forall_mem_nil _
  shown _ _ _ _ _ notOwed := by cases notOwed trivial

theorem truthful_didChangeFiles (uris : List Uri)
    (truthful : h.Truthful setup lint answers fun _ => False)
    (lints : setup.Lints lint answers) {answer : Answering} (here : answer ∈ answers)
    (announced : Session.configNames uris ≠ [] ∨ setup.resolver.Alike h.answer answer) :
  ({ h with answer := answer }.run (Session.didChangeFiles setup uris)).Truthful
    setup lint answers fun _ => False
  := by
  rw [Session.didChangeFiles]
  by_cases names : Session.configNames uris = []
  · rw [if_pos names, run_pure]
    apply truthful.alike
    apply announced.resolve_left
    simp [names]
  · rw [if_neg names, run_update_bind, run_read_bind]
    have dropped := truthful.dropKept answer
    dsimp only
    split
    · apply truthful_validateOpen dropped here
    · rename_i phase
      have none : h.session.linter = none := by
        by_contra present
        rw [← ne_eq, ← truthful.ready, phase] at present
        cases present
      split
      · apply truthful_retry dropped lints here none
      · rw [run_pure]
        apply dropped.settled (.inl none)
    · rename_i notReady _
      rw [run_pure]
      apply dropped.settled
      left
      by_contra present
      apply notReady (truthful.ready.mpr present)

/-! ### Starting a session -/

theorem Truthful.idle {s : Session} (idle : s.Idle) {events : List Event}
    (mute : ∀ event ∈ events, event.isMute) (answer : Answering) :
  Truthful setup lint answers (fun _ => False) ⟨answer, s, events⟩
  where
  keyed := by
    rw [idle.documents]
    apply Store.wellKeyed_empty
  ready := by simp [idle.phase, idle.linter]
  equipped a _ engine linter := by
    dsimp only at linter
    rw [idle.linter] at linter
    cases linter
  faithful := by
    intro entry present
    dsimp only at present
    rw [idle.cache] at present
    cases present
  closed uri _ := (Event.cleared_nil uri).append_mute mute
  silent _ uri := (Event.cleared_nil uri).append_mute mute
  shown linter := by cases linter idle.linter

theorem truthful_lookFor {s : Session} (idle : s.Idle) {answer : Answering} (root : Path)
    (lints : setup.Lints lint answers) (here : answer ∈ answers)
    (started : ((Session.lookFor setup root).run (Job.calmHost answer) s).1 = .running) :
  ((ofSession answer s).run (Session.lookFor setup root)).Truthful setup lint answers
    fun _ => False
  := by
  obtain ⟨result, next, events, run, notes, outcome⟩ :=
    Session.run_lookFor setup root s answer
  have mute event (present : event ∈ events) := Event.isMute_of_isNote (notes event present)
  rw [run_eq (ofSession answer s) run]
  rw [run] at started
  rcases outcome with ⟨_, package, check, loaded, rfl⟩ | ⟨_, rfl⟩ | ⟨missing, _⟩
  · have truthful :
        (ofSession answer s).Truthful setup lint answers fun _ => False :=
      Truthful.idle idle (List.forall_mem_nil _) answer
    have equipped := (truthful.equip lints here idle.linter loaded).mute mute
    refine { equipped with shown := ?_ }
    intro _ _ _ uri document _ present
    dsimp only [ofSession, Session.addEngine] at present
    rw [idle.documents] at present
    cases present
  · apply Truthful.idle _ mute
    use by simp, idle.linter, idle.cache, idle.documents
  · rw [missing] at started
    cases started

theorem truthful_startUp {s : Session} (idle : s.Idle) {answer : Answering}
    (request : StartRequest) (lints : setup.Lints lint answers) (here : answer ∈ answers)
    (started : ((Session.startUp setup request).run (Job.calmHost answer) s).1 = .running) :
  ((ofSession answer s).run (Session.startUp setup request)).Truthful setup lint answers
    fun _ => False
  := by
  have requested : (s.requested setup request).Idle :=
    ⟨idle.phase, idle.linter, idle.cache, idle.documents⟩
  rw [Session.run_startUp] at started
  have truthful := truthful_lookFor requested _ lints here started
  rw [History.run] at truthful ⊢
  simp only [ofSession, Job.calmHost, Session.run_startUp] at truthful ⊢
  apply truthful

/-! ### Whole conversations -/

/-- Every message but the one that starts a session leaves nothing owed. -/
theorem truthful_turn {before t : Turn}
    (truthful : h.Truthful setup lint answers fun _ => False)
    (now : h.answer = before.answer) (announced : Announced setup.resolver before t)
    (lints : setup.Lints lint answers) (here : t.answer ∈ answers)
    (follows : t.message.isStart = false) (untold : t.message.tellsSavedText = false) :
  (h.turn setup t).Truthful setup lint answers fun _ => False
  := by
  obtain ⟨answer, message⟩ := t
  rw [Announced, ← now] at announced
  have alike (unnamed : message.namesConfig = false) :
      Truthful setup lint answers (fun _ => False) { h with answer := answer } := by
    apply truthful.alike
    apply announced.resolve_left
    simp [unnamed]
  rw [turn]
  cases message with
  | start request => cases follows
  | opened document => apply truthful_didOpen document (alike rfl) here
  | changed uri version texts => apply truthful_didChange uri version texts (alike rfl) here
  | saved uri text =>
    cases text with
    | none => apply truthful_didSave uri (alike rfl) here
    | some text => cases untold
  | closed uri => apply truthful_didClose uri (alike rfl)
  | settings value => apply truthful_didChangeSettings value (alike rfl) here
  | files uris =>
    apply truthful_didChangeFiles uris truthful lints here
    apply announced.imp_left
    simp [Message.namesConfig]

/-- Nothing is owed after any number of messages. -/
theorem truthful_after {before : Turn} {turns : List Turn}
    (truthful : h.Truthful setup lint answers fun _ => False)
    (now : h.answer = before.answer)
    (announced : List.IsChain (Announced setup.resolver) (before :: turns))
    (lints : setup.Lints lint answers) (here : ∀ t ∈ turns, t.answer ∈ answers)
    (follow : ∀ t ∈ turns, t.message.isStart = false ∧ t.message.tellsSavedText = false) :
  (h.after setup turns).Truthful setup lint answers fun _ => False
  := by
  induction turns generalizing h before with
  | nil => apply truthful
  | cons t rest ih =>
    rw [List.isChain_cons_cons] at announced
    obtain ⟨follows, untold⟩ := follow t List.mem_cons_self
    refine ih ?_ rfl announced.2 ?_ ?_
    · apply truthful_turn truthful now announced.1 lints (here t List.mem_cons_self) follows
        untold
    · intro u present
      apply here u (List.mem_cons_of_mem _ present)
    · intro u present
      apply follow u (List.mem_cons_of_mem _ present)

/-- A session does the same when it is started whatever root it had. -/
theorem turn_start_root (answer : Answering) (s : Session) (root : Option Path)
    (request : StartRequest) :
  (ofSession answer { s with root := root }).turn setup ⟨answer, .start request⟩
    = (ofSession answer s).turn setup ⟨answer, .start request⟩
  := by
  have same : ({ s with root := root } : Session).requested setup request
      = s.requested setup request := rfl
  simp only [turn, Message.job, History.run, ofSession, Job.run_bind, Session.run_startUp, same]

theorem answer_after (h : History) (t : Turn) (turns : List Turn) :
  (h.after setup (t :: turns)).answer ∈ t.answer :: turns.map Turn.answer
  := by
  induction turns generalizing h t with
  | nil => apply List.mem_cons_self
  | cons u rest ih => apply List.mem_cons_of_mem _ (ih (h.turn setup t) u)

/-- The surroundings of turns in a session with a root. -/
def surroundingsAt (setup : Setup) (root : Path) (turns : List Turn) (answer : Answering) :
    Surroundings :=
  { surroundings setup answer turns with roots := [root] }

/-- A session that is started once keeps, for the directories of documents, the options that
files give. -/
theorem orderly_after {s : Session} (idle : s.Idle) {answer : Answering}
    {request : StartRequest} {turns : List Turn}
    (follow : ∀ t ∈ turns, t.message.isStart = false)
    (announced :
      List.IsChain (Announced setup.resolver) (⟨answer, .start request⟩ :: turns)) :
  let root := Session.workspaceRoot setup.locator.environment.cwd request
  let h := (ofSession answer s).after setup (⟨answer, .start request⟩ :: turns)
  (∀ a ∈ answer :: turns.map Turn.answer, (surroundingsAt setup root turns a).SpelledAlike) →
    h.session.Orderly (surroundingsAt setup root turns h.answer)
  := by
  intro root h alike
  let c := surroundingsAt setup root turns answer
  let first : Turn := ⟨answer, .start request⟩
  let asked := ofSession answer { s with root := some root }
  have orderly : asked.session.Orderly c := by
    constructor
    case rooted => apply List.mem_cons_self
    all_goals simp [asked, ofSession, Session.Faithful, idle.cache, idle.documents, Store.empty]
  have expected (earlier : List Turn) (t : Turn) (later : List Turn)
      (split : first :: turns = earlier ++ t :: later) :
      t.message.Expected c (asked.after setup earlier).session := by
    cases earlier with
    | nil =>
      obtain rfl := (List.cons.inj split).1
      exact ⟨.inl idle.cache, List.mem_cons_self⟩
    | cons _ earlier =>
      have present : t ∈ turns := by
        rw [(List.cons.inj split).2]
        apply List.mem_append_right _ List.mem_cons_self
      obtain ⟨now, message⟩ := t
      cases message with
      | start other => cases follow _ present
      | opened document => use ⟨now, .opened document⟩, present, document
      | _ => trivial
  have admits : asked.Admits c (first :: turns) := by
    refine admits_of_empty (c := c) (h := asked) idle.cache announced expected ?_
    intro t present
    apply alike t.answer (List.mem_map_of_mem (f := Turn.answer) present)
  have same : asked.after setup (first :: turns) = h := by
    rw [after, List.foldl_cons, turn_start_root]
    rfl
  have forgetful : asked.session = asked.session.forget := by
    simp [asked, ofSession, Session.forget, idle.cache]
  have shadows := after_shadows ⟨forgetful, rfl, orderly⟩ admits
  rw [← same]
  apply shadows.orderly

/-- After a session has started and got any number of messages, nothing is seen under
URIs that are not open, and nothing at all if the linter is switched off.  And if there is
a linter that works at every change, the diagnostics of each open template are seen, with
the options that resolution gives now for its directory, as long as directories of documents
that differ only in how they are written have the same options.  Configuration files may
change if the next message names one, and saved texts are not told. -/
theorem seen_between_messages (setup : Setup) (lint : Lint) {s : Session} (idle : s.Idle)
    (answer : Answering) (request : StartRequest) (turns : List Turn)
    (started : ((Session.startUp setup request).run (Job.calmHost answer) s).1 = .running)
    (follow : ∀ t ∈ turns, t.message.isStart = false ∧ t.message.tellsSavedText = false)
    (announced :
      List.IsChain (Announced setup.resolver) (⟨answer, .start request⟩ :: turns))
    (lints : setup.Lints lint (answer :: turns.map Turn.answer)) :
  let root := Session.workspaceRoot setup.locator.environment.cwd request
  let h := (ofSession answer s).after setup (⟨answer, .start request⟩ :: turns)
  (∀ uri, h.session.documents.get? uri = none → Event.Cleared h.events uri)
    ∧ (h.session.settings.enable = false → ∀ uri, Event.Cleared h.events uri)
    ∧ ((∀ a ∈ answer :: turns.map Turn.answer,
          (surroundingsAt setup root turns a).SpelledAlike) →
        h.session.phase = .ready → h.session.settings.enable = true →
        h.session.settings.run = .onType →
          ∀ uri document, h.session.documents.get? uri = some document →
            document.isTemplate = true →
              Event.lastPublished h.events uri
                = some (lint.diagnostics document
                    (h.session.resolution setup h.answer (h.session.directory document)).options))
  := by
  intro root h
  have truthful : h.Truthful setup lint (answer :: turns.map Turn.answer) fun _ => False := by
    apply truthful_after _ rfl announced lints
    · intro t present
      apply List.mem_cons_of_mem _ (List.mem_map_of_mem present)
    · apply follow
    · have first := truthful_startUp idle request lints List.mem_cons_self started
      rw [turn, Message.job, run_bind, run_pure]
      apply first
  refine ⟨truthful.closed, fun off => truthful.silent (.inr off), ?_⟩
  intro alike ready enable run uri document here template
  have orderly := orderly_after idle (fun t present => (follow t present).1) announced alike
  have now : (surroundingsAt setup root turns h.answer).SpelledAlike :=
    alike h.answer (answer_after (ofSession answer s) ⟨answer, .start request⟩ turns)
  obtain ⟨options, inForce, seen⟩ :=
    truthful.shown (truthful.ready.mp ready) enable run uri document id here template
  have given : options
      = (h.session.resolution setup h.answer (h.session.directory document)).options :=
    orderly.resolution_of_inForce now (orderly.documents _ (Store.mem_of_get? here)) inForce
  rw [seen, given]

/-! ### A small workspace -/

/-- What the linter of the sample computes. -/
def sampleLint : Lint := fun options _ _ => Sample.lint options.members

theorem lints_in_sample (answers : List Answering) :
  Sample.setup.Lints sampleLint answers
  := by
  intro a _ package check loaded b _ options text path
  cases loaded
  rfl

theorem idle_start :
  Session.start.Idle
  := ⟨by decide, rfl, rfl, rfl⟩

/-- The history of the sample. -/
def sample : History := (ofSession (Sample.answer none) Session.start).after Sample.setup sampled

theorem seen_in_sample :
  sample.session.documents.get? Sample.document.uri = some Sample.document
    ∧ (sample.session.resolution Sample.setup sample.answer
        (sample.session.directory Sample.document)).source
      = .packageManifest (.ofText "/w/package.json")
    ∧ Event.lastPublished sample.events Sample.document.uri
      = some (sampleLint.diagnostics Sample.document
          (sample.session.resolution Sample.setup sample.answer
            (sample.session.directory Sample.document)).options)
  := by
  obtain ⟨-, -, seen⟩ := seen_between_messages Sample.setup sampleLint idle_start
    (Sample.answer none) (Sample.startIn "/w") Sample.turns (by decide +kernel)
    (by simp [Sample.turns, Message.isStart, Message.tellsSavedText])
    announced_in_sample (lints_in_sample _)
  rw [← sampled, ← sample] at seen
  have ready : sample.session.phase = .ready ∧ sample.session.settings.enable = true
      ∧ sample.session.settings.run = .onType := by
    decide +kernel
  have here : sample.session.documents.get? Sample.document.uri = some Sample.document := by
    decide +kernel
  have source : (sample.session.resolution Sample.setup sample.answer
      (sample.session.directory Sample.document)).source
        = .packageManifest (.ofText "/w/package.json") := by
    decide +kernel
  have alike (a : Answering) : (surroundingsAt Sample.setup
      (Session.workspaceRoot Sample.setup.locator.environment.cwd (Sample.startIn "/w"))
      Sample.turns a).SpelledAlike := by
    apply spelledAlike_of_one Sample.document
    rintro uri ⟨t, present, document, opened, rfl⟩
    rw [opened_in_sample (List.mem_cons_of_mem _ present) opened]
  use here, source
  apply seen (fun a _ => alike a) ready.1 ready.2.1 ready.2.2 _ _ here
  decide +kernel

/-! ### A directory that is written in two ways -/

/-- The answers of a machine for which one way to write the directory is too long. -/
def refused : Answering := refusing 40 (Sample.answer (some Sample.manifest))

/-- The history in which the directory of two templates is written in two ways. -/
def unalike : History := (ofSession refused Session.start).after Sample.setup respelled

/-- The template whose directory is written too long. -/
def respelledDocument : Document :=
  Sample.template ("/" ++ String.join (List.replicate 40 "%2F") ++ "/w/b.pug")

/-- It is needed that directories of documents which differ only in how they are written have
the same options.  A template is open, but what is seen of it are not its diagnostics with the
options that resolution gives for its directory. -/
theorem unseen_when_respelled :
  respelled = ⟨refused, .start (Sample.startIn "/w/b")⟩ :: respelled.tail
    ∧ Session.start.Idle
    ∧ ((Session.startUp Sample.setup (Sample.startIn "/w/b")).run (Job.calmHost refused)
        Session.start).1 = .running
    ∧ (∀ t ∈ respelled.tail, t.message.isStart = false ∧ t.message.tellsSavedText = false)
    ∧ List.IsChain (Announced Sample.setup.resolver) respelled
    ∧ Sample.setup.Lints sampleLint (respelled.map Turn.answer)
    ∧ unalike.session.phase = .ready ∧ unalike.session.settings.enable = true
    ∧ unalike.session.settings.run = .onType
    ∧ unalike.session.documents.get? respelledDocument.uri = some respelledDocument
    ∧ respelledDocument.isTemplate = true
    ∧ Event.lastPublished unalike.events respelledDocument.uri
      ≠ some (sampleLint.diagnostics respelledDocument
          (unalike.session.resolution Sample.setup refused
            (unalike.session.directory respelledDocument)).options)
  := by
  refine ⟨rfl, idle_start, by decide +kernel, ?follow, announced_unchanged _ _ _,
    lints_in_sample _, ?unseen⟩
  case follow => simp [respelled, Message.isStart, Message.tellsSavedText]
  case unseen => decide +kernel

end History

end TemplateLint
