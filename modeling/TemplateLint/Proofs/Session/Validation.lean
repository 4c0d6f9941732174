import TemplateLint.Proofs.Document.Store
import TemplateLint.Proofs.Session.Kept
import TemplateLint.Proofs.Session.Publication

/-!
# Validation with a linter that computes a function

What validation publishes if the linter is a function of the options, the text and the
path, and does not fail: for each document the diagnostics that this function gives with
options that are in force for the document.  Besides that, validation only adds to the
options that are kept and leaves the linter configured as it pleases.
-/

namespace TemplateLint

/-- What a linter computes from options, a text and a path. -/
abbrev Lint : Type := Options → String → Path → List Problem

/-- The diagnostics of a document under options. -/
def Lint.diagnostics (lint : Lint) (document : Document) (options : Options) :
    List Diagnostic :=
  (lint options document.text document.checkPath).map Problem.toDiagnostic

/-- Whether the checks of an engine are what a linter computes. -/
def Engine.Computes (answer : Answering) (lint : Lint) (e : Engine) : Prop :=
  ∀ options text path, (e.check options text path).run answer = .ok (lint options text path)

namespace Session

/-- A state continues another one if it differs from it only in how engines are used and
in options that are kept in addition. -/
structure Continues (s next : Session) : Prop where
  phase : next.phase = s.phase
  linter : next.linter = s.linter
  root : next.root = s.root
  settings : next.settings = s.settings
  documents : next.documents = s.documents
  checks : next.engines.map Engine.check = s.engines.map Engine.check
  cache : s.cache <+: next.cache

/-- A state is equipped if its linter, should there be one, computes a function. -/
def Equipped (answer : Answering) (lint : Lint) (s : Session) : Prop :=
  ∀ engine, s.linter = some engine →
    ∃ e, s.engines[engine]? = some e ∧ e.Computes answer lint

namespace Continues

variable {r s t : Session}

theorem refl (s : Session) :
  Continues s s
  := ⟨rfl, rfl, rfl, rfl, rfl, rfl, List.prefix_rfl⟩

theorem trans (h : Continues r s) (h' : Continues s t) :
  Continues r t
  := by
  constructor
  · rw [h'.phase, h.phase]
  · rw [h'.linter, h.linter]
  · rw [h'.root, h.root]
  · rw [h'.settings, h.settings]
  · rw [h'.documents, h.documents]
  · rw [h'.checks, h.checks]
  · apply h.cache.trans h'.cache

theorem used (s : Session) (engine : Nat) (options : Options) :
  Continues s (s.used engine options)
  := by
  rw [used_eq]
  refine ⟨rfl, rfl, rfl, rfl, rfl, ?_, List.prefix_rfl⟩
  apply List.ext_getElem?
  intro i
  simp only [changeEngine, List.getElem?_map, List.getElem?_modify]
  split <;> simp [Function.comp_def]

theorem kept (s : Session) (more : Cache) :
  Continues s { s with cache := s.cache ++ more }
  := ⟨rfl, rfl, rfl, rfl, rfl, rfl, List.prefix_append _ _⟩

theorem directory (h : Continues s t) (document : Document) :
  t.directory document = s.directory document
  := by
  rw [Session.directory, Session.directory, h.root]

/-- Options stay in force. -/
theorem inForce (h : Continues s t) {document : Document} {options : Options}
    (inForce : s.InForce document options) :
  t.InForce document options
  := by
  rw [InForce] at inForce ⊢
  rw [h.settings, h.root, h.directory]
  split at inForce
  · apply inForce
  · obtain ⟨more, grown⟩ := h.cache
    rw [← grown]
    apply Cache.get?_append inForce

/-- A linter goes on to compute its function. -/
theorem equipped (h : Continues s t) {answer : Answering} {lint : Lint}
    (equipped : s.Equipped answer lint) :
  t.Equipped answer lint
  := by
  intro engine linter
  rw [h.linter] at linter
  obtain ⟨e, present, computes⟩ := equipped engine linter
  have same := congrArg (fun checks => checks[engine]?) h.checks
  simp only [List.getElem?_map, present, Option.map_some, Option.map_eq_some_iff] at same
  obtain ⟨e', present', same⟩ := same
  use e', present'
  intro options text path
  rw [same]
  apply computes

end Continues

/-- A state is faithful if it keeps the same options as a faithful one. -/
theorem Faithful.of_kept {setup : Setup} {answer : Answering} {s t : Session}
    (faithful : s.Faithful setup answer) (cache : t.cache = s.cache) (root : t.root = s.root) :
  t.Faithful setup answer
  := by
  rw [Faithful, cache, root]
  apply faithful

theorem InForce.unique {s : Session} {document : Document} {options others : Options}
    (h : s.InForce document options) (h' : s.InForce document others) :
  options = others
  := by
  rw [InForce] at h h'
  split at h
  · rename_i inline editor
    rw [editor] at h'
    rw [h, h']
  · rename_i editor
    rw [editor] at h'
    apply Option.some.inj
    rw [← h, ← h']

variable {setup : Setup} {answer : Answering} {lint : Lint}

/-! ### Options -/

/-- The options for a document are in force afterwards, and the state stays faithful. -/
theorem optionsFor_spec (document : Document) {s : Session}
    (faithful : s.Faithful setup answer) :
  ∃ options next events,
    (optionsFor setup document).run (Job.calmHost answer) s = (options, next, events)
      ∧ s.Continues next ∧ next.Faithful setup answer ∧ next.InForce document options
      ∧ ∀ event ∈ events, event.isMute
  := by
  cases editor : s.settings.inlineOptions with
  | some inline =>
    refine ⟨_, _, _, run_optionsFor_inline _ setup document editor, Continues.refl s,
      faithful, ?_, mute_warned _⟩
    rw [InForce, editor, resolution_inline editor]
  | none =>
    cases kept : s.cache.get? (s.directory document) with
    | some options =>
      refine ⟨_, _, _, run_optionsFor_kept _ setup document editor kept, Continues.refl s,
        faithful, ?_, List.forall_mem_nil _⟩
      rw [InForce, editor]
      apply kept
    | none =>
      refine ⟨_, _, _, run_optionsFor_new _ setup document editor kept, ?_, ?_, ?_,
        mute_warned _⟩
      · rw [Cache.insert_new kept]
        apply Continues.kept
      · intro entry present
        dsimp only at present ⊢
        rw [Cache.insert_new kept, List.mem_append, List.mem_singleton] at present
        rcases present with old | rfl
        · apply faithful entry old
        · apply resolution_files editor
      · rw [InForce]
        dsimp only
        rw [editor, Cache.insert_new kept]
        apply Cache.get?_append_new kept

/-- A batch consists of the templates among the documents, each with options that are in
force in the end. -/
theorem batchOf_spec (documents : List Document) {s : Session}
    (faithful : s.Faithful setup answer) :
  ∃ batch next events,
    (batchOf setup documents).run (Job.calmHost answer) s = (batch, next, events)
      ∧ s.Continues next ∧ next.Faithful setup answer
      ∧ batch.map Prod.fst = documents.filter Document.isTemplate
      ∧ (∀ entry ∈ batch, next.InForce entry.1 entry.2)
      ∧ ∀ event ∈ events, event.isMute
  := by
  induction documents generalizing s with
  | nil =>
    refine ⟨[], s, [], rfl, Continues.refl s, faithful, rfl, ?_, ?_⟩ <;> simp
  | cons document rest ih =>
    rw [batchOf, List.filter_cons]
    cases template : document.isTemplate with
    | false => apply ih faithful
    | true =>
      obtain ⟨options, s₁, first, run₁, continues₁, faithful₁, inForce, mute₁⟩ :=
        optionsFor_spec document faithful
      obtain ⟨batch, s₂, second, run₂, continues₂, faithful₂, templates, inForces, mute₂⟩ :=
        ih faithful₁
      refine ⟨(document, options) :: batch, s₂, first ++ (second ++ []), ?_,
        continues₁.trans continues₂, faithful₂, ?_, ?_, ?_⟩
      · apply Job.run_bind_of run₁
        apply Job.run_bind_of run₂
        rfl
      · simp [templates]
      · intro entry present
        rcases List.mem_cons.mp present with rfl | present
        · apply continues₂.inForce inForce
        · apply inForces entry present
      · intro event present
        rw [List.append_nil, List.mem_append] at present
        rcases present with present | present
        · apply mute₁ event present
        · apply mute₂ event present

/-! ### Checks -/

/-- What is seen of the check of a document with options. -/
def checked (lint : Lint) (entry : Document × Options) : List Event :=
  [.checking entry.2 entry.1.text entry.1.checkPath,
    .published entry.1.uri (lint.diagnostics entry.1 entry.2) entry.1.version]

/-- The validation of a document that the store holds publishes its diagnostics. -/
theorem run_one_held {s : Session} {engine : Nat} (linter : s.linter = some engine)
    (equipped : s.Equipped answer lint) {document : Document} (options : Options)
    (held : s.documents.get? document.uri = some document) :
  (Validation.one engine document options).run (Job.calmHost answer) s
    = (.ok (some (lint.diagnostics document options)), s.used engine options,
        checked lint (document, options))
  := by
  obtain ⟨e, present, computes⟩ := equipped engine linter
  rw [Validation.run_one answer present, Store.isCurrent_of_get? held, computes]
  rfl

theorem run_single_held {s : Session} {engine : Nat} (linter : s.linter = some engine)
    (equipped : s.Equipped answer lint) {document : Document} (options : Options)
    (held : s.documents.get? document.uri = some document) :
  (Validation.single engine document options).run (Job.calmHost answer) s
    = ((), s.used engine options, checked lint (document, options))
  := by
  rw [Validation.single, Job.run_bind, run_one_held linter equipped options held]
  rfl

/-- The validation of a batch of documents that the store holds checks one after another
and reports nothing. -/
theorem run_through_held {s : Session} {engine : Nat} (linter : s.linter = some engine)
    (equipped : s.Equipped answer lint) (batch : List (Document × Options))
    (held : ∀ entry ∈ batch, s.documents.get? entry.1.uri = some entry.1)
    (report : Validation.Report) :
  ∃ next, s.Continues next ∧ next.cache = s.cache ∧
    (Validation.through engine batch report).run (Job.calmHost answer) s
      = (report, next, batch.flatMap (checked lint))
  := by
  induction batch generalizing s with
  | nil =>
    use s, Continues.refl s, rfl
    rfl
  | cons entry rest ih =>
    obtain ⟨document, options⟩ := entry
    have continues := Continues.used s engine options
    have run₁ := run_one_held linter equipped options (held _ List.mem_cons_self)
    obtain ⟨next, continues', kept, run₂⟩ :=
      ih (s := s.used engine options) linter (continues.equipped equipped)
        (fun entry present => held entry (List.mem_cons_of_mem _ present))
    use next, continues.trans continues', kept
    rw [Validation.through]
    apply Job.run_bind_of run₁ run₂

theorem run_all_held {s : Session} {engine : Nat} (linter : s.linter = some engine)
    (equipped : s.Equipped answer lint) (batch : List (Document × Options))
    (held : ∀ entry ∈ batch, s.documents.get? entry.1.uri = some entry.1) :
  ∃ next, s.Continues next ∧ next.cache = s.cache ∧
    (Validation.all engine batch).run (Job.calmHost answer) s
      = (Validation.Report.empty, next, batch.flatMap (checked lint))
  := by
  obtain ⟨next, continues, kept, run⟩ :=
    run_through_held linter equipped batch held Validation.Report.empty
  use next, continues, kept
  rw [Validation.all, Job.run_bind, run]
  simp [Validation.Report.send, Validation.Report.isEmpty, Validation.Report.empty,
    Job.run_bind]

/-- A batch publishes nothing for a URI under which it has no document. -/
theorem lastPublished_checked_none (batch : List (Document × Options)) (uri : Uri)
    (absent : ∀ entry ∈ batch, entry.1.uri.text ≠ uri.text) :
  Event.lastPublished (batch.flatMap (checked lint)) uri = none
  := by
  rw [Event.lastPublished, List.getLast?_eq_none_iff, List.filterMap_eq_nil_iff]
  intro event present
  obtain ⟨entry, here, shown⟩ := List.mem_flatMap.mp present
  rw [checked, List.mem_cons, List.mem_singleton] at shown
  rcases shown with rfl | rfl
  · rfl
  · rw [Event.published?, if_neg (absent entry here)]

/-- A batch publishes for a URI what all its documents under this URI have in common. -/
theorem lastPublished_checked_some {batch : List (Document × Options)} {uri : Uri}
    {diagnostics : List Diagnostic}
    (all : ∀ entry ∈ batch, entry.1.uri.text = uri.text →
      lint.diagnostics entry.1 entry.2 = diagnostics)
    (present : ∃ entry ∈ batch, entry.1.uri.text = uri.text) :
  Event.lastPublished (batch.flatMap (checked lint)) uri = some diagnostics
  := by
  induction batch with
  | nil => simp at present
  | cons entry rest ih =>
    rw [List.flatMap_cons]
    by_cases later : ∃ entry ∈ rest, entry.1.uri.text = uri.text
    · apply Event.lastPublished_append_some
      apply ih _ later
      intro entry here
      apply all entry (List.mem_cons_of_mem _ here)
    · have absent : ∀ entry ∈ rest, entry.1.uri.text ≠ uri.text := by
        intro entry here same
        apply later
        use entry, here
      have same : entry.1.uri.text = uri.text := by
        obtain ⟨found, here, same⟩ := present
        rcases List.mem_cons.mp here with rfl | here
        · apply same
        · cases absent found here same
      rw [Event.lastPublished_append_none (lastPublished_checked_none rest uri absent)]
      rw [← all entry List.mem_cons_self same]
      simp [Event.lastPublished, checked, Event.published?, same]

/-! ### Validation of documents -/

/-- Without a linter, with one that is switched off and for documents that are no
templates nothing happens. -/
theorem run_validateDocument_idle (host : Job.Host) (setup : Setup) {s : Session}
    {document : Document}
    (h : s.linter = none ∨ s.settings.enable = false ∨ document.isTemplate = false) :
  (validateDocument setup document).run host s = ((), s, [])
  := by
  cases linter : s.linter with
  | none => simp [validateDocument, Job.run_bind, linter]
  | some engine =>
    have off : (s.settings.enable && document.isTemplate) = false := by
      rcases h with h | h | h
      · rw [linter] at h
        cases h
      · rw [h, Bool.false_and]
      · rw [h, Bool.and_false]
    simp only [validateDocument, Job.run_bind, Job.run_read, linter, off,
      Bool.false_eq_true, if_false, Job.run_pure, List.append_nil]

/-- The validation of a template that the store holds publishes for its URI its
diagnostics under options that are in force, and nothing for other URIs. -/
theorem validateDocument_spec {s : Session} {engine : Nat} (linter : s.linter = some engine)
    (enable : s.settings.enable = true) (equipped : s.Equipped answer lint)
    (faithful : s.Faithful setup answer) {document : Document}
    (template : document.isTemplate = true)
    (held : s.documents.get? document.uri = some document) :
  ∃ options next events,
    (validateDocument setup document).run (Job.calmHost answer) s = ((), next, events)
      ∧ s.Continues next ∧ next.Faithful setup answer ∧ next.InForce document options
      ∧ ∀ uri, Event.lastPublished events uri
          = if document.uri.text = uri.text then some (lint.diagnostics document options)
            else none
  := by
  obtain ⟨options, s₁, shown, run₁, continues₁, faithful₁, inForce, mute⟩ :=
    optionsFor_spec document faithful
  have held₁ : s₁.documents.get? document.uri = some document := by
    rw [continues₁.documents, held]
  have run₂ := run_single_held (by rw [continues₁.linter, linter])
    (continues₁.equipped equipped) options held₁
  have continues₂ := Continues.used s₁ engine options
  refine ⟨options, _, shown ++ checked lint (document, options), ?_,
    continues₁.trans continues₂, faithful₁, continues₂.inForce inForce, ?_⟩
  · simp only [validateDocument, Job.run_bind, Job.run_read, linter, enable, template,
      Bool.and_self, if_true, run₁, run₂, List.nil_append]
  · intro uri
    rw [Event.lastPublished_append, Event.lastPublished_mute mute, Option.or_none]
    simp only [Event.lastPublished, checked, Event.published?, List.filterMap_cons,
      List.filterMap_nil]
    split <;> simp_all

theorem run_validateOpen_idle (host : Job.Host) (setup : Setup) {s : Session}
    (h : s.linter = none ∨ s.settings.enable = false) :
  (validateOpen setup).run host s = ((), s, [])
  := by
  cases linter : s.linter with
  | none => simp [validateOpen, Job.run_bind, linter]
  | some engine =>
    have off : s.settings.enable = false := by
      rcases h with h | h
      · rw [linter] at h
        cases h
      · apply h
    simp [validateOpen, Job.run_bind, linter, off]

/-- The validation of all open templates publishes for each of them its diagnostics under
options that are in force, and nothing for other URIs. -/
theorem validateOpen_spec {s : Session} {engine : Nat} (linter : s.linter = some engine)
    (enable : s.settings.enable = true) (equipped : s.Equipped answer lint)
    (faithful : s.Faithful setup answer) (keyed : s.documents.WellKeyed) :
  ∃ next events,
    (validateOpen setup).run (Job.calmHost answer) s = ((), next, events)
      ∧ s.Continues next ∧ next.Faithful setup answer
      ∧ (∀ uri document, s.documents.get? uri = some document → document.isTemplate →
          ∃ options, next.InForce document options ∧
            Event.lastPublished events uri = some (lint.diagnostics document options))
      ∧ ∀ uri, s.documents.get? uri = none → Event.lastPublished events uri = none
  := by
  obtain ⟨batch, s₁, shown, run₁, continues₁, faithful₁, templates, inForce, mute⟩ :=
    batchOf_spec s.documents.all faithful
  have mem_batch (document : Document) :
      (∃ options, (document, options) ∈ batch)
        ↔ s.documents.get? document.uri = some document ∧ document.isTemplate = true := by
    rw [← keyed.mem_all, ← List.mem_filter, ← templates]
    simp
  have held : ∀ entry ∈ batch, s.documents.get? entry.1.uri = some entry.1 := by
    intro entry present
    apply ((mem_batch entry.1).mp ⟨entry.2, present⟩).1
  obtain ⟨next, continues₂, kept, run₂⟩ :=
    run_all_held (s := s₁) (by rw [continues₁.linter, linter])
      (continues₁.equipped equipped) batch (by rw [continues₁.documents]; apply held)
  refine ⟨next, shown ++ batch.flatMap (checked lint), ?_, continues₁.trans continues₂, ?_,
    ?_, ?_⟩
  · simp [validateOpen, Job.run_bind, linter, enable, run₁, run₂]
  · apply faithful₁.of_kept kept continues₂.root
  · intro uri document here template
    have same := keyed.uri_eq here
    have here' : s.documents.get? document.uri = some document := by
      rw [Store.get?, same]
      apply here
    obtain ⟨options, present⟩ := (mem_batch document).mpr ⟨here', template⟩
    use options, continues₂.inForce (inForce _ present)
    apply Event.lastPublished_append_some
    apply lastPublished_checked_some
    · intro entry present' same'
      have here'' := held entry present'
      rw [Store.get?, same', ← Store.get?, here] at here''
      obtain rfl := Option.some.inj here''
      have unique := (inForce _ present).unique (inForce entry present')
      dsimp only at unique
      rw [unique]
    · use (document, options), present
  · intro uri absent
    rw [Event.lastPublished_append, Event.lastPublished_mute mute, Option.or_none]
    apply lastPublished_checked_none
    intro entry present same
    have here := held entry present
    rw [Store.get?, same, ← Store.get?, absent] at here
    cases here

end Session

end TemplateLint
