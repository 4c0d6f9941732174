import TemplateLint.Proofs.Document.Store
import TemplateLint.Proofs.Session.Conversation
import TemplateLint.Proofs.Session.Forgetful

/-!
# Agreement with sessions that keep no options

A job agrees with how it is done in a session that keeps no options if the same checks
are asked for, and if the warnings are those of the resolutions whose options are kept in
addition.  Every job of a session agrees in an orderly state: one in which the options
that are kept are those that files give.
-/

namespace TemplateLint

/-- Resolutions that were made for directories. -/
abbrev Account : Type := List (Path × Resolution)

namespace Account

/-- The options that are kept of resolutions. -/
def kept (account : Account) : Cache := account.map fun entry => (entry.1, entry.2.options)

/-- What is shown of resolutions. -/
def told (account : Account) : List Event :=
  account.flatMap fun entry => Session.warned entry.2

theorem kept_append (first second : Account) :
  kept (first ++ second) = kept first ++ kept second
  := List.map_append

theorem told_append (first second : Account) :
  told (first ++ second) = told first ++ told second
  := List.flatMap_append

end Account

/-- The warnings among events. -/
def Event.warnings (events : List Event) : List Event := events.filter Event.isWarning

/-- What a run takes place in: how the session is set up, what the machine answers, the
roots that the session may have, and the URIs under which documents may be open. -/
structure Surroundings where
  setup : Setup
  answer : Answering
  roots : List Path
  opened : Uri → Prop

namespace Surroundings

/-- The options that files give for a directory. -/
def fileOptions (c : Surroundings) (root directory : Path) : Options :=
  Session.fileOptions c.setup c.answer root directory

/-- Whether directories of documents that differ only in how they are written have the
same options. -/
def SpelledAlike (c : Surroundings) : Prop :=
  ∀ root ∈ c.roots, ∀ d e : Document, c.opened d.uri → c.opened e.uri →
    (Session.directoryOf root d).same (Session.directoryOf root e) = true →
      c.fileOptions root (Session.directoryOf root d)
        = c.fileOptions root (Session.directoryOf root e)

end Surroundings

/-- What holds between messages of the state of a session: it keeps, each directory once,
the options that files give for the directories of documents. -/
structure Session.Orderly (c : Surroundings) (s : Session) : Prop where
  faithful : s.Faithful c.setup c.answer
  distinct : s.cache.Pairwise fun a b => a.1.same b.1 = false
  known : ∀ entry ∈ s.cache, ∃ document : Document,
    c.opened document.uri ∧ entry.1 = s.directory document
  rooted : s.root.getD Path.here ∈ c.roots
  documents : ∀ entry ∈ s.documents.entries, c.opened entry.2.uri

/-- Whether a session may be asked to start at a root: it has that root, or else it keeps
no options. -/
def Session.Accepts (s : Session) (root : Path) : Prop :=
  s.cache = [] ∨ s.root.getD Path.here = root

/-- How a run from a state that keeps options compares to a run from the state that keeps
none: the same checks are asked for, and the warnings are those of the resolutions whose
options are kept in addition. -/
structure Mirrored (c : Surroundings) (s next : Session) (events fresh : List Event)
    (account : Account) : Prop where
  checks : Event.checks fresh = Event.checks events
  warnings : Event.warnings events = account.told
  cache : next.cache = s.cache ++ account.kept
  root : next.root = s.root
  resolved : ∀ entry ∈ account,
    entry.2 = (c.setup.resolver.resolve (s.root.getD Path.here) entry.1 none).run c.answer
  orderly : next.Orderly c

variable {c : Surroundings}

theorem Mirrored.trans {r s t : Session} {first second fresh₁ fresh₂ : List Event}
    {a b : Account} (h : Mirrored c r s first fresh₁ a)
    (h' : Mirrored c s t second fresh₂ b) :
  Mirrored c r t (first ++ second) (fresh₁ ++ fresh₂) (a ++ b)
  where
  checks := by rw [Event.checks_append, Event.checks_append, h.checks, h'.checks]
  warnings := by
    rw [Event.warnings, List.filter_append, Account.told_append, ← h.warnings, ← h'.warnings]
    rfl
  cache := by rw [h'.cache, h.cache, Account.kept_append, List.append_assoc]
  root := by rw [h'.root, h.root]
  resolved := by
    intro entry present
    rcases List.mem_append.mp present with present | present
    · apply h.resolved entry present
    · rw [h'.resolved entry present, h.root]
  orderly := h'.orderly

/-- Whether a job in a state comes to the same as in the state that keeps no options, with
a result and a state that have a property. -/
def Job.Agrees (c : Surroundings) (s : Session) (t : Job α) (holds : α → Session → Prop) :
    Prop :=
  ∃ a next events fresh account,
    t.run (calmHost c.answer) s = (a, next, events)
      ∧ t.forgetful.run (calmHost c.answer) s.forget = (a, next.forget, fresh)
      ∧ Mirrored c s next events fresh account ∧ holds a next

namespace Job

variable {s : Session}

/-- Agreement is kept by sequencing. -/
theorem Agrees.bind {t : Job α} {next : α → Job β} {first : α → Session → Prop}
    {second : β → Session → Prop} (h : t.Agrees c s first)
    (h' : ∀ a s, s.Orderly c → first a s → (next a).Agrees c s second) :
  (t >>= next).Agrees c s second
  := by
  obtain ⟨a, s₁, events₁, fresh₁, account₁, run₁, forgetful₁, mirrored₁, holds₁⟩ := h
  obtain ⟨b, s₂, events₂, fresh₂, account₂, run₂, forgetful₂, mirrored₂, holds₂⟩ :=
    h' a s₁ mirrored₁.orderly holds₁
  refine ⟨b, s₂, events₁ ++ events₂, fresh₁ ++ fresh₂, account₁ ++ account₂, ?_, ?_,
    mirrored₁.trans mirrored₂, holds₂⟩
  · apply run_bind_of run₁ run₂
  · rw [forgetful_bind]
    apply run_bind_of forgetful₁ forgetful₂

theorem Agrees.weaken {t : Job α} {first second : α → Session → Prop}
    (h : t.Agrees c s first) (sub : ∀ a next, first a next → second a next) :
  t.Agrees c s second
  := by
  obtain ⟨a, next, events, fresh, account, run, forgetful, mirrored, holds⟩ := h
  use a, next, events, fresh, account, run, forgetful, mirrored, sub a next holds

/-- A blind job agrees if it shows no warnings, neither adds to the kept options nor
changes the root, and leaves an orderly state. -/
theorem Blind.agrees {t : Job α} (blind : t.Blind) {holds : α → Session → Prop} {a : α}
    {next : Session} {events : List Event}
    (run : t.run (calmHost c.answer) s = (a, next, events))
    (quiet : ∀ event ∈ events, event.isWarning = false) (cache : next.cache = s.cache)
    (root : next.root = s.root) (orderly : next.Orderly c) (result : holds a next) :
  t.Agrees c s holds
  := by
  have forgetful := blind.run (calmHost c.answer) s
  rw [run] at forgetful
  refine ⟨a, next, events, events, [], run, forgetful, ?_, result⟩
  refine ⟨rfl, ?_, ?_, root, List.forall_mem_nil _, orderly⟩
  · rw [Event.warnings, List.filter_eq_nil_iff.mpr]
    · rfl
    · intro event present
      rw [quiet event present]
      apply Bool.false_ne_true
  · rw [cache, Account.kept, List.map_nil, List.append_nil]

theorem agrees_pure (orderly : s.Orderly c) {holds : α → Session → Prop} {a : α}
    (result : holds a s) :
  (pure a : Job α).Agrees c s holds
  := (blind_pure a).agrees rfl (List.forall_mem_nil _) rfl rfl orderly result

/-- A part of the state that is not the kept options is read as it is. -/
theorem agrees_read (orderly : s.Orderly c) {part : Session → α}
    (same : ∀ s, part s.forget = part s) :
  (read part).Agrees c s fun a next => a = part s ∧ next = s
  := (blind_read same).agrees rfl (List.forall_mem_nil _) rfl rfl orderly ⟨rfl, rfl⟩

theorem agrees_say (orderly : s.Orderly c) {event : Event}
    (quiet : event.isWarning = false) :
  (say event).Agrees c s fun _ next => next = s
  := by
  apply (blind_say event).agrees rfl _ rfl rfl orderly rfl
  simpa using quiet

theorem agrees_update {f : Session → Session}
    (same : ∀ s, (f s.forget).forget = (f s).forget) (cache : (f s).cache = s.cache)
    (root : (f s).root = s.root) (orderly : (f s).Orderly c) :
  (update f).Agrees c s fun _ next => next = f s
  := (blind_update same).agrees rfl (List.forall_mem_nil _) cache root orderly rfl

theorem agrees_forEach_say (orderly : s.Orderly c) (xs : List α) {event : α → Event}
    (quiet : ∀ x, (event x).isWarning = false) :
  (forEach xs fun x => say (event x)).Agrees c s fun _ next => next = s
  := by
  apply (blind_forEach xs fun x => blind_say _).agrees (run_forEach_say _ s xs event) _ rfl
    rfl orderly rfl
  simp [quiet]

end Job

/-! ### Options -/

namespace Session

variable {s : Session}

/-- Without kept options they are resolved for each document. -/
theorem run_optionsFor_forgetful (host : Job.Host) (s : Session) (setup : Setup)
    (document : Document) :
  (optionsFor setup document).forgetful.run host s.forget
    = let resolution := s.resolution setup host.answer (s.directory document)
      (resolution.options, s.forget, warned resolution)
  := by
  have resolve (inline : Option Options) :=
    (blind_resolveOptions setup (s.root.getD Path.here) (s.directory document) inline).run
      host s
  simp only [run_resolveOptions] at resolve
  rw [directory] at resolve
  cases editor : s.settings.inlineOptions with
  | some inline =>
    simp [optionsFor, Job.forgetful_bind, Job.run_bind, editor, resolve, resolution, directory]
  | none =>
    simp [optionsFor, Job.forgetful_bind, Job.run_bind, editor, resolve, resolution, directory,
      Cache.get?]
    rfl

/-- The directory of a document depends on the URI of the document. -/
theorem directoryOf_congr (root : Path) {d e : Document} (same : d.uri = e.uri) :
  directoryOf root d = directoryOf root e
  := by
  rw [directoryOf, directoryOf, Document.filePath?, Document.filePath?, same]

/-- Options that are kept for a directory are those of one that is written differently at
most. -/
theorem same_spelling {cache : Cache} {directory : Path} {options : Options}
    (kept : cache.get? directory = some options) :
  (cache.spelling directory).same directory = true
  := by
  rw [Cache.get?, Option.map_eq_some_iff] at kept
  obtain ⟨entry, found, rfl⟩ := kept
  rw [Cache.spelling, found]
  apply List.find?_some found

/-- Options that are kept are those that resolution would give. -/
theorem Orderly.eq_resolution (orderly : s.Orderly c) (alike : c.SpelledAlike)
    {document : Document} (opened : c.opened document.uri) {options : Options}
    (editor : s.settings.inlineOptions = none)
    (kept : s.cache.get? (s.directory document) = some options) :
  options = (s.resolution c.setup c.answer (s.directory document)).options
  := by
  have present := Cache.mem_of_get? kept
  obtain ⟨d, opened', spelling⟩ := orderly.known _ present
  have same := same_spelling kept
  dsimp only at spelling
  rw [spelling] at same
  rw [resolution_files editor]
  have faithful := orderly.faithful _ present
  dsimp only at faithful
  rw [faithful, spelling]
  apply alike _ orderly.rooted d document opened' opened same

/-- Options in force are those that resolution gives. -/
theorem Orderly.resolution_of_inForce (orderly : s.Orderly c) (alike : c.SpelledAlike)
    {document : Document} (opened : c.opened document.uri) {options : Options}
    (inForce : s.InForce document options) :
  options = (s.resolution c.setup c.answer (s.directory document)).options
  := by
  rw [InForce] at inForce
  split at inForce
  · rename_i inline editor
    rw [resolution_inline editor, inForce]
  · rename_i editor
    apply orderly.eq_resolution alike opened editor inForce

/-- A state that keeps the options of files for a further directory is orderly. -/
theorem Orderly.keep (orderly : s.Orderly c) {document : Document}
    (opened : c.opened document.uri) (editor : s.settings.inlineOptions = none)
    (new : s.cache.get? (s.directory document) = none) :
  Orderly c
    { s with
      cache := s.cache.insert (s.directory document)
        (s.resolution c.setup c.answer (s.directory document)).options }
  := by
  rw [Cache.insert_new new]
  rw [Cache.get?, Option.map_eq_none_iff, List.find?_eq_none] at new
  constructor
  · intro entry present
    rcases List.mem_append.mp present with old | added
    · apply orderly.faithful entry old
    · rw [List.mem_singleton.mp added]
      apply resolution_files editor
  · rw [List.pairwise_append]
    refine ⟨orderly.distinct, List.pairwise_singleton _ _, ?_⟩
    intro entry old added here
    rw [List.mem_singleton.mp here]
    simpa using new entry old
  · intro entry present
    rcases List.mem_append.mp present with old | added
    · apply orderly.known entry old
    · rw [List.mem_singleton.mp added]
      use document, opened
      rfl
  · apply orderly.rooted
  · apply orderly.documents

theorem warnings_warned (resolution : Resolution) :
  Event.warnings (warned resolution) = warned resolution
  := by
  rw [Event.warnings, List.filter_eq_self]
  intro event present
  obtain ⟨failure, _, rfl⟩ := List.mem_map.mp present
  rfl

/-- The options for a document are the same whether options are kept or not. -/
theorem agrees_optionsFor (orderly : s.Orderly c) (alike : c.SpelledAlike)
    {document : Document} (opened : c.opened document.uri) :
  (optionsFor c.setup document).Agrees c s fun _ _ => True
  := by
  have forgetful := run_optionsFor_forgetful (Job.calmHost c.answer) s c.setup document
  cases editor : s.settings.inlineOptions with
  | some inline =>
    have run := run_optionsFor_inline (Job.calmHost c.answer) c.setup document editor
    refine ⟨_, _, _, _, [], run, forgetful, ⟨rfl, ?_, ?_, rfl, ?_, orderly⟩, trivial⟩
    · rw [resolution_inline editor]
      rfl
    · simp [Account.kept]
    · simp
  | none =>
    cases kept : s.cache.get? (s.directory document) with
    | some options =>
      have run := run_optionsFor_kept (Job.calmHost c.answer) c.setup document editor kept
      rw [orderly.eq_resolution alike opened editor kept] at run
      refine ⟨_, _, _, _, [], run, forgetful, ⟨?_, rfl, ?_, rfl, ?_, orderly⟩, trivial⟩
      · apply Event.checks_mute (mute_warned _)
      · simp [Account.kept]
      · simp
    | none =>
      have run := run_optionsFor_new (Job.calmHost c.answer) c.setup document editor kept
      refine ⟨_, _, _, _, [(s.directory document,
        s.resolution c.setup c.answer (s.directory document))], run, forgetful,
        ⟨rfl, ?_, ?_, rfl, ?_, orderly.keep opened editor kept⟩, trivial⟩
      · apply (warnings_warned _).trans
        simp [Account.told, Job.calmHost]
      · rw [Cache.insert_new kept]
        rfl
      · intro entry present
        rw [List.mem_singleton.mp present, resolution, editor]

end Session

/-! ### Validation -/

theorem Session.Orderly.used {s : Session} (orderly : s.Orderly c) (engine : Nat)
    (options : Options) :
  (s.used engine options).Orderly c
  := ⟨orderly.faithful, orderly.distinct, orderly.known, orderly.rooted,
    orderly.documents⟩

namespace Validation

variable {s : Session}

theorem quiet_announced (document : Document)
    (result : Except Failure (Option (List Diagnostic))) :
  ∀ event ∈ announced document result, event.isWarning = false
  := by
  rcases result with failure | _ | diagnostics <;> simp [announced, Event.isWarning]

theorem agrees_one (orderly : s.Orderly c) (engine : Nat) (document : Document)
    (options : Options) :
  (one engine document options).Agrees c s fun _ _ => True
  := by
  apply (blind_one engine document options).agrees (run_one_any c.answer s engine document
    options) _ rfl rfl (orderly.used engine options) trivial
  intro event present
  rcases List.mem_cons.mp present with rfl | present
  · rfl
  · apply quiet_announced document _ event present

theorem agrees_single (orderly : s.Orderly c) (engine : Nat) (document : Document)
    (options : Options) :
  (single engine document options).Agrees c s fun _ _ => True
  := by
  apply (agrees_one orderly engine document options).bind
  intro result s orderly _
  cases result with
  | ok diagnostics => apply Job.agrees_pure orderly trivial
  | error failure =>
    apply (Job.agrees_say orderly _).weaken
    · simp
    · rfl

theorem agrees_through (orderly : s.Orderly c) (engine : Nat)
    (batch : List (Document × Options)) (report : Report) :
  (through engine batch report).Agrees c s fun _ _ => True
  := by
  induction batch generalizing s report with
  | nil => apply Job.agrees_pure orderly trivial
  | cons entry rest ih =>
    apply (agrees_one orderly engine entry.1 entry.2).bind
    intro result s orderly _
    cases result with
    | ok diagnostics => apply ih orderly
    | error failure => apply ih orderly

theorem agrees_send (orderly : s.Orderly c) (report : Report) :
  report.send.Agrees c s fun _ _ => True
  := by
  rw [Report.send]
  split
  · apply Job.agrees_pure orderly trivial
  · apply (Job.agrees_say orderly _).weaken
    · simp
    · rfl

theorem agrees_all (orderly : s.Orderly c) (engine : Nat)
    (batch : List (Document × Options)) :
  (all engine batch).Agrees c s fun _ _ => True
  := by
  apply (agrees_through orderly engine batch .empty).bind
  intro report s orderly _
  apply (agrees_send orderly report).bind
  intro _ s orderly _
  apply Job.agrees_pure orderly trivial

end Validation

namespace Session

variable {s : Session}

theorem Orderly.opened (orderly : s.Orderly c) {document : Document}
    (listed : document ∈ s.documents.all) :
  c.opened document.uri
  := by
  rw [Store.all, List.mem_mergeSort, List.mem_map] at listed
  obtain ⟨entry, present, rfl⟩ := listed
  apply orderly.documents entry present

theorem agrees_batchOf (orderly : s.Orderly c) (alike : c.SpelledAlike)
    {documents : List Document} (opened : ∀ d ∈ documents, c.opened d.uri) :
  (batchOf c.setup documents).Agrees c s fun _ _ => True
  := by
  induction documents generalizing s with
  | nil => apply Job.agrees_pure orderly trivial
  | cons document rest ih =>
    have later : ∀ d ∈ rest, c.opened d.uri := fun d present =>
      opened d (List.mem_cons_of_mem _ present)
    rw [batchOf]
    split
    · apply (agrees_optionsFor orderly alike (opened _ List.mem_cons_self)).bind
      intro options s orderly _
      apply (ih orderly later).bind
      intro batch s orderly _
      apply Job.agrees_pure orderly trivial
    · apply ih orderly later

theorem agrees_validateDocument (orderly : s.Orderly c) (alike : c.SpelledAlike)
    {document : Document} (opened : c.opened document.uri) :
  (validateDocument c.setup document).Agrees c s fun _ _ => True
  := by
  apply (Job.agrees_read orderly fun s => rfl).bind
  rintro linter _ orderly ⟨-, rfl⟩
  cases linter with
  | none => apply Job.agrees_pure orderly trivial
  | some engine =>
    apply (Job.agrees_read orderly fun s => rfl).bind
    rintro settings _ orderly ⟨-, rfl⟩
    split
    · apply (agrees_optionsFor orderly alike opened).bind
      intro options s orderly _
      apply Validation.agrees_single orderly
    · apply Job.agrees_pure orderly trivial

theorem agrees_validateOpen (orderly : s.Orderly c) (alike : c.SpelledAlike) :
  (validateOpen c.setup).Agrees c s fun _ _ => True
  := by
  apply (Job.agrees_read orderly fun s => rfl).bind
  rintro linter _ orderly ⟨-, rfl⟩
  cases linter with
  | none => apply Job.agrees_pure orderly trivial
  | some engine =>
    apply (Job.agrees_read orderly fun s => rfl).bind
    rintro settings _ orderly ⟨-, rfl⟩
    split
    · apply (Job.agrees_read orderly fun s => rfl).bind
      rintro documents s orderly ⟨rfl, rfl⟩
      apply (agrees_batchOf orderly alike fun d => orderly.opened).bind
      intro batch s orderly _
      apply (Validation.agrees_all orderly engine batch).bind
      intro report s orderly _
      apply Job.agrees_pure orderly trivial
    · apply Job.agrees_pure orderly trivial

theorem agrees_validateOn (orderly : s.Orderly c) (alike : c.SpelledAlike) (mode : RunMode)
    {document : Document} (opened : c.opened document.uri) :
  (validateOn mode c.setup document).Agrees c s fun _ _ => True
  := by
  apply (Job.agrees_read orderly fun s => rfl).bind
  rintro settings _ orderly ⟨-, rfl⟩
  split
  · apply agrees_validateDocument orderly alike opened
  · apply Job.agrees_pure orderly trivial

/-! ### Messages -/

/-- A state is orderly with other documents, if they are open under known URIs. -/
theorem Orderly.store (orderly : s.Orderly c) {store : Store}
    (opened : ∀ entry ∈ store.entries, c.opened entry.2.uri) :
  Orderly c { s with documents := store }
  := ⟨orderly.faithful, orderly.distinct, orderly.known, orderly.rooted, opened⟩

theorem agrees_didOpen (orderly : s.Orderly c) (alike : c.SpelledAlike)
    {document : Document} (opened : c.opened document.uri) :
  (didOpen c.setup document).Agrees c s fun _ _ => True
  := by
  have stored : ∀ entry ∈ (s.documents.insert document).entries, c.opened entry.2.uri := by
    intro entry present
    rcases Store.mem_setEntry present with rfl | old
    · apply opened
    · apply orderly.documents entry old
  apply (Job.agrees_update (fun s => rfl) rfl rfl (orderly.store stored)).bind
  intro _ s orderly _
  apply agrees_validateOn orderly alike _ opened

theorem agrees_updateDocument (orderly : s.Orderly c) (uri : Uri) (version : Option Int)
    (text : String) :
  (updateDocument uri version text).Agrees c s fun result _ =>
    ∀ document, result = some document → c.opened document.uri
  := by
  have changed (document : Document) (found : s.documents.get? uri = some document) :
      c.opened document.uri := by
    apply orderly.documents (uri.text, document)
    apply Store.mem_of_get? found
  have stored : ∀ entry ∈ (s.documents.update uri version text).2.entries,
      c.opened entry.2.uri := by
    intro entry present
    rw [Store.update] at present
    split at present
    · apply orderly.documents entry present
    · rename_i old found
      split at present
      · apply orderly.documents entry present
      · rcases Store.mem_setEntry present with rfl | kept
        · apply changed old found
        · apply orderly.documents entry kept
  apply (blind_updateDocument uri version text).agrees rfl (List.forall_mem_nil _) rfl rfl
    (orderly.store stored)
  intro document result
  obtain ⟨old, found, rfl, -⟩ := Store.update_some (Prod.ext result rfl)
  apply changed old found

theorem agrees_didChange (orderly : s.Orderly c) (alike : c.SpelledAlike) (uri : Uri)
    (version : Int) (texts : List String) :
  (didChange c.setup uri version texts).Agrees c s fun _ _ => True
  := by
  rw [didChange]
  split
  · apply Job.agrees_pure orderly trivial
  · apply (agrees_updateDocument orderly uri _ _).bind
    intro result s orderly opened
    cases result with
    | none => apply Job.agrees_pure orderly trivial
    | some document => apply agrees_validateOn orderly alike _ (opened document rfl)

theorem agrees_didSave (orderly : s.Orderly c) (alike : c.SpelledAlike) (uri : Uri)
    (text : Option String) :
  (didSave c.setup uri text).Agrees c s fun _ _ => True
  := by
  cases text with
  | some text =>
    apply (agrees_updateDocument orderly uri none text).bind
    intro result s orderly opened
    cases result with
    | none => apply Job.agrees_pure orderly trivial
    | some document => apply agrees_validateOn orderly alike _ (opened document rfl)
  | none =>
    apply (Job.agrees_read orderly fun s => rfl).bind
    rintro result s orderly ⟨found, rfl⟩
    cases result with
    | none => apply Job.agrees_pure orderly trivial
    | some document =>
      apply agrees_validateOn orderly alike
      apply orderly.documents (uri.text, document)
      apply Store.mem_of_get? found.symm

theorem agrees_didClose (orderly : s.Orderly c) (uri : Uri) :
  (didClose uri).Agrees c s fun _ _ => True
  := by
  have stored : ∀ entry ∈ (s.documents.close uri).entries, c.opened entry.2.uri := by
    intro entry present
    apply orderly.documents entry (List.mem_of_mem_filter present)
  apply (Job.agrees_update (fun s => rfl) rfl rfl (orderly.store stored)).bind
  intro _ s orderly _
  apply (Job.agrees_say orderly _).weaken
  · simp
  · rfl

theorem agrees_clearOpen (orderly : s.Orderly c) :
  clearOpen.Agrees c s fun _ _ => True
  := by
  apply (Job.agrees_read orderly fun s => rfl).bind
  intro documents s orderly _
  apply (Job.agrees_forEach_say orderly documents _).weaken
  · simp
  · intro document
    rfl

theorem agrees_didChangeSettings (orderly : s.Orderly c) (alike : c.SpelledAlike)
    (value : Json.Value) :
  (didChangeSettings c.setup value).Agrees c s fun _ _ => True
  := by
  have resettled : Orderly c { s with settings := Settings.ofValue value } :=
    ⟨orderly.faithful, orderly.distinct, orderly.known, orderly.rooted, orderly.documents⟩
  apply (Job.agrees_update (fun s => rfl) rfl rfl resettled).bind
  intro _ s orderly _
  apply (Job.agrees_read orderly fun s => rfl).bind
  intro phase s orderly _
  split
  · split
    · apply agrees_validateOpen orderly alike
    · apply agrees_clearOpen orderly
  · apply Job.agrees_pure orderly trivial

theorem quiet_of_note {event : Event} (note : event.isNote = true) :
  event.isWarning = false
  := by
  cases event with
  | loading => rfl
  | logged => rfl
  | _ => cases note

theorem Orderly.equip (orderly : s.Orderly c) (check : Checker) :
  Orderly c { s.addEngine check with phase := .ready }
  where
  faithful := orderly.faithful
  distinct := orderly.distinct
  known := orderly.known
  rooted := orderly.rooted
  documents := orderly.documents

theorem agrees_retry (orderly : s.Orderly c) (alike : c.SpelledAlike) :
  (retry c.setup).Agrees c s fun _ _ => True
  := by
  apply (Job.agrees_read orderly fun s => rfl).bind
  rintro root s orderly ⟨rfl, rfl⟩
  cases s.root with
  | none => apply Job.agrees_pure orderly trivial
  | some root =>
    obtain ⟨result, next, events, run, notes, outcome⟩ :=
      run_activate c.setup root s c.answer
    have activated : (activate c.setup root).Agrees c s fun _ _ => True := by
      have quiet event (present : event ∈ events) := quiet_of_note (notes event present)
      rcases outcome with ⟨rfl, package, check, loaded, rfl⟩ | ⟨failed, rfl⟩
      · apply (blind_activate c.setup root).agrees run quiet rfl rfl (orderly.equip check)
          trivial
      · apply (blind_activate c.setup root).agrees run quiet rfl rfl orderly trivial
    apply activated.bind
    rintro (failure | _ | _) s orderly -
    · apply Job.agrees_pure orderly trivial
    · apply Job.agrees_pure orderly trivial
    · apply (Job.agrees_say orderly _).bind
      · intro _ s orderly _
        apply agrees_validateOpen orderly alike
      · rfl

/-- An orderly state stays so when it loses the options that it keeps. -/
theorem Orderly.drop (orderly : s.Orderly c) (answer : Answering) :
  s.forget.Orderly { c with answer := answer }
  where
  faithful := List.forall_mem_nil _
  distinct := List.Pairwise.nil
  known := by simp
  rooted := orderly.rooted
  documents := orderly.documents

/-- An orderly state stays so when files change that do not matter. -/
theorem Orderly.alike (orderly : s.Orderly c) {answer : Answering}
    (alike : c.setup.resolver.Alike c.answer answer) :
  s.Orderly { c with answer := answer }
  := { orderly with faithful := orderly.faithful.alike alike }

/-- The state of a session that is asked to start is orderly, if the root stays or if no
options are kept. -/
theorem Orderly.request (orderly : s.Orderly c) {request : StartRequest}
    (accepts : s.Accepts (workspaceRoot c.setup.locator.environment.cwd request))
    (rooted : workspaceRoot c.setup.locator.environment.cwd request ∈ c.roots) :
  (s.requested c.setup request).Orderly c
  := by
  rcases accepts with empty | same
  · have empty' : (s.requested c.setup request).cache = [] := empty
    constructor
    · intro entry present
      rw [empty'] at present
      cases present
    · rw [empty']
      apply List.Pairwise.nil
    · intro entry present
      rw [empty'] at present
      cases present
    · apply rooted
    · apply orderly.documents
  · have root : (s.requested c.setup request).root.getD Path.here = s.root.getD Path.here :=
      same.symm
    constructor
    · intro entry present
      rw [root]
      apply orderly.faithful entry present
    · apply orderly.distinct
    · intro entry present
      obtain ⟨document, opened, here⟩ := orderly.known entry present
      use document, opened
      rw [here, directory, directory, root]
    · apply rooted
    · apply orderly.documents

theorem agrees_lookFor (orderly : s.Orderly c) (root : Path) :
  (lookFor c.setup root).Agrees c s fun _ _ => True
  := by
  obtain ⟨result, next, events, run, notes, outcome⟩ := run_lookFor c.setup root s c.answer
  have quiet event (present : event ∈ events) := quiet_of_note (notes event present)
  have waiting (phase : Phase) : Orderly c { s with phase := phase } :=
    ⟨orderly.faithful, orderly.distinct, orderly.known, orderly.rooted, orderly.documents⟩
  rcases outcome with ⟨_, package, check, loaded, rfl⟩ | ⟨_, rfl⟩ | ⟨_, rfl⟩
  · apply (blind_lookFor c.setup root).agrees run quiet rfl rfl (orderly.equip check) trivial
  · apply (blind_lookFor c.setup root).agrees run quiet rfl rfl (waiting _) trivial
  · apply (blind_lookFor c.setup root).agrees run quiet rfl rfl (waiting _) trivial

end Session

/-- Whether a message may come in a state: a session is started at a known root that it may
have, and documents are opened under known URIs. -/
def Message.Expected (c : Surroundings) (s : Session) : Message → Prop
  | .start request =>
    s.Accepts (Session.workspaceRoot c.setup.locator.environment.cwd request)
      ∧ Session.workspaceRoot c.setup.locator.environment.cwd request ∈ c.roots
  | .opened document => c.opened document.uri
  | _ => True

/-- How a job compares to how it is done where no options are kept, from a state on that
may differ from the one in which the job comes. -/
def MirroredFrom (c : Surroundings) (s base : Session) (t : Job Unit) : Prop :=
  ∃ next events fresh account,
    t.run (Job.calmHost c.answer) s = ((), next, events)
      ∧ t.forgetful.run (Job.calmHost c.answer) s.forget = ((), next.forget, fresh)
      ∧ Mirrored c base next events fresh account

theorem Job.Agrees.mirrored {s : Session} {t : Job Unit} {holds : Unit → Session → Prop}
    (agrees : t.Agrees c s holds) :
  MirroredFrom c s s t
  := by
  obtain ⟨_, next, events, fresh, account, run, forgetful, mirrored, -⟩ := agrees
  refine ⟨next, events, fresh, account, run, forgetful, mirrored⟩

/-- A session that is started has its root and looks for the linter. -/
theorem mirrored_start {s : Session} {request : StartRequest} (orderly : s.Orderly c)
    (expected : Message.Expected c s (.start request)) :
  MirroredFrom c s (s.requested c.setup request) (Message.job c.setup (.start request))
  := by
  obtain ⟨accepts, rooted⟩ := expected
  obtain ⟨a, next, events, fresh, account, run, forgetful, mirrored, -⟩ :=
    Session.agrees_lookFor (orderly.request accepts rooted)
      (Session.workspaceRoot c.setup.locator.environment.cwd request)
  rw [← Session.run_startUp] at run
  rw [← Session.run_startUp_forgetful] at forgetful
  refine ⟨next, events ++ [], fresh ++ [], account, ?_, ?_, ?_⟩
  · apply Job.run_bind_of run rfl
  · rw [Message.job, Job.forgetful_bind]
    apply Job.run_bind_of forgetful rfl
  · rw [List.append_nil, List.append_nil]
    apply mirrored

/-- A job that begins with dropping all kept options goes on without them. -/
theorem Job.Agrees.mirrored_drop {s : Session} {next : Unit → Job Unit}
    (agrees : (next ()).Agrees c s.forget fun _ _ => True) :
  MirroredFrom c s s.forget (Job.update Session.forget >>= next)
  := by
  obtain ⟨last, events, fresh, account, run, forgetful, mirrored⟩ := agrees.mirrored
  refine ⟨last, [] ++ events, [] ++ fresh, account, ?_, ?_, mirrored⟩
  · apply Job.run_bind_of rfl run
  · rw [Job.forgetful_bind]
    apply Job.run_bind_of rfl forgetful

/-- A message that names a configuration file is worked on without the options that were
kept before. -/
theorem mirrored_files {s : Session} {uris : List Uri} (dropped : s.forget.Orderly c)
    (alike : c.SpelledAlike) (names : Session.configNames uris ≠ []) :
  MirroredFrom c s s.forget (Session.didChangeFiles c.setup uris)
  := by
  rw [Session.didChangeFiles, if_neg names]
  apply Job.Agrees.mirrored_drop
  apply (Job.agrees_read dropped fun s => rfl).bind
  rintro phase s orderly -
  split
  · apply Session.agrees_validateOpen orderly alike
  · split
    · apply Session.agrees_retry orderly alike
    · apply Job.agrees_pure orderly trivial
  · apply Job.agrees_pure orderly trivial

/-- How a message is worked on compares to how it is worked on where no options are kept,
from a state on that keeps the same options unless the message names a configuration
file. -/
theorem mirrored_job {s : Session} (message : Message)
    (dropped : s.forget.Orderly c) (orderly : message.namesConfig = false → s.Orderly c)
    (expected : message.Expected c s) (alike : c.SpelledAlike) :
  ∃ base, MirroredFrom c s base (message.job c.setup)
    ∧ (message.namesConfig = false → base.cache = s.cache)
  := by
  cases message with
  | start request =>
    use s.requested c.setup request, mirrored_start (orderly rfl) expected
    intro _
    rfl
  | opened document =>
    use s, (Session.agrees_didOpen (orderly rfl) alike expected).mirrored
    intro _
    rfl
  | changed uri version texts =>
    use s, (Session.agrees_didChange (orderly rfl) alike uri version texts).mirrored
    intro _
    rfl
  | saved uri text =>
    use s, (Session.agrees_didSave (orderly rfl) alike uri text).mirrored
    intro _
    rfl
  | closed uri =>
    use s, (Session.agrees_didClose (orderly rfl) uri).mirrored
    intro _
    rfl
  | settings value =>
    use s, (Session.agrees_didChangeSettings (orderly rfl) alike value).mirrored
    intro _
    rfl
  | files uris =>
    by_cases names : Session.configNames uris = []
    · have unnamed : (Message.files uris).namesConfig = false := by
        simp [Message.namesConfig, names]
      use s
      constructor
      · rw [Message.job, Session.didChangeFiles, if_pos names]
        have agrees : Job.Agrees c s (pure ()) fun _ _ => True :=
          Job.agrees_pure (orderly unnamed) trivial
        apply agrees.mirrored
      · intro _
        rfl
    · use s.forget, mirrored_files dropped alike names
      intro unnamed
      simp [Message.namesConfig, names] at unnamed

end TemplateLint
