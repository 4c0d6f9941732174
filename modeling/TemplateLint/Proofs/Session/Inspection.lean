import TemplateLint.Proofs.Session.Conversation
import TemplateLint.Session.Pool

/-!
# Inspections

A job uses engines in inspections only.  An inspection takes an engine, configures it with
the options that it is given, lets it check a document, and gives it back; then it publishes
what the check has come to.  Whatever else a job does, it leaves the engines as they are, or
adds another one.  All jobs of a session are of this form, and so are validations of single
documents and of batches.
-/

namespace TemplateLint

namespace Session

/-- Whether the linter of a session is one of its engines. -/
def Linked (s : Session) : Prop := ∀ engine, s.linter = some engine → engine < s.engines.length

/-- Whether a state has all engines of another one as they are there, and perhaps more. -/
structure Grows (s next : Session) : Prop where
  engines : s.engines <+: next.engines
  linked : s.Linked → next.Linked

theorem Grows.of_eq {s next : Session} (engines : next.engines = s.engines)
    (linter : next.linter = s.linter) :
  s.Grows next
  := by
  constructor
  · use []
    rw [List.append_nil, engines]
  · intro linked engine
    rw [linter, engines]
    apply linked

theorem Grows.refl (s : Session) :
  s.Grows s
  := .of_eq rfl rfl

theorem grows_addEngine (s : Session) (check : Checker) :
  s.Grows (s.addEngine check)
  := by
  constructor
  · apply List.prefix_append
  · rintro _ _ ⟨⟩
    simp [addEngine]

theorem length_changeEngine (s : Session) (engine : Nat) (change : Engine → Engine) :
  (s.changeEngine engine change).engines.length = s.engines.length
  := List.length_modify ..

theorem Linked.changeEngine {s : Session} (linked : s.Linked) (engine : Nat)
    (change : Engine → Engine) :
  (s.changeEngine engine change).Linked
  := by
  intro other linter
  rw [length_changeEngine]
  apply linked other linter

end Session

/-- An inspection of a document by an engine under options. -/
structure Inspection where
  engine : Nat
  document : Document
  options : Options

namespace Inspection

/-- The job of an inspection. -/
def job (v : Inspection) : Job (Except Failure (Option (List Diagnostic))) :=
  Validation.one v.engine v.document v.options

/-- What the engine is to check in an inspection, and under which options. -/
def triple (v : Inspection) : Options × String × Path :=
  (v.options, v.document.text, v.document.checkPath)

/-- The part of an inspection after the check, when the engine is given back. -/
def conclude (v : Inspection) (problems : Except Failure (List Problem)) :
    Job (Except Failure (Option (List Diagnostic))) :=
  .access id fun s =>
    if s.documents.isCurrent v.document then
      match problems with
      | .error failure => .done (.error failure)
      | .ok problems =>
        let diagnostics := problems.map Problem.toDiagnostic
        .tell (.published v.document.uri diagnostics v.document.version)
          (.done (.ok (some diagnostics)))
    else .done (.ok none)

/-- The part of an inspection from the check on, when the engine is taken and configured. -/
def rest (v : Inspection) : Job (Except Failure (Option (List Diagnostic))) :=
  .check v.engine v.document.text v.document.checkPath fun problems =>
    .change (fun s => s.giveBack v.engine) (v.conclude problems)

/-- The code of an inspection tells which engine it takes, and for which check. -/
theorem eq_of_job_bind {v w : Inspection}
    {rest rest' : Except Failure (Option (List Diagnostic)) → Job α}
    (same : v.job >>= rest = w.job >>= rest') :
  v.engine = w.engine ∧ v.triple = w.triple
  := by
  obtain ⟨engine, later⟩ := Job.take.inj same
  obtain ⟨configures, check⟩ := Job.change.inj later
  obtain ⟨-, text, path, -⟩ := Job.check.inj check
  let engines := List.replicate (v.engine + 1) (⟨fun _ _ _ => pure (.ok []), .empty, false⟩ : Engine)
  have configured := congrArg (fun s : Session => s.engines[v.engine]?.map Engine.options)
    (congrFun configures { Session.start with engines := engines })
  have options : v.options = w.options := by
    simpa [engines, Session.configure, Session.changeEngine, ← engine] using configured
  use engine
  rw [triple, triple, options, text, path]

end Inspection

namespace Job

theorem bind_assoc (t : Job α) (next : α → Job β) (last : β → Job γ) :
  t >>= next >>= last = t >>= fun a => next a >>= last
  := by
  change (t.bind next).bind last = t.bind fun a => (next a).bind last
  induction t with
  | done => rfl
  | change update rest ih => simp [bind, ih]
  | take engine rest ih => simp [bind, ih]
  | tell event rest ih => simp [bind, ih]
  | _ => simp_all [bind]

/-- Whether a job uses engines in inspections only, and only those that are known, by their
number, or that it has found. -/
inductive Tidy : Nat → Job α → Prop
  | done {known a} : Tidy known (.done a)
  | access {known update next} (grows : ∀ s : Session, s.Grows (update s))
      (later : ∀ s : Session, s.Linked → known ≤ s.engines.length →
        Tidy (update s).engines.length (next s)) :
      Tidy known (.access update next)
  | ask {known request next} (later : ∀ reply, Tidy known (next reply)) :
      Tidy known (.ask request next)
  | probe {known request next} (later : ∀ reply, Tidy known (next reply)) :
      Tidy known (.probe request next)
  | tell {known event next} (silent : event.check? = none) (later : Tidy known next) :
      Tidy known (.tell event next)
  | inspect {known} (v : Inspection) {next} (here : v.engine < known)
      (later : ∀ outcome, Tidy known (next outcome)) :
      Tidy known (v.job >>= next)

theorem Tidy.weaken {known more : Nat} {t : Job α} (tidy : t.Tidy known) (le : known ≤ more) :
  t.Tidy more
  := by
  induction tidy with
  | done => apply Tidy.done
  | access grows later =>
    apply Tidy.access grows
    intro s linked le'
    apply later s linked (le.trans le')
  | ask _ ih =>
    apply Tidy.ask
    intro reply
    apply ih reply le
  | probe _ ih =>
    apply Tidy.probe
    intro reply
    apply ih reply le
  | tell silent _ ih => apply Tidy.tell silent (ih le)
  | inspect v here _ ih =>
    apply Tidy.inspect v (here.trans_le le)
    intro outcome
    apply ih outcome le

theorem Tidy.bind {known : Nat} {t : Job α} {next : α → Job β} (tidy : t.Tidy known)
    (rest : ∀ a, (next a).Tidy known) :
  (t >>= next).Tidy known
  := by
  induction tidy with
  | done => apply rest
  | access grows later ih =>
    apply Tidy.access grows
    intro s linked le
    apply ih s linked le
    intro a
    apply (rest a).weaken (le.trans (grows s).engines.length_le)
  | ask _ ih =>
    apply Tidy.ask
    intro reply
    apply ih reply rest
  | probe _ ih =>
    apply Tidy.probe
    intro reply
    apply ih reply rest
  | tell silent _ ih => apply Tidy.tell silent (ih rest)
  | inspect v here _ ih =>
    rw [bind_assoc]
    apply Tidy.inspect v here
    intro outcome
    apply ih outcome rest

/-! ### Parts of jobs -/

variable {known : Nat}

theorem tidy_read (part : Session → α) :
  (read part).Tidy known
  := by
  apply Tidy.access
  · apply Session.Grows.refl
  · intro s _ _
    apply Tidy.done

/-- A job that reads the shared state may use the engines that are there. -/
theorem tidy_read_bind {part : Session → α} {next : α → Job β}
    (rest : ∀ s : Session, s.Linked → known ≤ s.engines.length →
      (next (part s)).Tidy s.engines.length) :
  (read part >>= next).Tidy known
  := by
  apply Tidy.access
  · apply Session.Grows.refl
  · apply rest

theorem tidy_update {f : Session → Session} (grows : ∀ s : Session, s.Grows (f s)) :
  (update f).Tidy known
  := by
  apply Tidy.access grows
  intro s _ _
  apply Tidy.done

theorem tidy_say {event : Event} (silent : event.check? = none) :
  (say event).Tidy known
  := by
  apply Tidy.tell silent
  apply Tidy.done

theorem tidy_forEach_say (xs : List α) {event : α → Event}
    (silent : ∀ x, (event x).check? = none) :
  (forEach xs fun x => say (event x)).Tidy known
  := by
  induction xs with
  | nil => apply Tidy.done
  | cons x rest ih =>
    apply (tidy_say (silent x)).bind
    intro _
    apply ih

theorem tidy_await (p : Program α) :
  (await p).Tidy known
  := by
  induction p with
  | done a => apply Tidy.done
  | ask request next ih =>
    apply Tidy.ask
    intro reply
    apply ih

theorem tidy_immediately (p : Program α) :
  (immediately p).Tidy known
  := by
  induction p with
  | done a => apply Tidy.done
  | ask request next ih =>
    apply Tidy.probe
    intro reply
    apply ih

end Job

namespace Validation

variable {known engine : Nat}

theorem tidy_one (here : engine < known) (document : Document) (options : Options) :
  (one engine document options).Tidy known
  := by
  have tidy : (one engine document options >>= Job.done).Tidy known :=
    .inspect ⟨engine, document, options⟩ here fun _ => .done
  change ((one engine document options).bind Job.done).Tidy known at tidy
  rw [Job.bind_done] at tidy
  apply tidy

theorem tidy_single (here : engine < known) (document : Document) (options : Options) :
  (single engine document options).Tidy known
  := by
  apply (tidy_one here document options).bind
  intro outcome
  split
  · apply Job.Tidy.done
  · apply Job.tidy_say rfl

theorem tidy_through (here : engine < known) (batch : List (Document × Options))
    (report : Report) :
  (through engine batch report).Tidy known
  := by
  induction batch generalizing report with
  | nil => apply Job.Tidy.done
  | cons entry rest ih =>
    apply (tidy_one here entry.1 entry.2).bind
    intro outcome
    split
    · apply ih
    · apply ih

theorem tidy_all (here : engine < known) (batch : List (Document × Options)) :
  (all engine batch).Tidy known
  := by
  apply (tidy_through here batch .empty).bind
  intro report
  have send : report.send.Tidy known := by
    rw [Report.send]
    split
    · apply Job.Tidy.done
    · apply Job.tidy_say rfl
  apply send.bind
  intro _
  apply Job.Tidy.done

end Validation

theorem Inspection.tidy_conclude (v : Inspection) (problems : Except Failure (List Problem))
    {known : Nat} :
  (v.conclude problems).Tidy known
  := by
  apply Job.Tidy.access
  · apply Session.Grows.refl
  · intro s _ _
    split
    · split
      · apply Job.Tidy.done
      · apply Job.Tidy.tell rfl
        apply Job.Tidy.done
    · apply Job.Tidy.done

/-! ### Jobs of a session -/

namespace Session

variable (setup : Setup) {known : Nat}

theorem tidy_resolveOptions (root directory : Path) (inline : Option Options) :
  (resolveOptions setup root directory inline).Tidy known
  := by
  apply (Job.tidy_await _).bind
  intro resolution
  apply (Job.tidy_forEach_say _ fun _ => rfl).bind
  intro _
  apply Job.Tidy.done

theorem tidy_optionsFor (document : Document) :
  (optionsFor setup document).Tidy known
  := by
  apply (Job.tidy_read _).bind
  intro settings
  apply (Job.tidy_read _).bind
  intro root
  dsimp only
  split
  · apply tidy_resolveOptions
  · apply (Job.tidy_read _).bind
    intro cache
    split
    · apply Job.Tidy.done
    · apply (tidy_resolveOptions setup _ _ _).bind
      intro options
      apply (Job.tidy_update _).bind
      · intro _
        apply Job.Tidy.done
      · intro s
        exact .of_eq rfl rfl

theorem tidy_validateDocument (document : Document) :
  (validateDocument setup document).Tidy known
  := by
  apply Job.tidy_read_bind
  intro s linked _
  split
  · apply Job.Tidy.done
  · rename_i engine linter
    apply (Job.tidy_read _).bind
    intro settings
    split
    · apply (tidy_optionsFor setup document).bind
      intro options
      apply Validation.tidy_single (linked engine linter)
    · apply Job.Tidy.done

theorem tidy_batchOf (documents : List Document) :
  (batchOf setup documents).Tidy known
  := by
  induction documents with
  | nil => apply Job.Tidy.done
  | cons document rest ih =>
    rw [batchOf]
    split
    · apply (tidy_optionsFor setup document).bind
      intro options
      apply ih.bind
      intro batch
      apply Job.Tidy.done
    · apply ih

theorem tidy_validateOpen :
  (validateOpen setup).Tidy known
  := by
  apply Job.tidy_read_bind
  intro s linked _
  split
  · apply Job.Tidy.done
  · rename_i engine linter
    apply (Job.tidy_read _).bind
    intro settings
    split
    · apply (Job.tidy_read _).bind
      intro documents
      apply (tidy_batchOf setup documents).bind
      intro batch
      apply (Validation.tidy_all (linked engine linter) batch).bind
      intro _
      apply Job.Tidy.done
    · apply Job.Tidy.done

theorem tidy_clearOpen :
  clearOpen.Tidy known
  := by
  apply (Job.tidy_read _).bind
  intro documents
  apply Job.tidy_forEach_say
  intro _
  rfl

theorem tidy_validateOn (mode : RunMode) (document : Document) :
  (validateOn mode setup document).Tidy known
  := by
  apply (Job.tidy_read _).bind
  intro settings
  split
  · apply tidy_validateDocument
  · apply Job.Tidy.done

theorem tidy_updateDocument (uri : Uri) (version : Option Int) (text : String) :
  (updateDocument uri version text).Tidy known
  := by
  apply Job.Tidy.access
  · intro s
    exact .of_eq rfl rfl
  · intro s _ _
    apply Job.Tidy.done

theorem tidy_didOpen (document : Document) :
  (didOpen setup document).Tidy known
  := by
  apply (Job.tidy_update _).bind
  · intro _
    apply tidy_validateOn
  · intro s
    exact .of_eq rfl rfl

theorem tidy_didChange (uri : Uri) (version : Int) (texts : List String) :
  (didChange setup uri version texts).Tidy known
  := by
  rw [didChange]
  split
  · apply Job.Tidy.done
  · apply (tidy_updateDocument uri _ _).bind
    intro updated
    split
    · apply Job.Tidy.done
    · apply tidy_validateOn

theorem tidy_didSave (uri : Uri) (text : Option String) :
  (didSave setup uri text).Tidy known
  := by
  cases text with
  | none =>
    apply (Job.tidy_read _).bind
    rintro (_ | document)
    · apply Job.Tidy.done
    · apply tidy_validateOn
  | some text =>
    apply (tidy_updateDocument uri none text).bind
    rintro (_ | document)
    · apply Job.Tidy.done
    · apply tidy_validateOn

theorem tidy_didClose (uri : Uri) :
  (didClose uri).Tidy known
  := by
  apply (Job.tidy_update _).bind
  · intro _
    apply Job.tidy_say rfl
  · intro s
    exact .of_eq rfl rfl

theorem tidy_didChangeSettings (value : Json.Value) :
  (didChangeSettings setup value).Tidy known
  := by
  apply (Job.tidy_update _).bind
  · intro _
    apply (Job.tidy_read _).bind
    intro phase
    split
    · split
      · apply tidy_validateOpen
      · apply tidy_clearOpen
    · apply Job.Tidy.done
  · intro s
    exact .of_eq rfl rfl

theorem tidy_activate (root : Path) :
  (activate setup root).Tidy known
  := by
  apply (Job.tidy_immediately _).bind
  intro found
  split
  · apply Job.Tidy.done
  · apply (Job.tidy_say rfl).bind
    intro _
    apply (Job.tidy_immediately _).bind
    intro loaded
    split
    · apply Job.Tidy.done
    · apply (Job.tidy_update fun s => grows_addEngine s _).bind
      intro _
      apply (Job.tidy_update _).bind
      · intro _
        apply Job.Tidy.done
      · intro s
        exact .of_eq rfl rfl

theorem tidy_retry :
  (retry setup).Tidy known
  := by
  apply (Job.tidy_read _).bind
  intro root
  split
  · apply Job.Tidy.done
  · apply (tidy_activate setup _).bind
    intro outcome
    split
    · apply (Job.tidy_say rfl).bind
      intro _
      apply tidy_validateOpen
    · apply Job.Tidy.done

theorem tidy_didChangeFiles (uris : List Uri) :
  (didChangeFiles setup uris).Tidy known
  := by
  rw [didChangeFiles]
  split
  · apply Job.Tidy.done
  apply (Job.tidy_update _).bind
  · intro _
    apply (Job.tidy_read _).bind
    intro phase
    split
    · apply tidy_validateOpen
    · split
      · apply tidy_retry
      · apply Job.Tidy.done
    · apply Job.Tidy.done
  · intro s
    exact .of_eq rfl rfl

theorem tidy_lookFor (root : Path) :
  (lookFor setup root).Tidy known
  := by
  have settle (phase : Phase) : (Job.update fun s => { s with phase := phase }).Tidy known := by
    apply Job.tidy_update
    intro s
    exact .of_eq rfl rfl
  apply (tidy_activate setup root).bind
  intro outcome
  split
  · apply Job.Tidy.done
  · apply (Job.tidy_immediately _).bind
    intro configured
    split
    · apply (settle _).bind
      intro _
      apply Job.Tidy.done
    · apply (settle _).bind
      intro _
      apply Job.Tidy.done
  · apply (Job.tidy_say rfl).bind
    intro _
    apply (settle _).bind
    intro _
    apply Job.Tidy.done

theorem tidy_startUp (request : StartRequest) :
  (startUp setup request).Tidy known
  := by
  rw [startUp_eq]
  apply (Job.tidy_update _).bind
  · intro _
    have takes : (takeSettings request.options).Tidy known := by
      cases request.options with
      | none => apply Job.Tidy.done
      | some value =>
        apply Job.tidy_update
        intro s
        exact .of_eq rfl rfl
    apply takes.bind
    intro _
    apply tidy_lookFor
  · intro s
    exact .of_eq rfl rfl

end Session

/-- The job for a message uses engines in inspections only. -/
theorem Message.tidy_job (setup : Setup) (message : Message) {known : Nat} :
  (message.job setup).Tidy known
  := by
  cases message with
  | start request =>
    apply (Session.tidy_startUp setup request).bind
    intro _
    apply Job.Tidy.done
  | opened document => apply Session.tidy_didOpen
  | changed uri version texts => apply Session.tidy_didChange
  | saved uri text => apply Session.tidy_didSave
  | closed uri => apply Session.tidy_didClose
  | settings value => apply Session.tidy_didChangeSettings
  | files uris => apply Session.tidy_didChangeFiles

end TemplateLint
