import TemplateLint.Proofs.Session.Inspection

/-!
# Batches

What the validation of a batch comes to, whatever the linter makes of each document and
whatever becomes of the store during each check.  The documents are checked one after
another with the options of their own; the diagnostics of those that are still current
after their checks are published at once, and the distinct failures of those are shown in
one message at the end.
-/

namespace TemplateLint

/-! ### Runs on changing hosts -/

namespace Job

/-- The result of a job that runs alone, where after each check another host takes over;
with the number of the last host, the state that the job leaves and the events on the way. -/
def runAcross (hosts : Nat → Host) : Job α → Nat → Session → α × Nat × Session × List Event
  | done a, n, s => (a, n, s, [])
  | access update next, n, s => (next s).runAcross hosts n (update s)
  | change update next, n, s => next.runAcross hosts n (update s)
  | take engine next, n, s => next.runAcross hosts n (s.take engine)
  | check engine text path next, n, s =>
    let (options, program) := checkBy s engine text path
    let problems := program.run (hosts n).answer
    let s := { s with documents := (hosts n).during text path s.documents }
    let (a, last, s, events) := (next problems).runAcross hosts (n + 1) s
    (a, last, s, .checking options text path :: events)
  | ask request next, n, s => (next ((hosts n).answer request)).runAcross hosts n s
  | probe request next, n, s => (next ((hosts n).answer request)).runAcross hosts n s
  | tell event next, n, s =>
    let (a, last, s, events) := next.runAcross hosts n s
    (a, last, s, event :: events)

/-- On hosts that are all the same a job runs as it does on one of them. -/
theorem runAcross_same (host : Host) (t : Job α) (n : Nat) (s : Session) :
  ∃ last, t.runAcross (fun _ => host) n s
    = ((t.run host s).1, last, (t.run host s).2.1, (t.run host s).2.2)
  := by
  induction t generalizing n s with
  | done a => exact ⟨n, rfl⟩
  | access update next ih => apply ih s
  | change update next ih => apply ih
  | take engine next ih => apply ih
  | check engine text path next ih =>
    obtain ⟨last, ran⟩ := ih ((checkBy s engine text path).2.run host.answer) (n + 1)
      { s with documents := host.during text path s.documents }
    use last
    simp [runAcross, run, ran]
  | ask request next ih => apply ih (host.answer request)
  | probe request next ih => apply ih (host.answer request)
  | tell event next ih =>
    obtain ⟨last, ran⟩ := ih n s
    use last
    simp [runAcross, run, ran]

/-- Running a sequence is running its parts one after the other, the second one from the host
on which the first one ends. -/
theorem runAcross_bind (hosts : Nat → Host) (t : Job α) (next : α → Job β) (n : Nat)
    (s : Session) :
  (t >>= next).runAcross hosts n s
    = let (a, m, s, first) := t.runAcross hosts n s
      let (b, last, s, second) := (next a).runAcross hosts m s
      (b, last, s, first ++ second)
  := by
  change (t.bind next).runAcross hosts n s = _
  induction t generalizing n s with
  | done a => rfl
  | access update rest ih => apply ih s
  | change update rest ih => apply ih
  | take engine rest ih => apply ih
  | check engine text path rest ih => simp [bind, runAcross, ih]
  | ask request rest ih => apply ih
  | probe request rest ih => apply ih
  | tell event rest ih => simp [bind, runAcross, ih]

theorem runAcross_bind_of {hosts : Nat → Host} {t : Job α} {next : α → Job β} {m n k : Nat}
    {s₀ s₁ s₂ : Session} {a : α} {b : β} {first second : List Event}
    (h : t.runAcross hosts m s₀ = (a, n, s₁, first))
    (h' : (next a).runAcross hosts n s₁ = (b, k, s₂, second)) :
  (t >>= next).runAcross hosts m s₀ = (b, k, s₂, first ++ second)
  := by
  simp [runAcross_bind, h, h']

end Job

/-- The events that reach the client: all but checks and the loading of the linter. -/
def Event.isSent : Event → Bool
  | checking _ _ _ => false
  | loading _ => false
  | _ => true

namespace Validation

/-! ### Checkups -/

/-- What becomes of a document of a batch: the outcome of its check under its options, and
the store right after the check. -/
structure Checkup where
  document : Document
  options : Options
  outcome : Except Failure (List Problem)
  store : Store

namespace Checkup

/-- Whether the document is still current after its check. -/
def isCurrent (c : Checkup) : Bool := c.store.isCurrent c.document

/-- The event of the check. -/
def checking (c : Checkup) : Event :=
  .checking c.options c.document.text c.document.checkPath

/-- What is published: the diagnostics of a document that is still current and whose check
has succeeded. -/
def publication? (c : Checkup) : Option Event :=
  match c.outcome with
  | .ok problems =>
    if c.isCurrent then
      some (.published c.document.uri (problems.map Problem.toDiagnostic) c.document.version)
    else none
  | .error _ => none

/-- What is reported: the failure of the check of a document that is still current. -/
def complaint? (c : Checkup) : Option String :=
  match c.outcome with
  | .ok _ => none
  | .error failure => if c.isCurrent then some (failureMessage failure c.document) else none

/-- The events of a checkup. -/
def events (c : Checkup) : List Event := c.checking :: c.publication?.toList

/-- The outcome of the validation of the document. -/
def result (c : Checkup) : Except Failure (Option (List Diagnostic)) :=
  Validation.outcome c.isCurrent c.outcome

theorem announced_result (c : Checkup) :
  announced c.document c.result = c.publication?.toList
  := by
  rw [result, publication?, Validation.outcome]
  cases c.outcome with
  | error failure => cases c.isCurrent <;> rfl
  | ok problems => cases c.isCurrent <;> rfl

/-- A validation fails if its failure is to be reported. -/
theorem complaint?_eq (c : Checkup) :
  c.complaint?
    = match c.result with
      | .ok _ => none
      | .error failure => some (failureMessage failure c.document)
  := by
  rw [result, complaint?, Validation.outcome]
  cases c.outcome with
  | error failure => cases c.isCurrent <;> rfl
  | ok problems => cases c.isCurrent <;> rfl

end Checkup

/-- The checkup of a document on a host, from a store on. -/
def checkup (check : Checker) (host : Job.Host) (store : Store) (document : Document)
    (options : Options) : Checkup where
  document := document
  options := options
  outcome := (check options document.text document.checkPath).run host.answer
  store := host.during document.text document.checkPath store

/-- The checkups of a batch one after another, from a host and a store on. -/
def checkups (check : Checker) (hosts : Nat → Job.Host) :
    Nat → Store → List (Document × Options) → List Checkup
  | _, _, [] => []
  | n, store, (document, options) :: rest =>
    let c := checkup check (hosts n) store document options
    c :: checkups check hosts (n + 1) c.store rest

/-- What is shown at the end of a batch about the failures in it. -/
def farewell (complaints : List String) : List Event :=
  if complaints = [] then [] else [.shown .error ("\n".intercalate complaints.eraseDups)]

/-! ### Reports -/

/-- The report of the distinct messages that are told, once one more is told. -/
theorem Report.add_eraseDups (told : List String) (message : String) :
  Report.add ⟨told.eraseDups⟩ message = ⟨(told ++ [message]).eraseDups⟩
  := by
  rw [List.eraseDups_append, Report.add]
  by_cases known : message ∈ told
  · simp [known, List.removeAll]
  · simp [known, List.removeAll, List.eraseDups_cons]

theorem Report.isEmpty_eraseDups (told : List String) :
  Report.isEmpty ⟨told.eraseDups⟩ = told.isEmpty
  := by
  cases told with
  | nil => rfl
  | cons message rest => simp [Report.isEmpty, List.eraseDups_cons]

variable {check : Checker} (hosts : Nat → Job.Host) {engine : Nat}

theorem runAcross_send (told : List String) (n : Nat) (s : Session) :
  (Report.send ⟨told.eraseDups⟩).runAcross hosts n s = ((), n, s, farewell told)
  := by
  rw [Report.send, Report.isEmpty_eraseDups, farewell]
  cases told with
  | nil => rfl
  | cons message rest => rfl

/-! ### Runs of validations -/

/-- After the check of an inspection its outcome is published, if the document is current. -/
theorem runAcross_conclude (v : Inspection) (problems : Except Failure (List Problem)) (n : Nat)
    (s : Session) :
  (v.conclude problems).runAcross hosts n s
    = let result := Validation.outcome (s.documents.isCurrent v.document) problems
      (result, n, s, announced v.document result)
  := by
  unfold Inspection.conclude
  rw [Job.runAcross, id_eq, Validation.outcome]
  cases s.documents.isCurrent v.document with
  | false => rfl
  | true =>
    cases problems with
    | error failure => rfl
    | ok problems => rfl

/-- A validation of a document is a checkup on the present host. -/
theorem runAcross_one {s : Session} (engaged : s.engines[engine]?.map Engine.check = some check)
    (document : Document) (options : Options) (n : Nat) :
  let c := checkup check (hosts n) s.documents document options
  (one engine document options).runAcross hosts n s
    = (c.result, n + 1, { s.used engine options with documents := c.store }, c.events)
  := by
  intro c
  obtain ⟨e, present, rfl⟩ := Option.map_eq_some_iff.mp engaged
  let taken := (s.take engine).configure engine options
  have checks : Job.checkBy taken engine document.text document.checkPath
      = (options, e.check options document.text document.checkPath) := by
    simp [taken, Job.checkBy, Session.take, Session.configure, Session.engines_changeEngine,
      present]
  let v : Inspection := ⟨engine, document, options⟩
  change (Job.check engine document.text document.checkPath fun problems =>
    Job.change (fun s => s.giveBack engine) (v.conclude problems)).runAcross hosts n taken = _
  simp only [Job.runAcross, checks, runAcross_conclude]
  rw [Checkup.events, ← Checkup.announced_result]
  rfl

/-- A batch is checked document by document, each failure that is to be reported is added to
the report, and the linter stays what it is. -/
theorem runAcross_through (batch : List (Document × Options)) (told : List String) {s : Session}
    (engaged : s.engines[engine]?.map Engine.check = some check) (n : Nat) :
  let pairs := checkups check hosts n s.documents batch
  ∃ next, (through engine batch ⟨told.eraseDups⟩).runAcross hosts n s
    = (⟨(told ++ pairs.filterMap Checkup.complaint?).eraseDups⟩, n + batch.length, next,
        pairs.flatMap Checkup.events)
  := by
  induction batch generalizing told s n with
  | nil =>
    use s
    simp [through, checkups, Job.runAcross]
  | cons entry rest ih =>
    obtain ⟨document, options⟩ := entry
    let c := checkup check (hosts n) s.documents document options
    let after : Session := { s.used engine options with documents := c.store }
    have engaged' : after.engines[engine]?.map Engine.check = some check := by
      have engines : after.engines = (s.used engine options).engines := rfl
      rw [engines, Session.used_eq, Session.engines_changeEngine, Option.map_map]
      apply engaged
    have first : (one engine document options).runAcross hosts n s
        = (c.result, n + 1, after, c.events) :=
      runAcross_one hosts engaged document options n
    have tested : checkup check (hosts n) s.documents document options = c := rfl
    have count : n + (rest.length + 1) = n + 1 + rest.length := by omega
    simp only [through, checkups, tested, List.length_cons, count, List.flatMap_cons,
      List.filterMap_cons, c.complaint?_eq]
    cases result : c.result with
    | ok diagnostics =>
      obtain ⟨next, later⟩ := ih told engaged' (n + 1)
      rw [result] at first
      use next
      apply Job.runAcross_bind_of first later
    | error failure =>
      obtain ⟨next, later⟩ :=
        ih (told ++ [failureMessage failure document]) engaged' (n + 1)
      rw [result] at first
      rw [List.append_assoc, ← Report.add_eraseDups] at later
      use next
      apply Job.runAcross_bind_of first later

/-- After the checkups of a batch what is left to be said is shown. -/
theorem runAcross_all {s : Session} (engaged : s.engines[engine]?.map Engine.check = some check)
    (batch : List (Document × Options)) :
  let pairs := checkups check hosts 0 s.documents batch
  let complaints := pairs.filterMap Checkup.complaint?
  ∃ next, (all engine batch).runAcross hosts 0 s
    = (⟨complaints.eraseDups⟩, batch.length, next,
        pairs.flatMap Checkup.events ++ farewell complaints)
  := by
  intro pairs complaints
  obtain ⟨next, ran⟩ := runAcross_through hosts batch [] engaged 0
  rw [List.nil_append, Nat.zero_add] at ran
  use next
  have sent := runAcross_send hosts complaints batch.length next
  apply Job.runAcross_bind_of ran
  rw [← List.append_nil (farewell complaints)]
  apply Job.runAcross_bind_of sent rfl

/-! ### What is checked, published and shown -/

theorem checks_events (c : Checkup) :
  Event.checks c.events = [(c.options, c.document.text, c.document.checkPath)]
  := by
  rw [Checkup.events, Checkup.publication?]
  cases c.outcome with
  | error failure => rfl
  | ok problems => cases c.isCurrent <;> rfl

theorem sent_events (c : Checkup) :
  c.events.filter Event.isSent = c.publication?.toList
  := by
  rw [Checkup.events, Checkup.publication?]
  cases c.outcome with
  | error failure => rfl
  | ok problems => cases c.isCurrent <;> rfl

/-- The checks of a batch are those of its documents under the options of their own. -/
theorem checks_checkups (batch : List (Document × Options)) (n : Nat) (store : Store) :
  Event.checks ((checkups check hosts n store batch).flatMap Checkup.events)
    = batch.map fun entry => (entry.2, entry.1.text, entry.1.checkPath)
  := by
  induction batch generalizing n store with
  | nil => rfl
  | cons entry rest ih =>
    rw [checkups, List.flatMap_cons, Event.checks_append, checks_events, ih]
    rfl

theorem sent_checkups (pairs : List Checkup) :
  (pairs.flatMap Checkup.events).filter Event.isSent = pairs.filterMap Checkup.publication?
  := by
  induction pairs with
  | nil => rfl
  | cons c rest ih =>
    rw [List.flatMap_cons, List.filter_append, sent_events, ih, List.filterMap_cons]
    cases c.publication? <;> rfl

theorem checks_farewell (complaints : List String) :
  Event.checks (farewell complaints) = []
  := by
  rw [farewell]
  split <;> rfl

theorem sent_farewell (complaints : List String) :
  (farewell complaints).filter Event.isSent = farewell complaints
  := by
  rw [farewell]
  split <;> rfl

/-- Whatever the linter makes of the documents of a batch, and whatever becomes of the store
during each check: all documents are checked in order, each once and with the options of
its own; for those that are still current after their checks, the diagnostics are published
in order if the checks succeed, and the distinct messages about the failures, in the order
of their first occurrences, are shown in one message at the end, if there are any; and
these messages are the report. -/
theorem all_checks_publishes_reports {s : Session}
    (engaged : s.engines[engine]?.map Engine.check = some check)
    (batch : List (Document × Options)) :
  let pairs := checkups check hosts 0 s.documents batch
  let complaints := pairs.filterMap Checkup.complaint?
  let ran := (all engine batch).runAcross hosts 0 s
  let events := ran.2.2.2
  Event.checks events = batch.map (fun entry => (entry.2, entry.1.text, entry.1.checkPath))
    ∧ events.filter Event.isSent
      = pairs.filterMap Checkup.publication?
        ++ (if complaints = [] then [] else
          [.shown .error ("\n".intercalate complaints.eraseDups)])
    ∧ ran.1.messages = complaints.eraseDups
  := by
  intro pairs complaints
  obtain ⟨next, ran⟩ := runAcross_all hosts engaged batch
  rw [ran]
  dsimp only
  refine ⟨?checks, ?sent, rfl⟩
  case checks =>
    rw [Event.checks_append, checks_checkups, checks_farewell, List.append_nil]
  case sent =>
    rw [List.filter_append, sent_checkups, sent_farewell, farewell]

end Validation

/-! ### A batch in which a document changes and others fail -/

namespace Sample

/-- A linter that finds nothing in one text and fails with all others. -/
def picky : Checker := fun options text _ =>
  pure (if text = "p" then .ok (lint options.members) else .error (.linter text))

/-- A template with a text. -/
def written (path text : String) : Document := { template path with text := text }

/-- Options that allow lines of so many characters. -/
def limit (length : Nat) : Options := ⟨[("maximumLineLength", .number (.integer length))]⟩

/-- Two templates that are checked with success, and three that are not. -/
def batch : List (Document × Options) :=
  [(document, limit 80), (template "/w/b.pug", limit 90),
    (written "/w/c.pug" "bro\r\nken", .empty), (written "/w/d.pug" "worn", limit 80),
    (written "/w/e.pug" "bro\nken", limit 70)]

/-- A session in which the templates of the batch are open. -/
def crowded : Session :=
  { Session.start with
    engines := [⟨picky, .empty, false⟩]
    documents := batch.foldl (fun store entry => store.insert entry.1) .empty }

/-- The hosts of the batch: the second template is changed during the first check. -/
def edits (n : Nat) : Job.Host where
  answer := answer none
  during _ _ store :=
    if n = 0 then (store.update (template "/w/b.pug").uri (some 2) "q").2 else store

end Sample

namespace Validation

/-- The template that has changed is passed over, and two failures with the same message are
told once. -/
theorem all_checks_in_sample :
  let ran := (all 0 Sample.batch).runAcross Sample.edits 0 Sample.crowded
  let events := ran.2.2.2
  Event.checks events
      = Sample.batch.map (fun entry => (entry.2, entry.1.text, entry.1.checkPath))
    ∧ events.filter Event.isSent
      = [.published Sample.document.uri
          ((Sample.lint (Sample.limit 80).members).map Problem.toDiagnostic) (some 1),
        .shown .error "bro ken\nworn"]
    ∧ ran.1.messages = ["bro ken", "worn"]
  := by
  intro ran events
  have engaged : Sample.crowded.engines[0]?.map Engine.check = some Sample.picky := rfl
  have applied :=
    all_checks_publishes_reports Sample.edits engaged Sample.batch
  have complaints : (checkups Sample.picky Sample.edits 0 Sample.crowded.documents
      Sample.batch).filterMap Checkup.complaint? = ["bro ken", "worn", "bro ken"] := by
    decide +kernel
  have publications : (checkups Sample.picky Sample.edits 0 Sample.crowded.documents
      Sample.batch).filterMap Checkup.publication?
      = [.published Sample.document.uri
          ((Sample.lint (Sample.limit 80).members).map Problem.toDiagnostic) (some 1)] := by
    rfl
  refine ⟨applied.1, applied.2.1.trans ?_, applied.2.2.trans ?_⟩
  · rw [complaints, publications]
    rfl
  · rw [complaints]
    decide

end Validation

end TemplateLint
