import TemplateLint.Proofs.Document.Versions
import TemplateLint.Proofs.Session.Batch

/-!
# Checks that are overtaken

What the validation of one document comes to, whatever its check makes of it and whatever
is done to the store while it is checked.  The outcome of the check counts if the store
still holds the version and the text that were checked: then problems are published, and a
failure is the result.  Otherwise the check is overtaken, and nothing is told of it, be it
problems or a failure.  The store itself is only looked at.
-/

namespace TemplateLint

namespace Store

/-! ### Documents that are held -/

/-- Whether a store holds the version and the text of a document under its URI. -/
def Holds (s : Store) (document : Document) : Prop :=
  ∃ stored, s.get? document.uri = some stored
    ∧ stored.version = document.version ∧ stored.text = document.text

instance (s : Store) (document : Document) : Decidable (s.Holds document) :=
  decidable_of_iff _ (isCurrent_iff s document)

theorem isCurrent_eq_false_iff {s : Store} {document : Document} :
  s.isCurrent document = false ↔ ¬ s.Holds document
  := by
  rw [Holds, ← isCurrent_iff, Bool.not_eq_true]

end Store

namespace Validation

/-! ### What becomes of a checkup -/

namespace Checkup

variable {c : Checkup}

/-- Nothing comes of a check that is overtaken, not even its failure. -/
theorem of_overtaken (overtaken : ¬ c.store.Holds c.document) :
  c.result = .ok none ∧ c.publication? = none
  := by
  have current : c.isCurrent = false := Store.isCurrent_eq_false_iff.mpr overtaken
  rw [result, publication?, Validation.outcome, current]
  cases c.outcome with
  | error failure => exact ⟨rfl, rfl⟩
  | ok problems => exact ⟨rfl, rfl⟩

/-- The failure of a check that is not overtaken is the result. -/
theorem of_failure {failure : Failure} (failed : c.outcome = .error failure)
    (held : c.store.Holds c.document) :
  c.result = .error failure ∧ c.publication? = none
  := by
  have current : c.isCurrent = true := (Store.isCurrent_iff ..).mpr held
  rw [result, publication?, Validation.outcome, current, failed]
  exact ⟨rfl, rfl⟩

/-- The problems that a check finds are translated and published, if it is not overtaken. -/
theorem of_success {problems : List Problem} (checked : c.outcome = .ok problems)
    (held : c.store.Holds c.document) :
  let diagnostics := problems.map Problem.toDiagnostic
  c.result = .ok (some diagnostics)
    ∧ c.publication? = some (.published c.document.uri diagnostics c.document.version)
  := by
  have current : c.isCurrent = true := (Store.isCurrent_iff ..).mpr held
  rw [result, publication?, Validation.outcome, current, checked]
  exact ⟨rfl, rfl⟩

end Checkup

variable {check : Checker} {engine : Nat} {s : Session}

/-- A validation that runs alone is a checkup of its document. -/
theorem run_one_checkup (engaged : s.engines[engine]?.map Engine.check = some check)
    (host : Job.Host) (document : Document) (options : Options) :
  let c := checkup check host s.documents document options
  (one engine document options).run host s
    = (c.result, { s.used engine options with documents := c.store }, c.events)
  := by
  intro c
  obtain ⟨last, ran⟩ := Job.runAcross_same host (one engine document options) 0 s
  rw [runAcross_one (fun _ => host) engaged document options 0] at ran
  simp only [Prod.mk.injEq] at ran
  obtain ⟨result, -, left, events⟩ := ran
  apply Prod.ext result.symm
  apply Prod.ext left.symm events.symm

/-- Whatever the linter makes of a document, and whatever calls of the store come during
the check: if the check succeeds and the store then holds the version and the text that
were checked, the diagnostics of the problems, in order, are published once, under the URI
and the version of the document, and they are the result; in no other case is anything
published.  A failure is the result if and only if it is that of the check and the document
is held still.  If it is not, the result is empty and nothing is sent, whether the check
succeeds or fails.  The store is left as the calls leave it. -/
theorem one_publishes_if_held (engaged : s.engines[engine]?.map Engine.check = some check)
    (answer : Answering) (calls : List Store.Call) (document : Document) (options : Options) :
  let outcome := (check options document.text document.checkPath).run answer
  let store := s.documents.after calls
  let ran := (one engine document options).run ⟨answer, fun _ _ store => store.after calls⟩ s
  let sent := ran.2.2.filter Event.isSent
  (∀ problems, outcome = .ok problems → store.Holds document →
      let diagnostics := problems.map Problem.toDiagnostic
      sent = [.published document.uri diagnostics document.version]
        ∧ ran.1 = .ok (some diagnostics))
    ∧ (sent ≠ [] ↔ (∃ problems, outcome = .ok problems) ∧ store.Holds document)
    ∧ (∀ failure, ran.1 = .error failure ↔ outcome = .error failure ∧ store.Holds document)
    ∧ (¬ store.Holds document → ran.1 = .ok none ∧ sent = [])
    ∧ ran.2.1.documents = store
  := by
  intro outcome store ran sent
  let c := checkup check ⟨answer, fun _ _ store => store.after calls⟩ s.documents document options
  have run : ran = (c.result, { s.used engine options with documents := c.store }, c.events) :=
    run_one_checkup engaged _ document options
  have told : sent = c.publication?.toList := by
    rw [← sent_events, show sent = ran.2.2.filter Event.isSent from rfl, run]
  rw [told, run]
  by_cases held : store.Holds document
  · cases found : outcome with
    | error failure =>
      obtain ⟨result, publication⟩ := Checkup.of_failure (c := c) found held
      simp [result, publication, held, show c.store = store from rfl]
    | ok problems =>
      obtain ⟨result, publication⟩ := Checkup.of_success (c := c) found held
      simp [result, publication, held, show c.store = store from rfl,
        show c.document = document from rfl]
  · obtain ⟨result, publication⟩ := Checkup.of_overtaken (c := c) held
    simp [result, publication, held, show c.store = store from rfl]

/-- A document is published although a stale change of it, and a change of another one, arrive
during its check; one whose check fails while a newer version arrives is not told of. -/
theorem one_publishes_if_held_in_sample :
  let kept := (one 0 Sample.document (Sample.limit 80)).run
    ⟨Sample.answer none, fun _ _ store => store.after
      [.update Sample.document.uri (some 1) "q", .update (Sample.template "/w/b.pug").uri none "r"]⟩
    Sample.crowded
  let worn := Sample.written "/w/d.pug" "worn"
  let overtaken := (one 0 worn (Sample.limit 80)).run
    ⟨Sample.answer none, fun _ _ store => store.after [.update worn.uri (some 2) "new"]⟩
    Sample.crowded
  kept.2.2.filter Event.isSent
      = [.published Sample.document.uri
          ((Sample.lint (Sample.limit 80).members).map Problem.toDiagnostic) (some 1)]
    ∧ (Sample.picky (Sample.limit 80) worn.text worn.checkPath).run (Sample.answer none)
      = .error (.linter "worn")
    ∧ overtaken.1 = .ok none
    ∧ overtaken.2.2.filter Event.isSent = []
  := by
  intro kept worn overtaken
  have engaged : Sample.crowded.engines[0]?.map Engine.check = some Sample.picky := rfl
  have published := (one_publishes_if_held engaged (Sample.answer none)
    [.update Sample.document.uri (some 1) "q", .update (Sample.template "/w/b.pug").uri none "r"]
    Sample.document (Sample.limit 80)).1
  have silent := (one_publishes_if_held engaged (Sample.answer none)
    [.update worn.uri (some 2) "new"] worn (Sample.limit 80)).2.2.2.1
  refine ⟨(published _ rfl (by decide +kernel)).1, rfl, ?_⟩
  apply silent (by decide +kernel)

end Validation

end TemplateLint
