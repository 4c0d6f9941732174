import TemplateLint.Proofs.Session.Batch
import TemplateLint.Proofs.Text.Lines

/-!
# What is told of failures

The failures in a batch are told in one message, one below the other.  The wording of a
failure is flattened for that, but a carriage return alone is left in it, and so is every
line break in the path of a document of which only the path is told.  It depends on these
whether there is one line for each distinct text.
-/

namespace TemplateLint

namespace Validation

/-! ### Flattened texts -/

/-- Whether every carriage return among characters is directly followed by a line feed. -/
def ReturnsPaired (cs : List Char) : Prop :=
  ∀ before after, cs = before ++ '\r' :: after → after.head? = some '\n'

theorem returnsPaired_nil :
  ReturnsPaired []
  := by
  intro before after same
  simp at same

theorem returnsPaired_cons {c : Char} {cs : List Char} :
  ReturnsPaired (c :: cs) ↔ (c = '\r' → cs.head? = some '\n') ∧ ReturnsPaired cs
  := by
  constructor
  · intro paired
    constructor
    · rintro rfl
      apply paired [] cs rfl
    · rintro before after rfl
      apply paired (c :: before) after rfl
  · rintro ⟨first, paired⟩ before after same
    cases before with
    | nil =>
      obtain ⟨rfl, rfl⟩ := List.cons.inj same
      apply first rfl
    | cons b before =>
      obtain ⟨rfl, rfl⟩ := List.cons.inj same
      apply paired before after rfl

/-- Nothing but a carriage return without a line feed leaves a line break. -/
theorem unbroken_flattenChars (cs : List Char) :
  (∀ c ∈ flattenChars cs, Text.isBreak c = false) ↔ ReturnsPaired cs
  := by
  induction cs using flattenChars.induct with
  | case1 rest ih =>
    have pair : ReturnsPaired ('\r' :: '\n' :: rest) ↔ ReturnsPaired rest := by
      simp [returnsPaired_cons]
    rw [flattenChars, List.forall_mem_cons, pair]
    apply and_iff_right_of_imp (fun _ => rfl) |>.trans ih
  | case2 rest ih =>
    have feed : ReturnsPaired ('\n' :: rest) ↔ ReturnsPaired rest := by
      simp [returnsPaired_cons]
    rw [flattenChars, List.forall_mem_cons, feed]
    apply and_iff_right_of_imp (fun _ => rfl) |>.trans ih
  | case3 c rest alone notFeed ih =>
    have stays : Text.isBreak c = false ↔ (c = '\r' → rest.head? = some '\n') := by
      rw [Text.isBreak, Bool.or_eq_false_iff, decide_eq_false_iff_not, decide_eq_false_iff_not]
      constructor
      · rintro ⟨-, notReturn⟩ same
        contradiction
      · intro followed
        use notFeed
        intro same
        obtain ⟨later, rfl⟩ := List.head?_eq_some_iff.mp (followed same)
        apply alone later same rfl
    rw [flattenChars, List.forall_mem_cons, returnsPaired_cons]
    · apply and_congr stays ih
    · assumption
    · assumption
  | case4 => simp [flattenChars, returnsPaired_nil]

instance : DecidablePred ReturnsPaired := fun cs =>
  letI := List.decidableBAll (fun c => Text.isBreak c = false) (flattenChars cs)
  decidable_of_iff _ (unbroken_flattenChars cs)

/-! ### Single failures -/

/-- Whether what is told of a failure to check a document fits on one line.  If nothing is
known of the failure, that depends on the path of the document, and else on the wording of
the failure. -/
def FitsLine (failure : Failure) (document : Document) : Prop :=
  if failure = .unknown then Text.Unbroken document.displayPath
  else ReturnsPaired failure.message.toList

instance (failure : Failure) (document : Document) : Decidable (FitsLine failure document) :=
  inferInstanceAs (Decidable (if failure = .unknown then Text.Unbroken document.displayPath
    else ReturnsPaired failure.message.toList))

theorem failureMessage_eq (failure : Failure) (document : Document) :
  failureMessage failure document
    = if failure = .unknown then
        "An unknown error occurred while validating file: " ++ document.displayPath
      else String.ofList (flattenChars failure.message.toList)
  := by
  cases failure <;> rfl

theorem unbroken_failureMessage {failure : Failure} {document : Document} :
  Text.Unbroken (failureMessage failure document) ↔ FitsLine failure document
  := by
  rw [failureMessage_eq, FitsLine]
  split
  · have opening : Text.Unbroken "An unknown error occurred while validating file: " := by
      decide
    rw [Text.unbroken_append]
    apply and_iff_right opening
  · rw [Text.Unbroken, String.toList_ofList]
    apply unbroken_flattenChars

/-! ### Reports of failures -/

/-- The report with what is told of a failure to check a document. -/
def Report.addFailure (r : Report) (failed : Failure × Document) : Report :=
  r.add (failureMessage failed.1 failed.2)

/-- The report of failures to check documents. -/
def Report.ofFailures (failures : List (Failure × Document)) : Report :=
  failures.foldl addFailure .empty

theorem Report.foldl_addFailure (told : List String) (failures : List (Failure × Document)) :
  failures.foldl addFailure ⟨told.eraseDups⟩
    = ⟨(told ++ failures.map fun failed => failureMessage failed.1 failed.2).eraseDups⟩
  := by
  induction failures generalizing told with
  | nil => simp
  | cons failed rest ih =>
    rw [List.foldl_cons, addFailure, add_eraseDups, ih, List.append_assoc]
    rfl

/-- A report of failures has their distinct messages in the order of their first
occurrences. -/
theorem Report.ofFailures_eq (failures : List (Failure × Document)) :
  ofFailures failures
    = ⟨(failures.map fun failed => failureMessage failed.1 failed.2).eraseDups⟩
  := Report.foldl_addFailure [] failures

/-- The failure of a document that is still current after its check, with the document. -/
def Checkup.failed? (c : Checkup) : Option (Failure × Document) :=
  match c.outcome with
  | .ok _ => none
  | .error failure => if c.isCurrent then some (failure, c.document) else none

theorem Checkup.complaint?_eq_failed? (c : Checkup) :
  c.complaint? = c.failed?.map fun failed => failureMessage failed.1 failed.2
  := by
  rw [complaint?, failed?]
  cases c.outcome with
  | ok problems => rfl
  | error failure => cases c.isCurrent <;> rfl

/-- If there are failures, a batch ends with their report and shows it in one message after all
else. -/
theorem runAcross_all_failures {check : Checker} (hosts : Nat → Job.Host) {engine : Nat}
    {s : Session} (engaged : s.engines[engine]?.map Engine.check = some check)
    (batch : List (Document × Options)) {failures : List (Failure × Document)}
    (failing : failures ≠ [])
    (failed : (checkups check hosts 0 s.documents batch).filterMap Checkup.failed? = failures) :
  let ran := (all engine batch).runAcross hosts 0 s
  ran.1 = Report.ofFailures failures
    ∧ ran.2.2.2 = (checkups check hosts 0 s.documents batch).flatMap Checkup.events
      ++ [.shown .error (Report.ofFailures failures).text]
  := by
  intro ran
  obtain ⟨next, run⟩ := runAcross_all hosts engaged batch
  have complaints : (checkups check hosts 0 s.documents batch).filterMap Checkup.complaint?
      = failures.map fun failed => failureMessage failed.1 failed.2 := by
    simp only [← failed, List.map_filterMap, ← Checkup.complaint?_eq_failed?]
  have told : (failures.map fun failed => failureMessage failed.1 failed.2) ≠ [] := by
    simpa using failing
  rw [complaints, ← Report.ofFailures_eq, farewell, if_neg told] at run
  rw [show ran = _ from run, Report.ofFailures_eq]
  exact ⟨rfl, rfl⟩

/-- The report of failures has their distinct messages in order, and a batch with these
failures shows its text in one message at the end.  The lines of that text are the messages
of the report if and only if what is told of each failure fits on one line. -/
theorem failures_on_lines_iff {failures : List (Failure × Document)} (failing : failures ≠ []) :
  let report := Report.ofFailures failures
  report.messages = (failures.map fun failed => failureMessage failed.1 failed.2).eraseDups
    ∧ (∀ (check : Checker) (hosts : Nat → Job.Host) (engine : Nat)
        (batch : List (Document × Options)) (s : Session),
      s.engines[engine]?.map Engine.check = some check →
      (checkups check hosts 0 s.documents batch).filterMap Checkup.failed? = failures →
      let ran := (all engine batch).runAcross hosts 0 s
      ran.1 = report ∧ ran.2.2.2 = (checkups check hosts 0 s.documents batch).flatMap
        Checkup.events ++ [.shown .error report.text])
    ∧ (Text.lines report.text = report.messages
      ↔ ∀ failed ∈ failures, FitsLine failed.1 failed.2)
  := by
  intro report
  have messages : report.messages
      = (failures.map fun failed => failureMessage failed.1 failed.2).eraseDups := by
    rw [show report = _ from Report.ofFailures_eq failures]
  refine ⟨messages, ?_, ?_⟩
  · intro check hosts engine batch s engaged failed
    apply runAcross_all_failures hosts engaged batch failing failed
  · have told : report.messages ≠ [] := by
      obtain ⟨failed, rest, rfl⟩ := List.exists_cons_of_ne_nil failing
      rw [messages, List.map_cons, List.eraseDups_cons]
      apply List.cons_ne_nil
    rw [Report.text, Text.lines_intercalate told, messages]
    simp only [List.mem_eraseDups, List.forall_mem_map, unbroken_failureMessage]

theorem failures_on_lines_in_sample :
  let failures := (checkups Sample.picky Sample.edits 0 Sample.crowded.documents
    Sample.batch).filterMap Checkup.failed?
  failures ≠ []
    ∧ ((all 0 Sample.batch).runAcross Sample.edits 0 Sample.crowded).1
      = Report.ofFailures failures
    ∧ Text.lines (Report.ofFailures failures).text = ["bro ken", "worn"]
  := by
  intro failures
  have failing : failures ≠ [] := by decide +kernel
  have fits : ∀ failed ∈ failures, FitsLine failed.1 failed.2 := by decide +kernel
  obtain ⟨messages, shown, lines⟩ := failures_on_lines_iff failing
  refine ⟨failing, (shown Sample.picky Sample.edits 0 Sample.batch Sample.crowded rfl rfl).1, ?_⟩
  rw [lines.mpr fits, messages]
  decide +kernel

/-- What is told of a failure breaks its line with a carriage return that the linter writes,
and with a line feed in the path of the document. -/
theorem failures_break_lines :
  ¬ (∀ failures : List (Failure × Document), failures ≠ [] →
      Text.lines (Report.ofFailures failures).text = (Report.ofFailures failures).messages)
    ∧ failureMessage (.linter "a\rb") Sample.document = "a\rb"
    ∧ Text.lines (Report.ofFailures [(.linter "a\rb", Sample.document)]).text = ["a", "b"]
    ∧ Text.lines (Report.ofFailures [(.unknown, Sample.template "/w/a%0Ab.pug")]).text
      = ["An unknown error occurred while validating file: /w/a", "b.pug"]
  := by
  have torn : Text.lines (Report.ofFailures [(.linter "a\rb", Sample.document)]).text
      = ["a", "b"] := by
    decide +kernel
  refine ⟨?_, by decide +kernel, torn, by decide +kernel⟩
  intro whole
  have one := whole [(.linter "a\rb", Sample.document)] (List.cons_ne_nil _ _)
  rw [torn] at one
  revert one
  decide +kernel

end Validation

end TemplateLint
