import TemplateLint.Session.Job

/-!
# Validation

The check of documents and the publication of its outcome.  An engine stays taken from
its configuration to the end of the check, so no other options get in between.  The
outcome of a check counts only if the document is still what was checked; otherwise
another validation is on its way, and neither problems nor a failure are told.  Failures
of many documents are told together, each distinct one once.
-/

namespace TemplateLint

namespace Validation

/-- A text with each line break of a line feed replaced by a space, together with the
carriage return before it. -/
def flattenChars : List Char → List Char
  | '\r' :: '\n' :: rest => ' ' :: flattenChars rest
  | '\n' :: rest => ' ' :: flattenChars rest
  | c :: rest => c :: flattenChars rest
  | [] => []

/-- What is told of a failure to check a document. -/
def failureMessage (failure : Failure) (document : Document) : String :=
  match failure with
  | .unknown => "An unknown error occurred while validating file: " ++ document.displayPath
  | other => String.ofList (flattenChars other.message.toList)

/-- The job that checks a document and publishes the diagnostics, which are its result
unless the document has changed meanwhile. -/
def one (engine : Nat) (document : Document) (options : Options) :
    Job (Except Failure (Option (List Diagnostic))) :=
  .take engine <| .change (fun s => s.configure engine options) <|
    .check engine document.text document.checkPath fun problems =>
      .change (fun s => s.giveBack engine) <|
        .access id fun s =>
          if s.documents.isCurrent document then
            match problems with
            | .error failure => .done (.error failure)
            | .ok problems =>
              let diagnostics := problems.map Problem.toDiagnostic
              .tell (.published document.uri diagnostics document.version)
                (.done (.ok (some diagnostics)))
          else .done (.ok none)

/-- The job that validates a document and shows a failure at once. -/
def single (engine : Nat) (document : Document) (options : Options) : Job Unit := do
  match ← one engine document options with
  | .ok _ => return ()
  | .error failure => .say (.shown .error (failureMessage failure document))

/-! ### Batches -/

/-- The distinct messages about failures in a batch, in the order of their first
occurrences. -/
structure Report where
  messages : List String
deriving DecidableEq

namespace Report

/-- The report without messages. -/
def empty : Report := ⟨[]⟩

/-- Whether there are no messages. -/
def isEmpty (r : Report) : Bool := r.messages.isEmpty

/-- The report with a message. -/
def add (r : Report) (message : String) : Report :=
  if r.messages.contains message then r else ⟨r.messages ++ [message]⟩

/-- The text of all messages, each on a line. -/
def text (r : Report) : String := "\n".intercalate r.messages

/-- The job that shows a report, unless it is empty. -/
def send (r : Report) : Job Unit :=
  if r.isEmpty then .done () else .say (.shown .error r.text)

end Report

/-- The job that validates documents one after another and extends a report. -/
def through (engine : Nat) : List (Document × Options) → Report → Job Report
  | [], report => .done report
  | (document, options) :: rest, report => do
    match ← one engine document options with
    | .ok _ => through engine rest report
    | .error failure => through engine rest (report.add (failureMessage failure document))

/-- The job that validates documents with options and shows all failures at the end. -/
def all (engine : Nat) (batch : List (Document × Options)) : Job Report := do
  let report ← through engine batch .empty
  report.send
  return report

end Validation

end TemplateLint
