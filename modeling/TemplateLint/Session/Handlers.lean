import TemplateLint.Config.Resolution
import TemplateLint.Session.Validation

/-!
# What a session does

The jobs of a session for the messages of an editor.  A session is started with the
root of a workspace.  If the linter is installed there, the session is ready; if it is
not, but the workspace is configured for it, starting fails; otherwise the session waits
quietly for its installation.  A ready session validates templates when they change or
when they are saved, and all open ones when settings or configuration files change.
-/

namespace TemplateLint

/-- What a session is built from. -/
structure Setup where
  locator : Package.Locator
  load : Loader
  resolver : Resolver

/-- What an editor says when it starts a session. -/
structure StartRequest where
  rootUri : Option Uri
  rootPath : Option String
  folders : List Uri
  options : Option Json.Value

/-- The outcome of starting a session: it goes on, or the linter is missing. -/
inductive Started where
  | running
  | packageMissing
deriving DecidableEq

/-- The version of the program. -/
def version : String := "0.1.0"

namespace Session

/-- The message about a missing linter. -/
def packageMissingMessage : String :=
  "Failed to load pug-lint library. Please install pug-lint in your workspace folder using "
    ++ "**npm i pug-lint** or globally using **npm i -g pug-lint** and then press Retry."

/-- The number of the error of a missing linter. -/
def packageMissingCode : Int := 99

/-! ### The linter -/

/-- The root of the workspace that an editor names, or else the working directory. -/
def workspaceRoot (cwd : Path) (request : StartRequest) : Path :=
  ((request.rootUri.bind Uri.filePath?
    <|> request.rootPath.map Path.ofText)
    <|> (request.folders.head?.bind Uri.filePath?)).getD cwd

/-- The job that locates and loads the linter; its result is whether there is one. -/
def activate (setup : Setup) (root : Path) : Job (Except Failure Bool) := do
  match ← Job.immediately (setup.locator.locate Package.linterName root) with
  | none => return .ok false
  | some package =>
    Job.say (.loading package)
    match ← Job.immediately (setup.load package) with
    | .error failure => return .error failure
    | .ok check =>
      Job.update fun s => s.addEngine check
      Job.update fun s => { s with phase := .ready }
      return .ok true

/-- The job that starts a session. -/
def startUp (setup : Setup) (request : StartRequest) : Job Started := do
  let root := workspaceRoot setup.locator.environment.cwd request
  Job.update fun s => { s with root := some root }
  match request.options with
  | some options => Job.update fun s => { s with settings := Settings.ofValue options }
  | none => Job.done ()
  match ← activate setup root with
  | .ok true => return .running
  | .ok false =>
    if ← Job.immediately (Package.hasConfig root) then
      Job.update fun s => { s with phase := .unavailable }
      return .packageMissing
    else
      Job.update fun s => { s with phase := .awaitingPackage }
      return .running
  | .error failure =>
    Job.say (.logged .error ("Failed to load pug-lint: " ++ failure.message))
    Job.update fun s => { s with phase := .awaitingPackage }
    return .running

/-! ### Validation of documents -/

/-- What is shown of a source of options that was passed over. -/
def warningMessage (failure : Failure) : String :=
  "puglint: " ++ failure.message ++ ". Falling back to the next configuration source."

/-- The job whose result is the options for the documents of a directory, as far as they
come from files or, if there are any, from the editor. -/
def resolveOptions (setup : Setup) (root directory : Path) (inline : Option Options) :
    Job Options := do
  let resolution ← Job.await (setup.resolver.resolve root directory inline)
  Job.forEach resolution.warnings fun failure =>
    Job.say (.shown .warning (warningMessage failure))
  return resolution.options

/-- The directory that decides on the options of a document. -/
def directoryOf (root : Path) (document : Document) : Path :=
  (document.filePath?.bind Path.parent?).getD root

/-- The job whose result is the options for a document. -/
def optionsFor (setup : Setup) (document : Document) : Job Options := do
  let settings ← Job.read Session.settings
  let root := (← Job.read Session.root).getD Path.here
  let directory := directoryOf root document
  match settings.inlineOptions with
  | some inline => resolveOptions setup root directory (some inline)
  | none =>
    match (← Job.read Session.cache).get? directory with
    | some options => return options
    | none =>
      let options ← resolveOptions setup root directory none
      Job.update fun s => { s with cache := s.cache.insert directory options }
      return options

/-- The job that validates a document, if there is a linter that is enabled and the
document is a template. -/
def validateDocument (setup : Setup) (document : Document) : Job Unit := do
  match ← Job.read Session.linter with
  | none => return ()
  | some engine =>
    let settings ← Job.read Session.settings
    if settings.enable && document.isTemplate then
      let options ← optionsFor setup document
      Validation.single engine document options
    else return ()

/-- The job whose result is the templates among documents, each with its options. -/
def batchOf (setup : Setup) : List Document → Job (List (Document × Options))
  | [] => Job.done []
  | document :: rest => do
    if document.isTemplate then
      let options ← optionsFor setup document
      let batch ← batchOf setup rest
      return (document, options) :: batch
    else batchOf setup rest

/-- The job that validates all open templates, if there is a linter that is enabled. -/
def validateOpen (setup : Setup) : Job Unit := do
  match ← Job.read Session.linter with
  | none => return ()
  | some engine =>
    let settings ← Job.read Session.settings
    if settings.enable then
      let documents ← Job.read fun s => s.documents.all
      let batch ← batchOf setup documents
      let _ ← Validation.all engine batch
      return ()
    else return ()

/-- The job that clears the diagnostics of all open documents. -/
def clearOpen : Job Unit := do
  let documents ← Job.read fun s => s.documents.all
  Job.forEach documents fun document =>
    Job.say (.published document.uri [] document.version)

/-! ### Documents -/

/-- The job that validates a document if documents are validated on an occasion. -/
def validateOn (mode : RunMode) (setup : Setup) (document : Document) : Job Unit := do
  let settings ← Job.read Session.settings
  if settings.run = mode then validateDocument setup document else return ()

/-- The job for a document that was opened. -/
def didOpen (setup : Setup) (document : Document) : Job Unit := do
  Job.update fun s => { s with documents := s.documents.insert document }
  validateOn .onType setup document

/-- The job whose result is the document that a change leads to, if the change is not
refused. -/
def updateDocument (uri : Uri) (version : Option Int) (text : String) :
    Job (Option Document) :=
  .access (fun s => { s with documents := (s.documents.update uri version text).2 }) fun s =>
    .done (s.documents.update uri version text).1

/-- The job for a document that was changed; each text is a whole one, and the last
counts. -/
def didChange (setup : Setup) (uri : Uri) (version : Int) (texts : List String) : Job Unit := do
  match texts.getLast? with
  | none => return ()
  | some text =>
    match ← updateDocument uri (some version) text with
    | none => return ()
    | some document => validateOn .onType setup document

/-- The job for a document that was saved, with its text if the editor tells it. -/
def didSave (setup : Setup) (uri : Uri) (text : Option String) : Job Unit := do
  let document ←
    match text with
    | some text => updateDocument uri none text
    | none => Job.read fun s => s.documents.get? uri
  match document with
  | none => return ()
  | some document => validateOn .onSave setup document

/-- The job for a document that was closed. -/
def didClose (uri : Uri) : Job Unit := do
  Job.update fun s => { s with documents := s.documents.close uri }
  Job.say (.published uri [] none)

/-! ### Settings and files -/

/-- The job for settings that were changed. -/
def didChangeSettings (setup : Setup) (value : Json.Value) : Job Unit := do
  let settings := Settings.ofValue value
  Job.update fun s => { s with settings := settings }
  if (← Job.read Session.phase) = .ready then
    if settings.enable then validateOpen setup else clearOpen
  else return ()

/-- The job that looks for the linter again. -/
def retry (setup : Setup) : Job Unit := do
  match ← Job.read Session.root with
  | none => return ()
  | some root =>
    match ← activate setup root with
    | .ok true =>
      Job.say (.logged .info "pug-lint found; validating open documents")
      validateOpen setup
    | _ => return ()

/-- The names among those of changed files that a configuration may have. -/
def configNames (uris : List Uri) : List String :=
  (uris.filterMap Uri.lastSegment?).filter ConfigFile.isName

/-- The job for files that were changed. -/
def didChangeFiles (setup : Setup) (uris : List Uri) : Job Unit := do
  let names := configNames uris
  if names = [] then return ()
  else
    Job.update fun s => { s with cache := [] }
    match ← Job.read Session.phase with
    | .ready => validateOpen setup
    | .awaitingPackage => if names.contains Package.manifestName then retry setup else return ()
    | _ => return ()

/-- The job for an editor that is ready for requests: it asks the editor to watch the
files that configurations depend on. -/
def didStart (setup : Setup) : Job Unit := do
  Job.say (.logged .info ("puglint language server v" ++ version ++ " initialized"))
  Job.say (.watching (Watcher.forHome setup.resolver.home))

end Session

end TemplateLint
