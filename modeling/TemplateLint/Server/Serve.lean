import TemplateLint.Json.Printer
import TemplateLint.Server.Inquiry
import TemplateLint.Server.Params

/-!
# Serving an editor

What a server does with the calls of an editor.  A server is created, then started by the
editor, then stopped and ended by it; what an editor may ask for depends on the stage.
Every request is answered, and no notification is.  The events of a session go to the
editor as calls of the server; diagnostics are sent only while the server is started.
-/

namespace TemplateLint.Server

/-- The stages of a server. -/
inductive Stage where
  | created
  | starting
  | started
  | stopped
  | ended
deriving DecidableEq

/-- What a call leads to: the stage that its work puts the server in, if it does, and the
response. -/
abbrev Effect : Type := Option Stage × Option Response

/-- A server, with the jobs that wait for their next turns, the one that had the last turn
first. -/
structure State where
  stage : Stage
  session : Session
  nextId : Nat
  waiting : List (Job Effect)

/-- The state in which a server is created. -/
def State.created : State := ⟨.created, Session.start, 0, []⟩

/-! ### Methods -/

/-- The job of a notification, from its parameters, if the method is one that the server
acts on or passes over. -/
def notification? (setup : Setup) (method : String) : Option (Json.Decoder (Job Unit)) :=
  let ignored : Json.Decoder (Job Unit) := fun _ => .ok (pure ())
  match method with
  | "initialized" => some fun v => (nothing v).map fun () => Session.didStart setup
  | "textDocument/didOpen" => some fun v => (opened v).map (Session.didOpen setup)
  | "textDocument/didChange" =>
    some fun v => (changed v).map fun (u, version, texts) =>
      Session.didChange setup u version texts
  | "textDocument/didSave" => some fun v => (saved v).map fun (u, s) => Session.didSave setup u s
  | "textDocument/didClose" => some fun v => (closed v).map Session.didClose
  | "workspace/didChangeConfiguration" =>
    some fun v => (changedSettings v).map (Session.didChangeSettings setup)
  | "workspace/didChangeWatchedFiles" =>
    some fun v => (changedFiles v).map (Session.didChangeFiles setup)
  | "textDocument/willSave" => some ignored
  | "workspace/didChangeWorkspaceFolders" => some ignored
  | "workspace/didCreateFiles" => some ignored
  | "workspace/didRenameFiles" => some ignored
  | "workspace/didDeleteFiles" => some ignored
  | _ => none

/-- The method of the notification that cancels a request. -/
def cancelMethod : String := "$/cancelRequest"

/-- Whether a method may be passed over without an answer. -/
def isOptional (method : String) : Bool := ['$', '/'].isPrefixOf method.toList

/-! ### Answers -/

/-- The response to a call, which only a request gets. -/
def answer (call : Call) (outcome : Except Error Json.Value) : Option Response :=
  call.id.map fun id => ⟨id, outcome⟩

/-- The error of a call that does not belong to a stage. -/
def outOfStage : Stage → Error
  | .created | .starting => .notStarted
  | _ => .invalidRequest

/-- The parameters of a call as a decoder understands them. -/
def decodeParams (decode : Json.Decoder α) (call : Call) : Except Error α :=
  match call.params with
  | none => .error (.invalidParams "Missing params field")
  | some value =>
    match decode value with
    | .ok a => .ok a
    | .error fault => .error (.invalidParams fault.message)

/-- What the server tells about itself when it is started. -/
def description : Json.Value :=
  .object [("capabilities", .object [("textDocumentSync", .object [("openClose", .bool true),
      ("change", .number (.integer 1)), ("willSave", .bool false),
      ("willSaveWaitUntil", .bool false),
      ("save", .object [("includeText", .bool false)])])]),
    ("serverInfo", .object [("name", .text "puglint-lsp"), ("version", .text version)])]

/-- The error of a workspace that is configured for a linter which is not installed. -/
def packageMissing : Error :=
  ⟨Session.packageMissingCode, Session.packageMissingMessage,
    some (.object [("retry", .bool true)])⟩

/-- The job of starting the server. -/
def start (setup : Setup) (stage : Stage) (call : Call) : Job (Stage × Option Response) := do
  if stage ≠ .created then return (stage, answer call (.error .invalidRequest))
  else if call.id.isNone then return (stage, none)
  else
    match decodeParams startRequest call with
    | .error e => return (stage, answer call (.error e))
    | .ok request =>
      match ← Session.startUp setup request with
      | .running => return (.started, answer call (.ok description))
      | .packageMissing => return (stage, answer call (.error packageMissing))

/-- Stopping the server. -/
def stop (stage : Stage) (call : Call) : Stage × Option Response :=
  if stage ≠ .started then (stage, answer call (.error (outOfStage stage)))
  else
    match call.params with
    | none => (.stopped, answer call (.ok .null))
    | some params =>
      let message := "Unexpected params: " ++ Json.compact params
      (.stopped, answer call (.error (.invalidParams message)))

/-- The job of a notification; a request for one is refused. -/
def notice (stage : Stage) (decode : Json.Decoder (Job Unit)) (call : Call) :
    Job (Stage × Option Response) := do
  if stage ≠ .started then return (stage, answer call (.error (outOfStage stage)))
  else if call.id.isSome then return (stage, answer call (.error .invalidRequest))
  else
    match decodeParams decode call with
    | .ok job =>
      job
      return (stage, none)
    | .error _ => return (stage, none)

/-- Refusing an inquiry. -/
def refuse (stage : Stage) (params : Shape) (call : Call) : Stage × Option Response :=
  if stage ≠ .started then (stage, answer call (.error (outOfStage stage)))
  else
    match decodeParams params call with
    | .ok () => (stage, answer call (.error .methodNotFound))
    | .error e => (stage, answer call (.error e))

/-- The job of a call: the stage after it, and the response. -/
def respond (setup : Setup) (stage : Stage) (call : Call) : Job (Stage × Option Response) :=
  match call.method with
  | "initialize" => start setup stage call
  | "shutdown" => pure (stop stage call)
  | "exit" => pure (.ended, none)
  | method =>
    if method = cancelMethod then pure (stage, answer call (.error .invalidRequest))
    else
      match notification? setup method, Inquiry.shape? method with
      | some decode, _ => notice stage decode call
      | none, some params => pure (refuse stage params call)
      | none, none =>
        if isOptional method then pure (stage, none)
        else pure (stage, answer call (.error (.unknownMethod method)))

/-! ### Calls of the server -/

/-- The written form of a notification of the server. -/
def notificationValue (method : String) (params : Json.Value) : Json.Value :=
  .object [("jsonrpc", .text Call.version), ("method", .text method), ("params", params)]

/-- The written form of a message for the user. -/
def messageValue (method : String) (level : Level) (message : String) : Json.Value :=
  notificationValue method
    (.object [("type", .number (.integer level.number)), ("message", .text message)])

/-- The written form of published diagnostics. -/
def publicationValue (u : Uri) (diagnostics : List Diagnostic) (version : Option Int) :
    Json.Value :=
  notificationValue "textDocument/publishDiagnostics"
    (.object ([("uri", .text u.text), ("diagnostics", .list (diagnostics.map Diagnostic.toValue))]
      ++ match version with
        | some v => [("version", .number (.integer v))]
        | none => []))

/-- The id under which file watching is registered. -/
def registrationId : String := "puglint-config-watcher"

/-- The written form of a request to watch files. -/
def registrationValue (id : Nat) (watchers : List Watcher) : Json.Value :=
  .object [("jsonrpc", .text Call.version), ("method", .text "client/registerCapability"),
    ("params", .object [("registrations", .list [.object [("id", .text registrationId),
      ("method", .text "workspace/didChangeWatchedFiles"),
      ("registerOptions", .object [("watchers", .list (watchers.map Watcher.toValue))])]])]),
    ("id", .number (.integer id))]

/-- The call of the server for an event, if it makes one, and the id of its next
request. -/
def callOf (stage : Stage) (nextId : Nat) : Event → Option Json.Value × Nat
  | .published u diagnostics version =>
    (if stage = .started then some (publicationValue u diagnostics version) else none, nextId)
  | .shown level message => (some (messageValue "window/showMessage" level message), nextId)
  | .logged level message => (some (messageValue "window/logMessage" level message), nextId)
  | .watching watchers =>
    if stage = .started then (some (registrationValue nextId watchers), nextId + 1)
    else (none, nextId)
  | _ => (none, nextId)

/-- The calls of the server for events, and the id of its next request. -/
def callsOf (stage : Stage) : Nat → List Event → List Json.Value × Nat
  | nextId, [] => ([], nextId)
  | nextId, event :: rest =>
    let (first, nextId) := callOf stage nextId event
    let (calls, nextId) := callsOf stage nextId rest
    (first.toList ++ calls, nextId)

/-- The response to a message that is refused. -/
def refusal (e : Error) : Response := ⟨.null, .error e⟩

end TemplateLint.Server
