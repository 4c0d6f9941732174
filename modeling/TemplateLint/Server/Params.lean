import TemplateLint.Server.Call
import TemplateLint.Server.Capability
import TemplateLint.Session.Handlers

/-!
# Parameters

The parameters of the calls that an editor makes, decoded from JSON values.
-/

namespace TemplateLint.Server

open Json.Decode

/-! ### Starting -/

/-- The levels of tracing. -/
def traceLevel : Shape :=
  Capability.named ["off", "messages", "verbose"] "one of `off`, `messages`, `verbose`"

/-- A folder of a workspace. -/
def folder : Json.Decoder Uri := fun value => do
  let slots : List (Slot (Option Uri)) :=
    [required "uri" uri fun u _ => some u, required "name" text fun _ s => s]
  present "uri" (← record "WorkspaceFolder" slots none value)

/-- The name and version of an editor. -/
def clientInfo : Shape := shape "ClientInfo" [needs "name" text, admits "version" text]

/-- The parameters with which a session is started. -/
def startRequest : Json.Decoder StartRequest :=
  let slots : List (Slot StartRequest) :=
    [possible "processId" word32 fun _ r => r,
      possible "rootPath" text fun path r => { r with rootPath := path },
      slot "rootUri" (optional uri) (fun u r => { r with rootUri := u }) false true,
      possible "initializationOptions" any fun options r => { r with options := options },
      required "capabilities" Capability.all fun () r => r,
      slot "trace" (optional traceLevel) (fun _ r => r) false true,
      possible "workspaceFolders" (list folder) fun folders r =>
        { r with folders := folders.getD [] },
      possible "clientInfo" clientInfo fun _ r => r,
      possible "locale" text fun _ r => r]
  record "InitializeParams" slots ⟨none, none, [], none⟩

/-! ### Documents -/

/-- A document in the parameters of a call. -/
structure DocumentItem where
  uri : Option Uri
  language : String
  version : Int
  text : String

/-- The document without fields. -/
def DocumentItem.start : DocumentItem := ⟨none, "", 0, ""⟩

/-- The field of the URI of a document. -/
def uriSlot : Slot DocumentItem := required "uri" uri fun u d => { d with uri := some u }

/-- The field of the version of a document. -/
def versionSlot : Slot DocumentItem :=
  required "version" integer32 fun v d => { d with version := v }

/-- The URI of a document and its version. -/
def versionedIdentifier : Json.Decoder (Uri × Int) := fun value => do
  let item ← record "VersionedTextDocumentIdentifier" [uriSlot, versionSlot] .start value
  return (← present "uri" item.uri, item.version)

/-- A document. -/
def document : Json.Decoder Document := fun value => do
  let slots : List (Slot DocumentItem) :=
    [uriSlot, required "languageId" text fun s d => { d with language := s }, versionSlot,
      required "text" text fun s d => { d with text := s }]
  let item ← record "TextDocumentItem" slots .start value
  return ⟨← present "uri" item.uri, item.language, some item.version, item.text⟩

/-- The parameters about an opened document. -/
def opened : Json.Decoder Document := fun value => do
  let slots : List (Slot (Option Document)) :=
    [required "textDocument" document fun d _ => some d]
  present "textDocument" (← record "DidOpenTextDocumentParams" slots none value)

/-- The text of a change. -/
def changeText : Json.Decoder String := fun value => do
  let slots : List (Slot String) :=
    [possible "range" range fun _ s => s, possible "rangeLength" word32 fun _ s => s,
      required "text" text fun t _ => t]
  record "TextDocumentContentChangeEvent" slots "" value

/-- The parameters about a changed document: its URI, its version and the texts. -/
def changed : Json.Decoder (Uri × Int × List String) := fun value => do
  let slots : List (Slot (Option (Uri × Int) × List String)) :=
    [required "textDocument" versionedIdentifier fun d p => (some d, p.2),
      required "contentChanges" (list changeText) fun texts p => (p.1, texts)]
  let (item, texts) ← record "DidChangeTextDocumentParams" slots (none, []) value
  let (u, version) ← present "textDocument" item
  return (u, version, texts)

/-- The parameters about a saved document: its URI, and its text if it is told. -/
def saved : Json.Decoder (Uri × Option String) := fun value => do
  let slots : List (Slot (Option Uri × Option String)) :=
    [required "textDocument" identifier fun u p => (some u, p.2),
      possible "text" text fun s p => (p.1, s)]
  let (u, s) ← record "DidSaveTextDocumentParams" slots (none, none) value
  return (← present "textDocument" u, s)

/-- The parameters about a closed document: its URI. -/
def closed : Json.Decoder Uri := fun value => do
  let slots : List (Slot (Option Uri)) :=
    [required "textDocument" identifier fun u _ => some u]
  present "textDocument" (← record "DidCloseTextDocumentParams" slots none value)

/-! ### Settings and files -/

/-- The parameters about changed settings. -/
def changedSettings : Json.Decoder Json.Value := fun value => do
  let slots : List (Slot Json.Value) := [required "settings" any fun v _ => v]
  record "DidChangeConfigurationParams" slots .null value

/-- The URI of a changed file. -/
def changedFile : Json.Decoder Uri := fun value => do
  let slots : List (Slot (Option Uri)) :=
    [required "uri" uri fun u _ => some u, required "type" integer32 fun _ s => s]
  present "uri" (← record "FileEvent" slots none value)

/-- The parameters about changed files: their URIs. -/
def changedFiles : Json.Decoder (List Uri) := fun value => do
  let slots : List (Slot (List Uri)) :=
    [required "changes" (list changedFile) fun uris _ => uris]
  record "DidChangeWatchedFilesParams" slots [] value

/-- The parameters with which an editor says that it is ready. -/
def nothing : Shape := shape "InitializedParams" []

end TemplateLint.Server
