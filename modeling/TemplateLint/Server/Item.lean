import TemplateLint.Server.Capability

/-!
# Items

The shapes of the items that an editor sends back to a server: diagnostics, edits, commands,
symbols, and what is completed, hinted or linked.
-/

namespace TemplateLint.Server

open Json.Decode

namespace Item

/-! ### Common parts -/

/-- A number or a text. -/
def numberOrText : Shape := choice "NumberOrString" [unitOf integer32, unitOf text]

/-- A text with its markup. -/
def markedText : Shape :=
  shape "MarkupContent" [needs "kind" Capability.markup, needs "value" text]

/-- A text that may be marked up, of a kind with a name. -/
def prose (type : String) : Shape := choice type [unitOf text, markedText]

/-- The field of the documentation of something. -/
def documentation : Slot Unit := admits "documentation" (prose "Documentation")

/-- The field of what an editor keeps for the server. -/
def data : Slot Unit := admits "data" any

/-- A command. -/
def command : Shape :=
  shape "Command" [needs "title" text, needs "command" text, admits "arguments" (list any)]

/-! ### Diagnostics -/

/-- What is told about a place that belongs to a diagnostic. -/
def related : Shape :=
  shape "DiagnosticRelatedInformation" [needs "location" location, needs "message" text]

/-- A diagnostic. -/
def diagnostic : Shape :=
  shape "Diagnostic"
    [needs "range" range, admits "severity" integer32, admits "code" numberOrText,
      admits "codeDescription" (shape "CodeDescription" [needs "href" uri]),
      admits "source" text, needs "message" text, admits "relatedInformation" (list related),
      admits "tags" (list integer32), data]

/-! ### Edits -/

/-- An edit of a text. -/
def edit : Shape := shape "TextEdit" [needs "range" range, needs "newText" text]

/-- The edits of one document; an annotated edit is an edit too. -/
def documentEdit : Shape :=
  shape "TextDocumentEdit"
    [needs "textDocument" (shape "OptionalVersionedTextDocumentIdentifier"
        [needs "uri" uri, admits "version" integer32]),
      needs "edits" (list edit)]

/-- The creation of a file. -/
def createFile : Shape :=
  shape "CreateFile"
    [needs "uri" uri,
      admits "options" (shape "CreateFileOptions"
        [admits "overwrite" bool, admits "ignoreIfExists" bool]),
      admits "annotationId" text]

/-- The renaming of a file. -/
def renameFile : Shape :=
  shape "RenameFile"
    [needs "oldUri" uri, needs "newUri" uri,
      admits "options" (shape "RenameFileOptions"
        [admits "overwrite" bool, admits "ignoreIfExists" bool]),
      admits "annotationId" text]

/-- The deletion of a file. -/
def deleteFile : Shape :=
  shape "DeleteFile"
    [needs "uri" uri,
      admits "options" (shape "DeleteFileOptions"
        [admits "recursive" bool, admits "ignoreIfNotExists" bool, admits "annotationId" text])]

/-- The kinds of operations on files, in order. -/
def fileOperations : List (String × Shape) :=
  [("create", createFile), ("rename", renameFile), ("delete", deleteFile)]

/-- The shape of an operation on files whose kind a value names or counts. -/
def fileOperationOf : Json.Decoder Shape
  | .text name =>
    match fileOperations.lookup name with
    | some operation => .ok operation
    | none => .error (.unknownVariant name "one of `create`, `rename`, `delete`")
  | .number (.integer i) =>
    match fileOperations[i.toNat]? with
    | some (_, operation) => if 0 ≤ i then .ok operation else .error (.noVariant "ResourceOp")
    | none => .error (.noVariant "ResourceOp")
  | other => .error (wrongType other "variant identifier")

/-- An operation on files, which tells its kind under a key or as the first element. -/
def fileOperation : Shape
  | .object members => do
    match Json.Members.get? members "kind" with
    | some kind =>
      (← fileOperationOf kind) (.object (members.filter fun member => member.1 ≠ "kind"))
    | none => throw (.missingField "kind")
  | .list (kind :: rest) => do (← fileOperationOf kind) (.list rest)
  | other => .error (wrongType other "internally tagged enum ResourceOp")

/-- The changes of documents in an edit of a workspace. -/
def documentChanges : Shape :=
  choice "DocumentChanges"
    [unitOf (list documentEdit),
      unitOf (list (choice "DocumentChangeOperation" [fileOperation, documentEdit]))]

/-- An annotation of a change. -/
def annotation : Shape :=
  shape "ChangeAnnotation"
    [needs "label" text, admits "needsConfirmation" bool, admits "description" text]

/-- The edits of documents by their URIs. -/
def edits : Shape
  | .object members => unitOf (entries uriOfText (list edit)) (.object members)
  | other => .error (wrongType other "map")

/-- An edit of a workspace. -/
def workspaceEdit : Shape :=
  shape "WorkspaceEdit"
    [slot "changes" (optional edits) (fun _ s => s) false true,
      admits "documentChanges" documentChanges,
      admits "changeAnnotations" (entries .ok annotation)]

/-! ### Items of lists -/

/-- The text edit of a completion. -/
def completionEdit : Shape :=
  choice "CompletionTextEdit"
    [edit,
      shape "InsertReplaceEdit" [needs "newText" text, needs "insert" range, needs "replace" range]]

/-- A completion. -/
def completion : Shape :=
  shape "CompletionItem"
    [needs "label" text,
      admits "labelDetails" (shape "CompletionItemLabelDetails"
        [admits "detail" text, admits "description" text]),
      admits "kind" integer32, admits "detail" text, documentation, admits "deprecated" bool,
      admits "preselect" bool, admits "sortText" text, admits "filterText" text,
      admits "insertText" text, admits "insertTextFormat" integer32,
      admits "insertTextMode" integer32, admits "textEdit" completionEdit,
      admits "additionalTextEdits" (list edit), admits "command" command,
      admits "commitCharacters" (list text), data, admits "tags" (list integer32)]

/-- A lens over code. -/
def codeLens : Shape := shape "CodeLens" [needs "range" range, admits "command" command, data]

/-- An action on code. -/
def codeAction : Shape :=
  shape "CodeAction"
    [needs "title" text, admits "kind" text, admits "diagnostics" (list diagnostic),
      admits "edit" workspaceEdit, admits "command" command, admits "isPreferred" bool,
      admits "disabled" (shape "CodeActionDisabled" [needs "reason" text]), data]

/-- A link in a document. -/
def link : Shape :=
  shape "DocumentLink" [needs "range" range, admits "target" uri, admits "tooltip" text, data]

/-- A part of the label of a hint. -/
def labelPart : Shape :=
  shape "InlayHintLabelPart"
    [needs "value" text, admits "tooltip" (prose "InlayHintLabelPartTooltip"),
      admits "location" location, admits "command" command]

/-- A hint between characters. -/
def hint : Shape :=
  shape "InlayHint"
    [needs "position" position,
      needs "label" (choice "InlayHintLabel" [unitOf text, unitOf (list labelPart)]),
      admits "kind" integer32, admits "textEdits" (list edit),
      admits "tooltip" (prose "InlayHintTooltip"), admits "paddingLeft" bool,
      admits "paddingRight" bool, data]

/-- A symbol of a workspace. -/
def symbol : Shape :=
  shape "WorkspaceSymbol"
    [needs "name" text, needs "kind" integer32, admits "tags" (list integer32),
      admits "containerName" text,
      needs "location" (choice "OneOf" [location, shape "WorkspaceLocation" [needs "uri" uri]]),
      data]

/-- An item of a hierarchy, with the shape of its tags. -/
def inHierarchy (type : String) (tags : Shape) : Shape :=
  shape type
    [needs "name" text, needs "kind" integer32, admits "tags" tags, admits "detail" text,
      needs "uri" uri, needs "range" range, needs "selectionRange" range, data]

/-- A caller or something called. -/
def ofCalls : Shape := inHierarchy "CallHierarchyItem" (unitOf (list integer32))

/-- A type above or below others. -/
def ofTypes : Shape := inHierarchy "TypeHierarchyItem" (unitOf integer32)

/-! ### Signatures -/

/-- The label of a parameter, or where it starts and ends in the label of its signature. -/
def parameterLabel : Shape :=
  let offsets : Shape := fun value => do
    match ← list word32 value with
    | [_, _] => return ()
    | other => throw (.wrongLength other.length "an array of length 2")
  choice "ParameterLabel" [unitOf text, offsets]

/-- A signature. -/
def signature : Shape :=
  shape "SignatureInformation"
    [needs "label" text, documentation,
      admits "parameters" (list (shape "ParameterInformation"
        [needs "label" parameterLabel, documentation])),
      admits "activeParameter" word32]

/-- The signatures that are shown. -/
def signatures : Shape :=
  shape "SignatureHelp"
    [needs "signatures" (list signature), admits "activeSignature" word32,
      admits "activeParameter" word32]

end Item

end TemplateLint.Server
