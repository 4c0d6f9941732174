import TemplateLint.Server.Place

/-!
# Capabilities

The shapes of what an editor tells about what it can do.  The server looks at none of it,
but a capability of the wrong shape makes it refuse to start.
-/

namespace TemplateLint.Server

open Json.Decode

namespace Capability

/-! ### Common parts -/

/-- A field that may hold a truth value. -/
def flag (name : String) : Slot Unit := admits name bool

/-- The field that tells whether a capability may be registered later. -/
def registration : Slot Unit := flag "dynamicRegistration"

/-- A capability of which only later registration is told. -/
def registrable : Shape := shape "DynamicRegistrationClientCapabilities" [registration]

/-- A capability of a whole workspace that can be refreshed. -/
def refreshable (type : String) : Shape := shape type [flag "refreshSupport"]

/-- The properties that can be told later. -/
def resolvable (type : String) : Shape := shape type [needs "properties" (list text)]

/-- One of several names. -/
def named (names : List String) (expected : String) : Shape :=
  oneOf expected fun name => if names.contains name then some () else none

/-- A kind of marked-up text. -/
def markup : Shape := named ["plaintext", "markdown"] "`plaintext` or `markdown`"

/-- The known tags, which may also be told by a truth value. -/
def tags : Shape
  | .null => .ok ()
  | .bool _ => .ok ()
  | value => shape "TagSupport" [needs "valueSet" (list integer32)] value

/-- The field of the known tags. -/
def tagSlot : Slot Unit := slot "tagSupport" tags (fun _ s => s) false true

/-- The field of the known kinds of symbols. -/
def symbolKinds : Slot Unit :=
  admits "symbolKind" (shape "SymbolKindCapability" [admits "valueSet" (list integer32)])

/-! ### Workspaces -/

/-- What an editor can do when it edits a workspace. -/
def workspaceEdit : Shape :=
  shape "WorkspaceEditClientCapabilities"
    [flag "documentChanges",
      admits "resourceOperations" (list (named ["create", "rename", "delete"]
        "one of `create`, `rename`, `delete`")),
      admits "failureHandling" (named ["abort", "transactional", "textOnlyTransactional", "undo"]
        "one of `abort`, `transactional`, `textOnlyTransactional`, `undo`"),
      flag "normalizesLineEndings",
      admits "changeAnnotationSupport"
        (shape "ChangeAnnotationWorkspaceEditClientCapabilities" [flag "groupsOnLabel"])]

/-- What an editor can do with the symbols of a workspace. -/
def workspaceSymbol : Shape :=
  shape "WorkspaceSymbolClientCapabilities"
    [registration, symbolKinds, tagSlot,
      admits "resolveSupport" (resolvable "WorkspaceSymbolResolveSupportCapability")]

/-- What an editor tells about changed files. -/
def fileOperations : Shape :=
  shape "WorkspaceFileOperationsClientCapabilities"
    [registration, flag "didCreate", flag "willCreate", flag "didRename", flag "willRename",
      flag "didDelete", flag "willDelete"]

/-- What an editor can do with a workspace. -/
def workspace : Shape :=
  shape "WorkspaceClientCapabilities"
    [flag "applyEdit",
      admits "workspaceEdit" workspaceEdit,
      admits "didChangeConfiguration" registrable,
      admits "didChangeWatchedFiles" (shape "DidChangeWatchedFilesClientCapabilities"
        [registration, flag "relativePatternSupport"]),
      admits "symbol" workspaceSymbol,
      admits "executeCommand" registrable,
      flag "workspaceFolders",
      flag "configuration",
      admits "semanticTokens" (refreshable "SemanticTokensWorkspaceClientCapabilities"),
      admits "codeLens" (refreshable "CodeLensWorkspaceClientCapabilities"),
      admits "fileOperations" fileOperations,
      admits "inlineValue" (refreshable "InlineValueWorkspaceClientCapabilities"),
      admits "inlayHint" (refreshable "InlayHintWorkspaceClientCapabilities"),
      admits "diagnostic" (refreshable "DiagnosticWorkspaceClientCapabilities")]

/-! ### Documents -/

/-- What an editor tells about the items that it can complete. -/
def completionItem : Shape :=
  shape "CompletionItemCapability"
    [flag "snippetSupport", flag "commitCharactersSupport",
      admits "documentationFormat" (list markup),
      flag "deprecatedSupport", flag "preselectSupport", tagSlot, flag "insertReplaceSupport",
      admits "resolveSupport" (resolvable "CompletionItemCapabilityResolveSupport"),
      admits "insertTextModeSupport"
        (shape "InsertTextModeSupport" [needs "valueSet" (list integer32)]),
      flag "labelDetailsSupport"]

/-- What an editor can complete. -/
def completion : Shape :=
  shape "CompletionClientCapabilities"
    [registration,
      admits "completionItem" completionItem,
      admits "completionItemKind"
        (shape "CompletionItemKindCapability" [admits "valueSet" (list integer32)]),
      flag "contextSupport",
      admits "insertTextMode" integer32,
      admits "completionList"
        (shape "CompletionListCapability" [admits "itemDefaults" (list text)])]

/-- What an editor shows of a signature. -/
def signature : Shape :=
  shape "SignatureInformationSettings"
    [admits "documentationFormat" (list markup),
      admits "parameterInformation"
        (shape "ParameterInformationSettings" [flag "labelOffsetSupport"]),
      flag "activeParameterSupport"]

/-- What an editor can do with code actions. -/
def codeAction : Shape :=
  shape "CodeActionClientCapabilities"
    [registration,
      admits "codeActionLiteralSupport" (shape "CodeActionLiteralSupport"
        [needs "codeActionKind"
          (shape "CodeActionKindLiteralSupport" [needs "valueSet" (list text)])]),
      flag "isPreferredSupport", flag "disabledSupport", flag "dataSupport",
      admits "resolveSupport" (resolvable "CodeActionCapabilityResolveSupport"),
      flag "honorsChangeAnnotations"]

/-- What an editor can fold. -/
def folding : Shape :=
  shape "FoldingRangeClientCapabilities"
    [registration,
      admits "rangeLimit" word32,
      flag "lineFoldingOnly",
      admits "foldingRangeKind" (shape "FoldingRangeKindCapability"
        [admits "valueSet" (list (named ["comment", "imports", "region"]
          "one of `comment`, `imports`, `region`"))]),
      admits "foldingRange" (shape "FoldingRangeCapability" [flag "collapsedText"])]

/-- The requests for tokens that an editor makes. -/
def tokenRequests : Shape :=
  shape "SemanticTokensClientCapabilitiesRequests"
    [flag "range",
      admits "full" (choice "SemanticTokensFullOptions"
        [unitOf bool, merged "Delta" [flag "delta"] [] ()])]

/-- What an editor can do with tokens that have a meaning. -/
def tokens : Shape :=
  shape "SemanticTokensClientCapabilities"
    [registration,
      needs "requests" tokenRequests,
      needs "tokenTypes" (list text),
      needs "tokenModifiers" (list text),
      needs "formats" (list text),
      flag "overlappingTokenSupport", flag "multilineTokenSupport", flag "serverCancelSupport",
      flag "augmentsSyntaxTokens"]

/-- What an editor can do with links to definitions. -/
def goto : Shape := shape "GotoCapability" [registration, flag "linkSupport"]

/-- What an editor can do with a document. -/
def document : Shape :=
  shape "TextDocumentClientCapabilities"
    [admits "synchronization" (shape "TextDocumentSyncClientCapabilities"
        [registration, flag "willSave", flag "willSaveWaitUntil", flag "didSave"]),
      admits "completion" completion,
      admits "hover" (shape "HoverClientCapabilities"
        [registration, admits "contentFormat" (list markup)]),
      admits "signatureHelp" (shape "SignatureHelpClientCapabilities"
        [registration, admits "signatureInformation" signature, flag "contextSupport"]),
      admits "references" registrable,
      admits "documentHighlight" registrable,
      admits "documentSymbol" (shape "DocumentSymbolClientCapabilities"
        [registration, symbolKinds, flag "hierarchicalDocumentSymbolSupport", tagSlot]),
      admits "formatting" registrable,
      admits "rangeFormatting" registrable,
      admits "onTypeFormatting" registrable,
      admits "declaration" goto,
      admits "definition" goto,
      admits "typeDefinition" goto,
      admits "implementation" goto,
      admits "codeAction" codeAction,
      admits "codeLens" registrable,
      admits "documentLink" (shape "DocumentLinkClientCapabilities"
        [registration, flag "tooltipSupport"]),
      admits "colorProvider" registrable,
      admits "rename" (shape "RenameClientCapabilities"
        [registration, flag "prepareSupport", admits "prepareSupportDefaultBehavior" integer32,
          flag "honorsChangeAnnotations"]),
      admits "publishDiagnostics" (shape "PublishDiagnosticsClientCapabilities"
        [flag "relatedInformation", tagSlot, flag "versionSupport", flag "codeDescriptionSupport",
          flag "dataSupport"]),
      admits "foldingRange" folding,
      admits "selectionRange" (shape "SelectionRangeClientCapabilities" [registration]),
      admits "linkedEditingRange" registrable,
      admits "callHierarchy" registrable,
      admits "semanticTokens" tokens,
      admits "moniker" registrable,
      admits "typeHierarchy" registrable,
      admits "inlineValue" registrable,
      admits "inlayHint" (shape "InlayHintClientCapabilities"
        [registration, admits "resolveSupport" (resolvable "InlayHintResolveClientCapabilities")]),
      admits "diagnostic" (shape "DiagnosticClientCapabilities"
        [registration, flag "relatedDocumentSupport"])]

/-! ### Windows and everything -/

/-- What an editor can show. -/
def window : Shape :=
  shape "WindowClientCapabilities"
    [flag "workDoneProgress",
      admits "showMessage" (shape "ShowMessageRequestClientCapabilities"
        [admits "messageActionItem"
          (shape "MessageActionItemCapabilities" [flag "additionalPropertiesSupport"])]),
      admits "showDocument" (shape "ShowDocumentClientCapabilities" [needs "support" bool])]

/-- What an editor can do besides. -/
def general : Shape :=
  shape "GeneralClientCapabilities"
    [admits "regularExpressions" (shape "RegularExpressionsClientCapabilities"
        [needs "engine" text, admits "version" text]),
      admits "markdown" (shape "MarkdownClientCapabilities"
        [needs "parser" text, admits "version" text, admits "allowedTags" (list text)]),
      admits "staleRequestSupport" (shape "StaleRequestSupportClientCapabilities"
        [needs "cancel" bool, needs "retryOnContentModified" (list text)]),
      admits "positionEncodings" (list text)]

/-- What an editor can do. -/
def all : Shape :=
  shape "ClientCapabilities"
    [admits "workspace" workspace, admits "textDocument" document, admits "window" window,
      admits "general" general, admits "experimental" any]

end Capability

end TemplateLint.Server
