import TemplateLint.Server.Item

/-!
# Inquiries

The requests of an editor that the server knows and does not implement.  It refuses them
all, but tells first what is wrong with their parameters.
-/

namespace TemplateLint.Server

open Json.Decode

namespace Inquiry

/-! ### Parts of parameters -/

/-- A part of a merged record, held aside. -/
abbrev Part : Type := Json.Members → Unit → Except Json.Fault Unit

/-- The part that tells a place in a document. -/
def place : Part := putMembers (placeSlots .aside)

/-- The part that names the work of a request. -/
def work : Part := putMembers [admits "workDoneToken" Item.numberOrText]

/-- The part that names the partial results of a request. -/
def partly : Part := putMembers [admits "partialResultToken" Item.numberOrText]

/-- Parameters with parts. -/
def params (type : String) (slots : List (Slot Unit)) (parts : List Part) : Shape :=
  merged type slots parts ()

/-- The field of the document of a request. -/
def document : Slot Unit := needs "textDocument" identifier

/-- The field of the range of a request. -/
def span : Slot Unit := needs "range" range

/-- A value of an option that has no name of its own. -/
def property : Shape :=
  choice "FormattingProperty" [unitOf bool, unitOf integer32, unitOf text]

/-- The options of formatting. -/
def options : Slot Unit :=
  needs "options" (params "FormattingOptions"
    [needs "tabSize" word32, needs "insertSpaces" bool, admits "trimTrailingWhitespace" bool,
      admits "insertFinalNewline" bool, admits "trimFinalNewlines" bool]
    [fun others _ => others.forM fun member => property member.2])

/-- Why completions are asked for. -/
def completionContext : Shape :=
  shape "CompletionContext" [needs "triggerKind" integer32, admits "triggerCharacter" text]

/-- Why signatures are asked for. -/
def signatureContext : Shape :=
  shape "SignatureHelpContext"
    [needs "triggerKind" integer32, admits "triggerCharacter" text, needs "isRetrigger" bool,
      admits "activeSignatureHelp" Item.signatures]

/-- Why code actions are asked for. -/
def actionContext : Shape :=
  shape "CodeActionContext"
    [needs "diagnostics" (list Item.diagnostic), admits "only" (list text),
      admits "triggerKind" integer32]

/-- Where values are asked for. -/
def valueContext : Shape :=
  shape "InlineValueContext" [needs "frameId" integer32, needs "stoppedLocation" range]

/-- A colour. -/
def color : Shape :=
  shape "Color"
    [needs "red" float32, needs "green" float32, needs "blue" float32, needs "alpha" float32]

/-- The parameters about an item of a hierarchy. -/
def about (type : String) (item : Shape) : Shape :=
  params type [needs "item" item] [work, partly]

/-- The parameters about files of a kind. -/
def files (type fileType : String) (keys : List String) : Shape :=
  shape type [needs "files" (list (shape fileType (keys.map fun key => needs key text)))]

/-! ### The requests -/

/-- The inquiries about a place in a document. -/
def ofPlaces : List (String × Shape) :=
  let goto : Shape := params "GotoDefinitionParams" [] [place, work, partly]
  [("textDocument/declaration", goto),
    ("textDocument/definition", goto),
    ("textDocument/typeDefinition", goto),
    ("textDocument/implementation", goto),
    ("textDocument/references", params "ReferenceParams"
      [needs "context" (shape "ReferenceContext" [needs "includeDeclaration" bool])]
      [place, work, partly]),
    ("textDocument/prepareCallHierarchy", params "CallHierarchyPrepareParams" [] [place, work]),
    ("textDocument/prepareTypeHierarchy", params "TypeHierarchyPrepareParams" [] [place, work]),
    ("textDocument/documentHighlight",
      params "DocumentHighlightParams" [] [place, work, partly]),
    ("textDocument/hover", params "HoverParams" [] [place, work]),
    ("textDocument/moniker", params "MonikerParams" [] [place, work, partly]),
    ("textDocument/completion",
      params "CompletionParams" [admits "context" completionContext] [place, work, partly]),
    ("textDocument/signatureHelp",
      params "SignatureHelpParams" [admits "context" signatureContext] [place, work]),
    ("textDocument/rename", params "RenameParams" [needs "newName" text] [place, work]),
    ("textDocument/prepareRename", shape "TextDocumentPositionParams" (placeSlots .inPlace)),
    ("textDocument/linkedEditingRange", params "LinkedEditingRangeParams" [] [place, work]),
    ("textDocument/onTypeFormatting",
      params "DocumentOnTypeFormattingParams" [needs "ch" text, options] [place])]

/-- The inquiries about a document or a part of it. -/
def ofDocuments : List (String × Shape) :=
  let whole (type : String) : Shape := params type [document] [work, partly]
  [("textDocument/willSaveWaitUntil",
      shape "WillSaveTextDocumentParams" [document, needs "reason" integer32]),
    ("textDocument/documentLink", whole "DocumentLinkParams"),
    ("textDocument/codeLens", whole "CodeLensParams"),
    ("textDocument/foldingRange", whole "FoldingRangeParams"),
    ("textDocument/documentSymbol", whole "DocumentSymbolParams"),
    ("textDocument/documentColor", whole "DocumentColorParams"),
    ("textDocument/semanticTokens/full", whole "SemanticTokensParams"),
    ("textDocument/selectionRange", params "SelectionRangeParams"
      [document, needs "positions" (list position)] [work, partly]),
    ("textDocument/semanticTokens/full/delta", params "SemanticTokensDeltaParams"
      [document, needs "previousResultId" text] [work, partly]),
    ("textDocument/semanticTokens/range",
      params "SemanticTokensRangeParams" [document, span] [work, partly]),
    ("textDocument/inlineValue", params "InlineValueParams"
      [document, span, needs "context" valueContext] [work]),
    ("textDocument/inlayHint", params "InlayHintParams" [document, span] [work]),
    ("textDocument/diagnostic", params "DocumentDiagnosticParams"
      [document, admits "identifier" text, admits "previousResultId" text] [work, partly]),
    ("textDocument/codeAction", params "CodeActionParams"
      [document, span, needs "context" actionContext] [work, partly]),
    ("textDocument/colorPresentation", params "ColorPresentationParams"
      [document, needs "color" color, span] [work, partly]),
    ("textDocument/formatting", params "DocumentFormattingParams" [document, options] [work]),
    ("textDocument/rangeFormatting",
      params "DocumentRangeFormattingParams" [document, span, options] [work])]

/-- The inquiries about items that the server is expected to have sent. -/
def ofItems : List (String × Shape) :=
  [("callHierarchy/incomingCalls", about "CallHierarchyIncomingCallsParams" Item.ofCalls),
    ("callHierarchy/outgoingCalls", about "CallHierarchyOutgoingCallsParams" Item.ofCalls),
    ("typeHierarchy/supertypes", about "TypeHierarchySupertypesParams" Item.ofTypes),
    ("typeHierarchy/subtypes", about "TypeHierarchySubtypesParams" Item.ofTypes),
    ("documentLink/resolve", Item.link),
    ("codeLens/resolve", Item.codeLens),
    ("inlayHint/resolve", Item.hint),
    ("completionItem/resolve", Item.completion),
    ("codeAction/resolve", Item.codeAction),
    ("workspaceSymbol/resolve", Item.symbol)]

/-- The inquiries about the workspace. -/
def ofWorkspaces : List (String × Shape) :=
  [("workspace/diagnostic", params "WorkspaceDiagnosticParams"
      [admits "identifier" text, needs "previousResultIds"
        (list (shape "PreviousResultId" [needs "uri" uri, needs "value" text]))]
      [work, partly]),
    ("workspace/symbol", params "WorkspaceSymbolParams" [needs "query" text] [partly, work]),
    ("workspace/willCreateFiles", files "CreateFilesParams" "FileCreate" ["uri"]),
    ("workspace/willRenameFiles", files "RenameFilesParams" "FileRename" ["oldUri", "newUri"]),
    ("workspace/willDeleteFiles", files "DeleteFilesParams" "FileDelete" ["uri"]),
    ("workspace/executeCommand", params "ExecuteCommandParams"
      [needs "command" text, slot "arguments" (list any) (fun _ s => s) false true] [work])]

/-- The inquiries, with the shapes of their parameters. -/
def all : List (String × Shape) := ofPlaces ++ ofDocuments ++ ofItems ++ ofWorkspaces

/-- The shape of the parameters of an inquiry. -/
def shape? (method : String) : Option Shape := all.lookup method

end Inquiry

end TemplateLint.Server
