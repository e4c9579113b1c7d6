import WebForms.Server.Protocol.Basic

/-!
# What an editor is able to do

When an editor starts the server it tells what it is able to do. None of it makes a difference to
the answers, but it has to be well formed.

## Main definitions

* `Shape.clientCapabilities` — all that an editor tells of itself
-/

namespace WebForms.Shape

/-- Whether a capability can be announced later. -/
def dynamicRegistration : Shape :=
  flagRecord "DynamicRegistrationClientCapabilities" ["dynamicRegistration"]

/-- Whether the editor asks anew when it is told so. -/
def refreshable (name : String) : Shape := flagRecord name ["refreshSupport"]

/-! ### The workspace -/

/-- How edits of the workspace are applied. -/
def workspaceEditCapabilities : Shape :=
  record "WorkspaceEditClientCapabilities" [
    ("documentChanges", optional boolean),
    ("resourceOperations", optional (list (words ["create", "rename", "delete"]))),
    ("failureHandling",
      optional (words ["abort", "transactional", "textOnlyTransactional", "undo"])),
    ("normalizesLineEndings", optional boolean),
    ("changeAnnotationSupport", optional
      (flagRecord "ChangeAnnotationWorkspaceEditClientCapabilities" ["groupsOnLabel"]))]

/-- The kinds of symbols that are known. -/
def symbolKinds : Shape := record "SymbolKindCapability" [("valueSet", optional (list integer))]

/-- How symbols of the workspace are shown. -/
def workspaceSymbolCapabilities : Shape :=
  record "WorkspaceSymbolClientCapabilities" [
    ("dynamicRegistration", optional boolean),
    ("symbolKind", optional symbolKinds),
    ("tagSupport", tagSupport),
    ("resolveSupport", optional (propertyList "WorkspaceSymbolResolveSupportCapability"))]

/-- What the editor is able to do with the workspace. -/
def workspaceCapabilities : Shape :=
  record "WorkspaceClientCapabilities" [
    ("applyEdit", optional boolean),
    ("workspaceEdit", optional workspaceEditCapabilities),
    ("didChangeConfiguration", optional dynamicRegistration),
    ("didChangeWatchedFiles", optional (flagRecord "DidChangeWatchedFilesClientCapabilities"
      ["dynamicRegistration", "relativePatternSupport"])),
    ("symbol", optional workspaceSymbolCapabilities),
    ("executeCommand", optional dynamicRegistration),
    ("workspaceFolders", optional boolean),
    ("configuration", optional boolean),
    ("semanticTokens", optional (refreshable "SemanticTokensWorkspaceClientCapabilities")),
    ("codeLens", optional (refreshable "CodeLensWorkspaceClientCapabilities")),
    ("fileOperations", optional (flagRecord "WorkspaceFileOperationsClientCapabilities"
      ["dynamicRegistration", "didCreate", "willCreate", "didRename", "willRename", "didDelete",
        "willDelete"])),
    ("inlineValue", optional (refreshable "InlineValueWorkspaceClientCapabilities")),
    ("inlayHint", optional (refreshable "InlayHintWorkspaceClientCapabilities")),
    ("diagnostic", optional (refreshable "DiagnosticWorkspaceClientCapabilities"))]

/-! ### Documents -/

/-- Formats in the order in which they are preferred. -/
def formats : Shape := optional (list markupKind)

/-- What an item of a completion list may hold. -/
def completionItemCapabilities : Shape :=
  record "CompletionItemCapability" [
    ("snippetSupport", optional boolean),
    ("commitCharactersSupport", optional boolean),
    ("documentationFormat", formats),
    ("deprecatedSupport", optional boolean),
    ("preselectSupport", optional boolean),
    ("tagSupport", tagSupport),
    ("insertReplaceSupport", optional boolean),
    ("resolveSupport", optional (propertyList "CompletionItemCapabilityResolveSupport")),
    ("insertTextModeSupport",
      optional (record "InsertTextModeSupport" [("valueSet", list integer)])),
    ("labelDetailsSupport", optional boolean)]

/-- How completion lists are shown. -/
def completionCapabilities : Shape :=
  record "CompletionClientCapabilities" [
    ("dynamicRegistration", optional boolean),
    ("completionItem", optional completionItemCapabilities),
    ("completionItemKind", optional
      (record "CompletionItemKindCapability" [("valueSet", optional (list integer))])),
    ("contextSupport", optional boolean),
    ("insertTextMode", optional integer),
    ("completionList", optional
      (record "CompletionListCapability" [("itemDefaults", optional (list text))]))]

/-- How the methods that a call may mean are shown. -/
def signatureHelpCapabilities : Shape :=
  record "SignatureHelpClientCapabilities" [
    ("dynamicRegistration", optional boolean),
    ("signatureInformation", optional (record "SignatureInformationSettings" [
      ("documentationFormat", formats),
      ("parameterInformation", optional
        (flagRecord "ParameterInformationSettings" ["labelOffsetSupport"])),
      ("activeParameterSupport", optional boolean)])),
    ("contextSupport", optional boolean)]

/-- How outlines are shown. -/
def documentSymbolCapabilities : Shape :=
  record "DocumentSymbolClientCapabilities" [
    ("dynamicRegistration", optional boolean),
    ("symbolKind", optional symbolKinds),
    ("hierarchicalDocumentSymbolSupport", optional boolean),
    ("tagSupport", tagSupport)]

/-- How the editor goes to what a name means. -/
def gotoCapabilities : Shape :=
  flagRecord "GotoCapability" ["dynamicRegistration", "linkSupport"]

/-- What code actions may hold. -/
def codeActionCapabilities : Shape :=
  record "CodeActionClientCapabilities" [
    ("dynamicRegistration", optional boolean),
    ("codeActionLiteralSupport", optional (record "CodeActionLiteralSupport" [
      ("codeActionKind", record "CodeActionKindLiteralSupport" [("valueSet", list text)])])),
    ("isPreferredSupport", optional boolean),
    ("disabledSupport", optional boolean),
    ("dataSupport", optional boolean),
    ("resolveSupport", optional (propertyList "CodeActionCapabilityResolveSupport")),
    ("honorsChangeAnnotations", optional boolean)]

/-- How names are changed. -/
def renameCapabilities : Shape :=
  record "RenameClientCapabilities" [
    ("dynamicRegistration", optional boolean),
    ("prepareSupport", optional boolean),
    ("prepareSupportDefaultBehavior", optional integer),
    ("honorsChangeAnnotations", optional boolean)]

/-- How findings are shown. -/
def publishDiagnosticsCapabilities : Shape :=
  record "PublishDiagnosticsClientCapabilities" [
    ("relatedInformation", optional boolean),
    ("tagSupport", tagSupport),
    ("versionSupport", optional boolean),
    ("codeDescriptionSupport", optional boolean),
    ("dataSupport", optional boolean)]

/-- How parts of a document are folded. -/
def foldingRangeCapabilities : Shape :=
  record "FoldingRangeClientCapabilities" [
    ("dynamicRegistration", optional boolean),
    ("rangeLimit", optional natural),
    ("lineFoldingOnly", optional boolean),
    ("foldingRangeKind", optional (record "FoldingRangeKindCapability"
      [("valueSet", optional (list (words ["comment", "imports", "region"])))])),
    ("foldingRange", optional (flagRecord "FoldingRangeCapability" ["collapsedText"]))]

/-- How tokens are coloured by what they mean. -/
def semanticTokensCapabilities : Shape :=
  record "SemanticTokensClientCapabilities" ([
    ("dynamicRegistration", optional boolean),
    ("requests", record "SemanticTokensClientCapabilitiesRequests" [
      ("range", optional boolean),
      ("full", optional (choice "SemanticTokensFullOptions"
        [boolean, merged "SemanticTokensFullOptions" (flags ["delta"]) []]))]),
    ("tokenTypes", list text),
    ("tokenModifiers", list text),
    ("formats", list text)] ++
    flags ["overlappingTokenSupport", "multilineTokenSupport", "serverCancelSupport",
      "augmentsSyntaxTokens"])

/-- What the editor is able to do with documents. -/
def documentCapabilities : Shape :=
  record "TextDocumentClientCapabilities" [
    ("synchronization", optional (flagRecord "TextDocumentSyncClientCapabilities"
      ["dynamicRegistration", "willSave", "willSaveWaitUntil", "didSave"])),
    ("completion", optional completionCapabilities),
    ("hover", optional (record "HoverClientCapabilities"
      [("dynamicRegistration", optional boolean), ("contentFormat", formats)])),
    ("signatureHelp", optional signatureHelpCapabilities),
    ("references", optional dynamicRegistration),
    ("documentHighlight", optional dynamicRegistration),
    ("documentSymbol", optional documentSymbolCapabilities),
    ("formatting", optional dynamicRegistration),
    ("rangeFormatting", optional dynamicRegistration),
    ("onTypeFormatting", optional dynamicRegistration),
    ("declaration", optional gotoCapabilities),
    ("definition", optional gotoCapabilities),
    ("typeDefinition", optional gotoCapabilities),
    ("implementation", optional gotoCapabilities),
    ("codeAction", optional codeActionCapabilities),
    ("codeLens", optional dynamicRegistration),
    ("documentLink", optional
      (flagRecord "DocumentLinkClientCapabilities" ["dynamicRegistration", "tooltipSupport"])),
    ("colorProvider", optional dynamicRegistration),
    ("rename", optional renameCapabilities),
    ("publishDiagnostics", optional publishDiagnosticsCapabilities),
    ("foldingRange", optional foldingRangeCapabilities),
    ("selectionRange", optional
      (flagRecord "SelectionRangeClientCapabilities" ["dynamicRegistration"])),
    ("linkedEditingRange", optional dynamicRegistration),
    ("callHierarchy", optional dynamicRegistration),
    ("semanticTokens", optional semanticTokensCapabilities),
    ("moniker", optional dynamicRegistration),
    ("typeHierarchy", optional dynamicRegistration),
    ("inlineValue", optional dynamicRegistration),
    ("inlayHint", optional (record "InlayHintClientCapabilities" [
      ("dynamicRegistration", optional boolean),
      ("resolveSupport", optional (propertyList "InlayHintResolveClientCapabilities"))])),
    ("diagnostic", optional (flagRecord "DiagnosticClientCapabilities"
      ["dynamicRegistration", "relatedDocumentSupport"]))]

/-! ### The rest -/

/-- What the editor is able to show. -/
def windowCapabilities : Shape :=
  record "WindowClientCapabilities" [
    ("workDoneProgress", optional boolean),
    ("showMessage", optional (record "ShowMessageRequestClientCapabilities" [
      ("messageActionItem", optional
        (flagRecord "MessageActionItemCapabilities" ["additionalPropertiesSupport"]))])),
    ("showDocument", optional
      (record "ShowDocumentClientCapabilities" [("support", boolean)]))]

/-- Which formats and engines the editor uses. -/
def generalCapabilities : Shape :=
  record "GeneralClientCapabilities" [
    ("regularExpressions", optional (record "RegularExpressionsClientCapabilities"
      [("engine", text), ("version", optional text)])),
    ("markdown", optional (record "MarkdownClientCapabilities"
      [("parser", text), ("version", optional text), ("allowedTags", optional (list text))])),
    ("staleRequestSupport", optional (record "StaleRequestSupportClientCapabilities"
      [("cancel", boolean), ("retryOnContentModified", list text)])),
    ("positionEncodings", optional (list text))]

/-- What an editor is able to do. -/
def clientCapabilities : Shape :=
  record "ClientCapabilities" [
    ("workspace", optional workspaceCapabilities),
    ("textDocument", optional documentCapabilities),
    ("window", optional windowCapabilities),
    ("general", optional generalCapabilities),
    ("experimental", optional any)]

end WebForms.Shape
