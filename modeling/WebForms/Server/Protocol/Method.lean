import WebForms.Server.Protocol.Questions
import WebForms.Server.Protocol.Service

/-!
# Methods

The method of a message tells what it is about. An announcement calls for no answer, so it is
refused as a request. Methods that begin with a dollar sign are extensions, of which no notice has
to be taken, but for the one by which a request is withdrawn.

## Main definitions

* `MethodKind`, `methodKind` — what kind of request a method is
* `questionParams?` — the shape of the parameters of a question
-/

namespace WebForms

/-- What kind of request a method is. -/
inductive MethodKind where
  /-- The server is started. -/
  | start
  /-- The server is shut down. -/
  | stop
  /-- Something is asked. -/
  | question (params : Shape)
  /-- An announcement, which is no request. -/
  | announcement
  /-- The announcement that a request is withdrawn, which may come at any time. -/
  | cancellation
  /-- An extension, of which no notice is taken. -/
  | extension
  | unknown

/-- The methods of announcements. -/
def announcementMethods : List String :=
  ["initialized", "exit",
    "textDocument/didOpen", "textDocument/didChange", "textDocument/willSave",
    "textDocument/didSave", "textDocument/didClose",
    "workspace/didChangeConfiguration", "workspace/didChangeWorkspaceFolders",
    "workspace/didCreateFiles", "workspace/didRenameFiles", "workspace/didDeleteFiles",
    "workspace/didChangeWatchedFiles"]

/-- The questions about documents, with the shapes of their parameters. -/
def documentQuestions : List (String × Shape) :=
  open Shape in [
    ("completion", completion),
    ("signatureHelp", signatureHelp),
    ("documentSymbol", documentSymbol),
    ("hover", atPlace "HoverParams"),
    ("declaration", streamedAtPlace "GotoDefinitionParams"),
    ("definition", streamedAtPlace "GotoDefinitionParams"),
    ("typeDefinition", streamedAtPlace "GotoDefinitionParams"),
    ("implementation", streamedAtPlace "GotoDefinitionParams"),
    ("references", references),
    ("documentHighlight", streamedAtPlace "DocumentHighlightParams"),
    ("prepareCallHierarchy", atPlace "CallHierarchyPrepareParams"),
    ("prepareTypeHierarchy", atPlace "TypeHierarchyPrepareParams"),
    ("moniker", streamedAtPlace "MonikerParams"),
    ("linkedEditingRange", atPlace "LinkedEditingRangeParams"),
    ("documentLink", streamed "DocumentLinkParams" document),
    ("codeLens", streamed "CodeLensParams" document),
    ("foldingRange", streamed "FoldingRangeParams" document),
    ("documentColor", streamed "DocumentColorParams" document),
    ("colorPresentation", colorPresentation),
    ("selectionRange", selectionRanges),
    ("semanticTokens/full", streamed "SemanticTokensParams" document),
    ("semanticTokens/full/delta",
      streamed "SemanticTokensDeltaParams" (document ++ [("previousResultId", text)])),
    ("semanticTokens/range",
      streamed "SemanticTokensRangeParams" (document ++ [("range", range)])),
    ("inlineValue", inlineValues),
    ("inlayHint", inlayHints),
    ("diagnostic", documentDiagnostic),
    ("codeAction", codeActions),
    ("formatting", formatting),
    ("rangeFormatting", rangeFormatting),
    ("onTypeFormatting", onTypeFormatting),
    ("rename", rename),
    ("prepareRename", prepareRename),
    ("willSaveWaitUntil", willSave)]

/-- The questions about items and about the workspace, with the shapes of their parameters. -/
def otherQuestions : List (String × Shape) :=
  open Shape in [
    ("callHierarchy/incomingCalls", aboutCall "CallHierarchyIncomingCallsParams"),
    ("callHierarchy/outgoingCalls", aboutCall "CallHierarchyOutgoingCallsParams"),
    ("typeHierarchy/supertypes", aboutType "TypeHierarchySupertypesParams"),
    ("typeHierarchy/subtypes", aboutType "TypeHierarchySubtypesParams"),
    ("documentLink/resolve", documentLink),
    ("codeLens/resolve", codeLens),
    ("inlayHint/resolve", inlayHint),
    ("completionItem/resolve", completionItem),
    ("codeAction/resolve", codeAction),
    ("workspaceSymbol/resolve", workspaceSymbol),
    ("workspace/symbol", workspaceSymbols),
    ("workspace/diagnostic", workspaceDiagnostic),
    ("workspace/willCreateFiles", files "CreateFilesParams" "FileCreate" ["uri"]),
    ("workspace/willRenameFiles", files "RenameFilesParams" "FileRename" ["oldUri", "newUri"]),
    ("workspace/willDeleteFiles", files "DeleteFilesParams" "FileDelete" ["uri"]),
    ("workspace/executeCommand", executeCommand)]

/-- The shape of the parameters of a question; none for all other methods. -/
def questionParams? (method : String) : Option Shape :=
  (documentQuestions.find? fun q => "textDocument/" ++ q.1 == method).map (·.2) <|>
    otherQuestions.lookup method

/-- What kind of request a method is. -/
def methodKind (method : String) : MethodKind :=
  if method = "initialize" then .start
  else if method = "shutdown" then .stop
  else if announcementMethods.contains method then .announcement
  else if method = "$/cancelRequest" then .cancellation
  else if method.startsWith "$/" then .extension
  else (questionParams? method).elim .unknown .question

end WebForms
