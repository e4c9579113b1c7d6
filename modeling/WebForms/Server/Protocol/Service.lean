import WebForms.Server.Protocol.Capabilities

/-!
# Parameters of the messages that the server acts upon

The shapes of what an editor tells when it starts the server, of the announcements of documents and
of the questions that the server answers.

## Main definitions

* `Shape.serverStart`, `Shape.serverStarted` — the start of the server
* `Shape.didOpen`, `Shape.didChange`, `Shape.didClose` — documents that are opened, edited, closed
* `Shape.completion`, `Shape.signatureHelp`, `Shape.documentSymbol`, `Shape.executeCommand` —
  questions
-/

namespace WebForms.Shape

/-! ### The start of the server -/

/-- What an editor tells when it starts the server. -/
def serverStart : Shape :=
  record "InitializeParams" [
    ("processId", optional natural),
    ("rootPath", optional text),
    ("rootUri", defaulted (optional uri)),
    ("initializationOptions", optional any),
    ("capabilities", clientCapabilities),
    ("trace", defaulted (optional (words ["off", "messages", "verbose"]))),
    ("workspaceFolders", optional
      (list (record "WorkspaceFolder" [("uri", uri), ("name", text)]))),
    ("clientInfo", optional
      (record "ClientInfo" [("name", text), ("version", optional text)])),
    ("locale", optional text)]

/-- That the server has been started. -/
def serverStarted : Shape := record "InitializedParams" []

/-! ### Documents -/

/-- The text of a document that has been opened. -/
def didOpen : Shape :=
  record "DidOpenTextDocumentParams" [
    ("textDocument", record "TextDocumentItem"
      [("uri", uri), ("languageId", text), ("version", integer), ("text", text)])]

/-- The edits of a document. -/
def didChange : Shape :=
  record "DidChangeTextDocumentParams" [
    ("textDocument", versionedDocumentId),
    ("contentChanges", list (record "TextDocumentContentChangeEvent"
      [("range", optional range), ("rangeLength", optional natural), ("text", text)]))]

/-- A document that has been closed. -/
def didClose : Shape := record "DidCloseTextDocumentParams" document

/-! ### Questions -/

/-- What can be inserted at a place. -/
def completion : Shape :=
  merged "CompletionParams"
    [("context", optional (record "CompletionContext"
      [("triggerKind", integer), ("triggerCharacter", optional text)]))]
    [place, progress, streaming]

/-- The methods that a call may mean, as they have been shown before. -/
def shownSignatures : Shape :=
  record "SignatureHelp" [
    ("signatures", list (record "SignatureInformation" [
      ("label", text),
      ("documentation", optional documentation),
      ("parameters", optional (list (record "ParameterInformation" [
        ("label", choice "ParameterLabel" [text, pair natural]),
        ("documentation", optional documentation)]))),
      ("activeParameter", optional natural)])),
    ("activeSignature", optional natural),
    ("activeParameter", optional natural)]

/-- The methods that a call may mean. -/
def signatureHelp : Shape :=
  merged "SignatureHelpParams"
    [("context", optional (record "SignatureHelpContext" [
      ("triggerKind", integer),
      ("triggerCharacter", optional text),
      ("isRetrigger", boolean),
      ("activeSignatureHelp", optional shownSignatures)]))]
    [place, progress]

/-- The outline of a document. -/
def documentSymbol : Shape := streamed "DocumentSymbolParams" document

/-- A command to be run. -/
def executeCommand : Shape :=
  merged "ExecuteCommandParams"
    [("command", text), ("arguments", defaulted (list any))]
    [progress]

end WebForms.Shape
