import WebForms.Server.Protocol.Basic

/-!
# Parameters of questions that are not answered

An editor may ask more than the server can answer. Such a question is refused for its parameters
if these are not well formed, and otherwise because there is no answer to it.

## Main definitions

* `Shape.codeActions`, `Shape.formatting`, … — the parameters of the questions, of which those about
  a place and those about a document are made by `Shape.atPlace` and `Shape.streamed`
* `Shape.completionItem`, `Shape.codeAction`, … — items whose details are asked for
-/

namespace WebForms.Shape

/-! ### Hierarchies and references -/

/-- A place at which a symbol is used. -/
def references : Shape :=
  merged "ReferenceParams"
    [("context", record "ReferenceContext" [("includeDeclaration", boolean)])]
    [place, progress, streaming]

/-- The item of a hierarchy of calls or types, whose tags have the shape `tags`. -/
def hierarchyItem (name : String) (tags : Shape) : Shape :=
  record name [
    ("name", text), ("kind", integer), ("tags", optional tags), ("detail", optional text),
    ("uri", uri), ("range", range), ("selectionRange", range), ("data", optional any)]

/-- The parameters of a question about an item of the hierarchy of calls. -/
def aboutCall (name : String) : Shape :=
  streamed name [("item", hierarchyItem "CallHierarchyItem" (list integer))]

/-- The parameters of a question about an item of the hierarchy of types. -/
def aboutType (name : String) : Shape :=
  streamed name [("item", hierarchyItem "TypeHierarchyItem" integer)]

/-! ### Things to be shown in a document -/

/-- A link in a document. -/
def documentLink : Shape :=
  record "DocumentLink" [
    ("range", range), ("target", optional uri), ("tooltip", optional text),
    ("data", optional any)]

/-- A command that is shown among the lines. -/
def codeLens : Shape :=
  record "CodeLens" [("range", range), ("command", optional command), ("data", optional any)]

/-- Places around which larger and larger ranges are selected. -/
def selectionRanges : Shape :=
  streamed "SelectionRangeParams" (document ++ [("positions", list position)])

/-- The values of variables to be shown in a range. -/
def inlineValues : Shape :=
  merged "InlineValueParams"
    (document ++ [("range", range), ("context", record "InlineValueContext"
      [("frameId", integer), ("stoppedLocation", range)])])
    [progress]

/-- The hints to be shown in a range. -/
def inlayHints : Shape :=
  merged "InlayHintParams" (document ++ [("range", range)]) [progress]

/-- A hint among the text of a document. -/
def inlayHint : Shape :=
  record "InlayHint" [
    ("position", position),
    ("label", choice "InlayHintLabel" [text, list (record "InlayHintLabelPart" [
      ("value", text), ("tooltip", optional (textOrMarkup "InlayHintLabelPartTooltip")),
      ("location", optional location), ("command", optional command)])]),
    ("kind", optional integer),
    ("textEdits", optional (list textEdit)),
    ("tooltip", optional (textOrMarkup "InlayHintTooltip")),
    ("paddingLeft", optional boolean),
    ("paddingRight", optional boolean),
    ("data", optional any)]

/-- A colour in a range, to be written in other ways. -/
def colorPresentation : Shape :=
  streamed "ColorPresentationParams" (document ++ [
    ("color", record "Color"
      [("red", decimal), ("green", decimal), ("blue", decimal), ("alpha", decimal)]),
    ("range", range)])

/-! ### Completion items -/

/-- An item of a completion list. -/
def completionItem : Shape :=
  record "CompletionItem" [
    ("label", text),
    ("labelDetails", optional (record "CompletionItemLabelDetails"
      [("detail", optional text), ("description", optional text)])),
    ("kind", optional integer),
    ("detail", optional text),
    ("documentation", optional documentation),
    ("deprecated", optional boolean),
    ("preselect", optional boolean),
    ("sortText", optional text),
    ("filterText", optional text),
    ("insertText", optional text),
    ("insertTextFormat", optional integer),
    ("insertTextMode", optional integer),
    ("textEdit", optional (choice "CompletionTextEdit" [textEdit, record "InsertReplaceEdit"
      [("newText", text), ("insert", range), ("replace", range)]])),
    ("additionalTextEdits", optional (list textEdit)),
    ("command", optional command),
    ("commitCharacters", optional (list text)),
    ("data", optional any),
    ("tags", optional (list integer))]

/-! ### Findings and what can be done about them -/

/-- The findings in a document. -/
def documentDiagnostic : Shape :=
  streamed "DocumentDiagnosticParams"
    (document ++ [("identifier", optional text), ("previousResultId", optional text)])

/-- The findings in a workspace. -/
def workspaceDiagnostic : Shape :=
  streamed "WorkspaceDiagnosticParams" [
    ("identifier", optional text),
    ("previousResultIds", list (record "PreviousResultId" [("uri", uri), ("value", text)]))]

/-- A finding. -/
def diagnostic : Shape :=
  record "Diagnostic" [
    ("range", range),
    ("severity", optional integer),
    ("code", optional numberOrText),
    ("codeDescription", optional (record "CodeDescription" [("href", uri)])),
    ("source", optional text),
    ("message", text),
    ("relatedInformation", optional (list (record "DiagnosticRelatedInformation"
      [("location", location), ("message", text)]))),
    ("tags", optional (list integer)),
    ("data", optional any)]

/-- What can be done about the findings in a range. -/
def codeActions : Shape :=
  streamed "CodeActionParams" (document ++ [
    ("range", range),
    ("context", record "CodeActionContext" [
      ("diagnostics", list diagnostic),
      ("only", optional (list text)),
      ("triggerKind", optional integer)])])

/-- Edits of one document in a certain version. -/
def documentEdit : Shape :=
  record "TextDocumentEdit" [
    ("textDocument", record "OptionalVersionedTextDocumentIdentifier"
      [("uri", uri), ("version", optional integer)]),
    ("edits", list (choice "OneOf" [textEdit, merged "AnnotatedTextEdit"
      [("annotationId", text)] [[("range", range), ("newText", text)]]]))]

/-- What is done to a file, told apart by its kind. -/
def fileOperation : Shape :=
  let kind (word : String) (fields : List (String × Shape)) (options : Shape) : Shape :=
    merged "ResourceOp" (("kind", words [word]) :: fields ++
      [("options", optional options), ("annotationId", optional text)]) []
  choice "ResourceOp" [
    kind "create" [("uri", uri)] (flagRecord "CreateFileOptions" ["overwrite", "ignoreIfExists"]),
    kind "rename" [("oldUri", uri), ("newUri", uri)]
      (flagRecord "RenameFileOptions" ["overwrite", "ignoreIfExists"]),
    kind "delete" [("uri", uri)]
      (flagRecord "DeleteFileOptions" ["recursive", "ignoreIfNotExists"])]

/-- Edits of the documents of a workspace. -/
def workspaceEdit : Shape :=
  record "WorkspaceEdit" [
    ("changes", defaulted (optional (uriTable (list textEdit)))),
    ("documentChanges", optional (choice "DocumentChanges" [list documentEdit,
      list (choice "DocumentChangeOperation" [fileOperation, documentEdit])])),
    ("changeAnnotations", optional (table (record "ChangeAnnotation" [
      ("label", text), ("needsConfirmation", optional boolean),
      ("description", optional text)])))]

/-- Something that can be done. -/
def codeAction : Shape :=
  record "CodeAction" [
    ("title", text),
    ("kind", optional text),
    ("diagnostics", optional (list diagnostic)),
    ("edit", optional workspaceEdit),
    ("command", optional command),
    ("isPreferred", optional boolean),
    ("disabled", optional (record "CodeActionDisabled" [("reason", text)])),
    ("data", optional any)]

/-! ### Formatting -/

/-- How a document is formatted. -/
def formattingOptions : Shape :=
  extended "FormattingOptions" [
    ("tabSize", natural),
    ("insertSpaces", boolean),
    ("trimTrailingWhitespace", optional boolean),
    ("insertFinalNewline", optional boolean),
    ("trimFinalNewlines", optional boolean)]
    (choice "FormattingProperty" [boolean, integer, text])

/-- A document to be formatted. -/
def formatting : Shape :=
  merged "DocumentFormattingParams" (document ++ [("options", formattingOptions)]) [progress]

/-- A range to be formatted. -/
def rangeFormatting : Shape :=
  merged "DocumentRangeFormattingParams"
    (document ++ [("range", range), ("options", formattingOptions)]) [progress]

/-- A place to be formatted after a character has been typed. -/
def onTypeFormatting : Shape :=
  merged "DocumentOnTypeFormattingParams"
    [("ch", text), ("options", formattingOptions)] [place]

/-! ### Names, files and the workspace -/

/-- A new name. -/
def rename : Shape := merged "RenameParams" [("newName", text)] [place, progress]

/-- A place at which a name may be changed. -/
def prepareRename : Shape := record "TextDocumentPositionParams" place

/-- Symbols that are looked for in the workspace. -/
def workspaceSymbols : Shape :=
  merged "WorkspaceSymbolParams" [("query", text)] [streaming, progress]

/-- A symbol of the workspace. -/
def workspaceSymbol : Shape :=
  record "WorkspaceSymbol" [
    ("name", text), ("kind", integer), ("tags", optional (list integer)),
    ("containerName", optional text),
    ("location", choice "OneOf" [location, record "WorkspaceLocation" [("uri", uri)]]),
    ("data", optional any)]

/-- A document that is about to be saved. -/
def willSave : Shape :=
  record "WillSaveTextDocumentParams" (document ++ [("reason", integer)])

/-- Files with which something is about to be done. -/
def files (name itemName : String) (addresses : List String) : Shape :=
  record name [("files", list (record itemName (addresses.map (·, text))))]

end WebForms.Shape
