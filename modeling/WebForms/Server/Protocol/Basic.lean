import WebForms.Json.Shape

/-!
# Parts of messages

The places, edits and texts of which the parameters of most messages are made up.

## Main definitions

* `Shape.position`, `Shape.range`, `Shape.location` — places
* `Shape.document`, `Shape.place`, `Shape.progress`, `Shape.streaming` — what questions share
* `Shape.textEdit`, `Shape.command`, `Shape.documentation` — edits, commands and texts
-/

namespace WebForms.Shape

/-- Fields that hold truth values and may be left out. -/
def flags (names : List String) : List (String × Shape) :=
  names.map (·, optional boolean)

/-- A record of truth values that may be left out. -/
def flagRecord (name : String) (names : List String) : Shape := record name (flags names)

/-! ### Places -/

/-- A position in a document. -/
def position : Shape := record "Position" [("line", natural), ("character", natural)]

/-- A range of a document. -/
def range : Shape := record "Range" [("start", position), ("end", position)]

/-- A range of some document. -/
def location : Shape := record "Location" [("uri", uri), ("range", range)]

/-- The document that a message is about. -/
def documentId : Shape := record "TextDocumentIdentifier" [("uri", uri)]

/-- A version of a document. -/
def versionedDocumentId : Shape :=
  record "VersionedTextDocumentIdentifier" [("uri", uri), ("version", integer)]

/-! ### Fields that many messages share -/

/-- The document that a message is about, as a field. -/
def document : List (String × Shape) := [("textDocument", documentId)]

/-- A place in the document that a message is about. -/
def place : List (String × Shape) := document ++ [("position", position)]

/-- A number or a text. -/
def numberOrText : Shape := choice "NumberOrString" [integer, text]

/-- The name under which progress is reported. -/
def progress : List (String × Shape) := [("workDoneToken", optional numberOrText)]

/-- The name under which parts of an answer are sent ahead. -/
def streaming : List (String × Shape) := [("partialResultToken", optional numberOrText)]

/-- The parameters of a question about a place. -/
def atPlace (name : String) : Shape := merged name [] [place, progress]

/-- The parameters of a question about a place whose answer may come in parts. -/
def streamedAtPlace (name : String) : Shape := merged name [] [place, progress, streaming]

/-- The parameters of a question whose answer may come in parts. -/
def streamed (name : String) (fields : List (String × Shape)) : Shape :=
  merged name fields [progress, streaming]

/-! ### Edits, commands and texts -/

/-- An edit of a document. -/
def textEdit : Shape := record "TextEdit" [("range", range), ("newText", text)]

/-- A command. -/
def command : Shape :=
  record "Command"
    [("title", text), ("command", text), ("arguments", optional (list any))]

/-- The formats of texts. -/
def markupKind : Shape := words ["plaintext", "markdown"]

/-- A text in one of the formats. -/
def markup : Shape := record "MarkupContent" [("kind", markupKind), ("value", text)]

/-- A plain text or one in some format, for which there are several names. -/
def textOrMarkup (name : String) : Shape := choice name [text, markup]

/-- A text that describes something. -/
def documentation : Shape := textOrMarkup "Documentation"

/-- The properties that may be filled in later. -/
def propertyList (name : String) : Shape := record name [("properties", list text)]

/-- The tags that are known, for which there once was a truth value. -/
def tagSupport : Shape := orFlag (record "TagSupport" [("valueSet", list integer)])

end WebForms.Shape
