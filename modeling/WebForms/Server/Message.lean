import WebForms.Document
import WebForms.Json.Record
import WebForms.Json.Shape

/-!
# Messages

An editor sends requests, which are answered, and notifications, which are not. Here their
parameters are taken from their plain form, and what the server sends is put together.

## Main definitions

* `ResponseError` — why a request is refused
* `Outgoing` — what the server sends of its own accord
* `OpenParams`, `ChangeParams`, `CursorParams`, `CommandParams`, `InitializeParams` — parameters
-/

namespace WebForms

/-! ### Answers -/

/-- Why a request is refused. -/
inductive ResponseError where
  | notInitialized
  | invalidRequest
  | methodNotFound
  | missingParams
  | malformedParams (fault : ShapeFault)
  /-- Parameters where there should be none. -/
  | unexpectedParams (params : Json)
  /-- The arguments of a command do not begin with a suggested handler. -/
  | noHandler

namespace ResponseError

/-- The number of a refusal. -/
def code : ResponseError → Int
  | notInitialized => -32002
  | invalidRequest => -32600
  | methodNotFound => -32601
  | missingParams => -32602
  | malformedParams _ => -32602
  | unexpectedParams _ => -32602
  | noHandler => -32602

/-- What is said of a refusal. -/
def message : ResponseError → String
  | notInitialized => "Server not initialized"
  | invalidRequest => "Invalid request"
  | methodNotFound => "Method not found"
  | missingParams => "Missing params field"
  | malformedParams fault => fault.message
  | unexpectedParams params => "Unexpected params: " ++ params.render
  | noHandler => "expected a suggested handler"

end ResponseError

/-- A message that the server sends of its own accord. -/
structure Outgoing where
  method : String
  params : Json

/-- The request by which the editor is asked to apply an edit. -/
def editMethod : String := "workspace/applyEdit"

namespace Outgoing

/-- A line for the log of the editor. -/
def log (message : String) : Outgoing :=
  ⟨"window/logMessage", .obj [("type", .nat 3), ("message", .str message)]⟩

/-- A warning that the editor shows. -/
def warning (message : String) : Outgoing :=
  ⟨"window/showMessage", .obj [("type", .nat 2), ("message", .str message)]⟩

/-- The request to apply an edit to the document at `address`. -/
def edit (address : String) (textEdit : Json) : Outgoing :=
  ⟨editMethod,
    .obj [("edit", .obj [("changes", .obj [(address, .arr [textEdit])])])]⟩

end Outgoing

/-! ### Parameters -/

namespace Json

/-- The member of that name, read by `read`. -/
def member? {α : Type} (name : String) (read : Json → Option α) (v : Json) : Option α :=
  (v.get? name).bind read

/-- The member of that name, read by `read`, which may be left out or null. -/
def optionalMember? {α : Type} (name : String) (read : Json → Option α) (v : Json) :
    Option (Option α) :=
  optional read (v.get? name)

/-- An address. -/
def uri? (v : Json) : Option Uri := v.str?.bind fun s => (Uri.parse s).toOption

/-- A position. -/
def position? (v : Json) : Option Position := do
  return ⟨← v.member? "line" nat32?, ← v.member? "character" nat32?⟩

/-- A range of text. -/
def range? (v : Json) : Option Span := do
  return ⟨← v.member? "start" position?, ← v.member? "end" position?⟩

/-- The address of the document that a message is about. -/
def documentUri? (v : Json) : Option Uri := v.member? "textDocument" (member? "uri" uri?)

end Json

open Json

/-- The text of a document that has been opened. -/
structure OpenParams where
  uri : Uri
  version : Int
  text : String

/-- Reads the parameters of the notification that a document has been opened. -/
def OpenParams.ofJson? (v : Json) : Option OpenParams := do
  let document ← v.get? "textDocument"
  let _ ← document.member? "languageId" str?
  return {
    uri := ← document.member? "uri" uri?
    version := ← document.member? "version" int32?
    text := ← document.member? "text" str? }

/-- The edit of a document. -/
structure ChangeParams where
  uri : Uri
  version : Int
  changes : List TextChange

/-- Reads a change. -/
def TextChange.ofJson? (v : Json) : Option TextChange := do
  return {
    range := ← v.optionalMember? "range" range?
    text := ← v.member? "text" str? }

/-- Reads the parameters of the notification that a document has been edited. -/
def ChangeParams.ofJson? (v : Json) : Option ChangeParams := do
  let document ← v.get? "textDocument"
  return {
    uri := ← document.member? "uri" uri?
    version := ← document.member? "version" int32?
    changes := ← v.member? "contentChanges" (list? TextChange.ofJson?) }

/-- A place in a document. -/
structure CursorParams where
  uri : Uri
  position : Position

/-- Reads the parameters of a request about a place. -/
def CursorParams.ofJson? (v : Json) : Option CursorParams := do
  return { uri := ← documentUri? v, position := ← v.member? "position" position? }

/-- A command with its arguments. -/
structure CommandParams where
  command : String
  arguments : List Json

/-- Reads the parameters of the request to run a command. -/
def CommandParams.ofJson? (v : Json) : Option CommandParams := do
  return {
    command := ← v.member? "command" str?
    arguments := ← withDefault [] (list? some) (v.get? "arguments") }

/-- What an editor says of itself when it starts the server. -/
structure InitializeParams where
  options : Option Json
  root : Option Uri

/-- Reads what an editor says of itself. The root of the workspace is its first folder, or else the
root that is named by itself. -/
def InitializeParams.ofJson (v : Json) : InitializeParams :=
  let folders := v.member? "workspaceFolders" (list? (member? "uri" uri?))
  { options := v.get? "initializationOptions"
    root := (folders.bind List.head?).or (v.member? "rootUri" uri?) }

end WebForms
