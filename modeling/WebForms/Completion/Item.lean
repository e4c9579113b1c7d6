import WebForms.Json.Record
import WebForms.Types.Definition
import WebForms.Uri

/-!
# Completion items

What is offered at a cursor is a list of items: a label, what the label stands for, and perhaps
a detail, documentation and the text that is inserted. An item may also carry an event handler
that does not exist yet; accepting it runs a command that writes the handler.

## Main definitions

* `ItemKind`, `CompletionItem` — an item
* `HandlerProposal` — an event handler that may be written, with its written form
* `CompletionItem.toJson` — an item as editors take it
-/

namespace WebForms

/-- What an item stands for. -/
inductive ItemKind where
  | directive
  | element
  | attributeName
  | event
  | property
  | value
  | enumMember
  | color
  | method
  | field
  | keyword
  | className
  /-- The opening of a server block, comment or section. -/
  | opener
  | closingTag
  | handlerProposal
  deriving DecidableEq, Repr, Inhabited

/-- The number under which editors know a kind of item. -/
def ItemKind.number : ItemKind → Nat
  | method | handlerProposal => 2
  | field => 5
  | element | className => 7
  | attributeName | property => 10
  | value => 12
  | directive | keyword => 14
  | opener | closingTag => 15
  | color => 16
  | enumMember => 20
  | event => 23

/-! ### Proposed handlers -/

/-- An event handler that may be written into the class behind a page. -/
structure HandlerProposal where
  handlerName : String
  eventName : String
  delegateType : String
  parameters : List ParameterDefinition
  className : String
  /-- The page in which the handler was proposed. -/
  documentUri : Option Uri := none
  deriving DecidableEq, Repr

namespace HandlerProposal

open Json

/-- The written form of a parameter. -/
def parameterToJson (p : ParameterDefinition) : Json :=
  .obj [("name", .str p.name), ("typeName", .str p.typeName)]

/-- Reads a parameter. -/
def parameterOfJson? (v : Json) : Option ParameterDefinition := do
  let [name, typeName] ← v.fields? ["name", "typeName"] | none
  return { name := ← required str? name, typeName := ← required str? typeName }

/-- The written form of a handler. -/
def toJson (h : HandlerProposal) : Json :=
  .obj [("handlerName", .str h.handlerName), ("eventName", .str h.eventName),
    ("delegateType", .str h.delegateType), ("parameters", .arr (h.parameters.map parameterToJson)),
    ("className", .str h.className), ("documentUri", optStr (h.documentUri.map Uri.text))]

/-- Reads a handler. -/
def ofJson? (v : Json) : Option HandlerProposal := do
  let [handlerName, eventName, delegateType, parameters, className, documentUri] ← v.fields?
    ["handlerName", "eventName", "delegateType", "parameters", "className", "documentUri"] | none
  return {
    handlerName := ← required str? handlerName
    eventName := ← required str? eventName
    delegateType := ← required str? delegateType
    parameters := ← required (list? parameterOfJson?) parameters
    className := ← required str? className
    documentUri := ← optional (fun v => v.str?.bind fun s => (Uri.parse s).toOption) documentUri }

/-- The handler as proposed in the document `uri`, unless it names a document already. -/
def within (h : HandlerProposal) (uri : Uri) : HandlerProposal :=
  { h with documentUri := some (h.documentUri.getD uri) }

end HandlerProposal

/-! ### Items -/

/-- Something that may be inserted at the cursor. -/
structure CompletionItem where
  label : String
  kind : ItemKind
  detail : Option String := none
  documentation : Option String := none
  /-- The text that is inserted, if it is not the label. -/
  insertText : Option String := none
  handler : Option HandlerProposal := none
  deriving DecidableEq, Repr

/-- The command that writes a proposed handler. -/
def insertHandlerCommand : String := "aspnet.insertEventHandler"

/-- The command that accepting a proposed handler runs. -/
def HandlerProposal.toCommand (h : HandlerProposal) : Json :=
  .obj [("title", .str ("Insert " ++ h.handlerName)), ("command", .str insertHandlerCommand),
    ("arguments", .arr [h.toJson])]

/-- The item as editors take it, offered in the document `uri`. The text is plain. -/
def CompletionItem.toJson (e : CompletionItem) (uri : Uri) : Json :=
  .sparse [("label", some (.str e.label)), ("kind", some (.nat e.kind.number)),
    ("detail", e.detail.map .str), ("documentation", e.documentation.map .str),
    ("insertText", e.insertText.map .str), ("insertTextFormat", some (.nat 1)),
    ("command", e.handler.map fun h => (h.within uri).toCommand)]

end WebForms
