import WebForms.Code.Insertion
import WebForms.Workbench
import WebForms.Json.Canonical
import WebForms.Outline
import WebForms.Server.Documents
import WebForms.Server.Message
import WebForms.Server.Protocol.Method
import WebForms.Types.IndexFiles

/-!
# The server

A server is started, told of the documents that are open and of their edits, asked questions about
them, and shut down. Before it is started and after it is shut down it refuses all requests and
ignores all notifications. A request whose parameters do not have the shape that its method calls
for is refused with the first fault, and a notification of that kind has no effect.

## Main definitions

* `Server` — the state of a server
* `Server.insertHandler` — the edit that writes an event handler into its code file
* `Server.request`, `Server.notify` — the effect of a request, of a notification
-/

namespace WebForms

/-- How far a server has come. -/
inductive ServerPhase where
  | created
  | running
  | shutDown
  | exited
  deriving DecidableEq, Repr

/-- The state of a server. It keeps the descriptors of controls until other types are loaded. -/
structure Server extends Catalog where
  index := .bundled
  phase : ServerPhase := .created
  documents : Documents := {}
  settings : Settings := {}
  languages : LanguageRegistry := .standard
  /-- The directory of the workspace. -/
  root : Option String := none
  /-- The runtime version that the environment names. -/
  environment : Option String := none

/-- What comes of a message: an answer if it was a request, and what is sent besides. -/
structure Reply where
  answer : Option (Except ResponseError Json) := none
  sent : List Outgoing := []

/-! ### What the server offers -/

/-- The name under which the server makes itself known. -/
def serverName : String := "aspnet-language-server"

/-- The version of the server. -/
def serverVersion : String := "0.2.0"

/-- The characters at which an editor asks for completion. -/
def completionTriggers : List String := ["<", " ", "=", "\"", "'", ".", "@", "/", ":"]

/-- The characters at which an editor asks for the parameters of a call. -/
def signatureTriggers : List String := ["(", ","]

/-- What the server tells of itself when it is started. Edits come as changes of ranges. -/
def serverDescription : Json :=
  let strs (xs : List String) : Json := .arr (xs.map .str)
  .obj [
    ("capabilities", .obj [
      ("textDocumentSync", .nat 2),
      ("completionProvider", .obj [
        ("resolveProvider", .bool false), ("triggerCharacters", strs completionTriggers)]),
      ("signatureHelpProvider", .obj [("triggerCharacters", strs signatureTriggers)]),
      ("documentSymbolProvider", .bool true),
      ("executeCommandProvider", .obj [("commands", strs [insertHandlerCommand])])]),
    ("serverInfo", .obj [("name", .str serverName), ("version", .str serverVersion)])]

/-! ### Writing event handlers -/

/-- Why an event handler cannot be written. -/
inductive InsertFailure where
  | noDocument (handlerName : String)
  | notOpen (uri : Uri)
  | noCodeFile (uri : Uri)
  | unknownLanguage (language : String)
  | notAFile (uri : Uri)
  | unreadable (path : String) (failure : ReadFailure)
  | noClass (className path : String)
  | badPath (path : String)
  deriving DecidableEq, Repr

/-- What is said of an event handler that cannot be written. -/
def InsertFailure.message : InsertFailure → String
  | noDocument handlerName => "handler " ++ handlerName ++ " has no markup document"
  | notOpen uri => uri.text ++ " is not open"
  | noCodeFile uri => uri.text ++ " has no CodeFile or CodeBehind attribute"
  | unknownLanguage language => "no builder for language " ++ language
  | notAFile uri => uri.text ++ " is not a file URI"
  | unreadable path failure => "reading code file " ++ path ++ ": " ++ failure.message
  | noClass className path => "class " ++ className ++ " not found in " ++ path
  | badPath path => "bad code file path " ++ path

/-- The language of a page and the path of its code file. -/
structure CodeFile where
  language : Language
  path : String
  deriving DecidableEq, Repr

namespace Server

/-- What is known besides the documents. -/
def workbench (s : Server) : Workbench :=
  { index := s.index, languages := s.languages, settings := s.settings }

/-- The code file of the page in which a handler was suggested. -/
def codeFile (s : Server) (h : HandlerProposal) : Except InsertFailure CodeFile := do
  let some uri := h.documentUri | throw (.noDocument h.handlerName)
  let some page := s.documents.find? uri | throw (.notOpen uri)
  let some name := page.facts.codeFile | throw (.noCodeFile uri)
  let some language := s.languages.find? page.facts.language |
    throw (.unknownLanguage page.facts.language)
  let some path := uri.filePath? | throw (.notAFile uri)
  return ⟨language, codeFilePath path name s.root⟩

/-- The edit that writes a handler into the text of a code file. -/
def editFor (h : HandlerProposal) (file : CodeFile) (text : String) :
    Except InsertFailure Outgoing := do
  let some insertion := h.insertion? file.language text |
    throw (.noClass h.className file.path)
  let some address := Uri.fileAddress? file.path | throw (.badPath file.path)
  return .edit address insertion.toJson

variable {m : Type → Type} [Monad m] (disk : Disk m)

/-- What is sent in order to write a handler: the edit, or a warning. -/
def insertHandler (s : Server) (h : HandlerProposal) : m Outgoing := do
  let outcome ← match s.codeFile h with
    | .error e => pure (.error e)
    | .ok file =>
      match ← disk.read file.path with
      | .error e => pure (.error (.unreadable file.path e))
      | .ok text => pure (editFor h file text)
  match outcome with
  | .ok edit => return edit
  | .error e => return .warning ("Cannot insert event handler: " ++ InsertFailure.message e)

/-! ### Requests -/

/-- The parameters of a request in plain form; they may not be left out. -/
def readParams (shape : Shape) : Option Json → Except ResponseError Json
  | none => .error .missingParams
  | some v => (shape.read false v).mapError .malformedParams

/-- The items at a place, null when there are none, and the server that keeps what was made for
them. -/
def completion (s : Server) (p : CursorParams) : Json × Server :=
  match s.documents.find? p.uri with
  | none => (.null, s)
  | some page =>
    let (items, catalog) := s.workbench.completeFrom s.toCatalog page p.position
    let answer := match items with
      | .ok (e :: es) => .arr ((e :: es).map (·.toJson p.uri))
      | _ => .null
    (answer, { s with toCatalog := catalog })

/-- The methods that the call at a place may mean; null when there are none. -/
def signatureHelp (s : Server) (p : CursorParams) : Json :=
  match s.documents.find? p.uri with
  | none => .null
  | some page =>
    match s.workbench.signatureHelp page p.position with
    | .ok (some help) => help.toJson
    | _ => .null

/-- The outline of a document; null when it is not open. -/
def documentSymbol (s : Server) (uri : Uri) : Json :=
  match s.documents.find? uri with
  | none => .null
  | some page =>
    .arr (OutlineEntry.listToJson (page.root.outline s.settings.outlineTagOffset))

/-- Runs a command. -/
def executeCommand (s : Server) (p : CommandParams) : m Reply := do
  if p.command != insertHandlerCommand then return { answer := some (.error .methodNotFound) }
  match p.arguments.head?.bind HandlerProposal.ofJson? with
  | none => return { answer := some (.error .noHandler) }
  | some h => return { answer := some (.ok .null), sent := [← s.insertHandler disk h] }

/-- Starts the server: takes over the options and the workspace, and loads the type index. -/
def start (s : Server) (p : InitializeParams) : m Server := do
  let settings := s.settings.layered p.options s.environment
  let root := (p.root.bind Uri.filePath?).or s.root
  let index ← loadIndex disk settings root
  return { s with toCatalog := s.renew index, phase := .running, settings, root }

/-- The answer of a running server to a question with parameters in plain form. -/
def answer (s : Server) (method : String) (params : Json) : m (Server × Reply) :=
  let reply {α : Type} (read : Json → Option α) (f : α → Json × Server) : Server × Reply :=
    let (v, s) := (read params).elim (.null, s) f
    (s, { answer := some (.ok v) })
  match method with
  | "textDocument/completion" => return reply CursorParams.ofJson? s.completion
  | "textDocument/signatureHelp" =>
    return reply CursorParams.ofJson? fun p => (s.signatureHelp p, s)
  | "textDocument/documentSymbol" =>
    return reply Json.documentUri? fun uri => (s.documentSymbol uri, s)
  | "workspace/executeCommand" =>
    match CommandParams.ofJson? params with
    | some p => return (s, ← s.executeCommand disk p)
    | none => return (s, { answer := some (.ok .null) })
  | _ => return (s, { answer := some (.error .methodNotFound) })

/-- Ends the service: all documents are closed, unless there are parameters. -/
def shutdown (s : Server) : Option Json → Server × Reply
  | none =>
    ({ s with phase := .shutDown, documents := s.documents.receive .ended },
      { answer := some (.ok .null) })
  | some v =>
    ({ s with phase := .shutDown }, { answer := some (.error (.unexpectedParams v)) })

/-- The effect of a request with parameters in canonical form. -/
def serve (s : Server) (method : String) (params : Option Json) : m (Server × Reply) := do
  let refuse (e : ResponseError) : Server × Reply := (s, { answer := some (.error e) })
  match s.phase, methodKind method with
  | _, .unknown => return refuse .methodNotFound
  | _, .extension => return (s, {})
  | _, .cancellation => return refuse .invalidRequest
  | .created, .start =>
    match readParams .serverStart params with
    | .error e => return refuse e
    | .ok v =>
      return (← s.start disk (.ofJson v), { answer := some (.ok serverDescription) })
  | .created, _ => return refuse .notInitialized
  | .running, .stop => return s.shutdown params
  | .running, .question shape =>
    match readParams shape params with
    | .error e => return refuse e
    | .ok v => s.answer disk method v
  | _, _ => return refuse .invalidRequest

/-- The effect of a request. -/
def request (s : Server) (method : String) (params : Option Json) : m (Server × Reply) :=
  s.serve disk method (params.map Json.canonical)

/-! ### Notifications -/

/-- The parameters of a notification, if they have the shape and can be read. -/
def announced? {α : Type} (shape : Shape) (read : Json → Option α) (params : Option Json) :
    Option α := do
  let v ← params
  read (← (shape.read false v.canonical).toOption)

/-- What a notification says about documents. -/
def documentMessage? (method : String) (params : Option Json) : Option DocumentMessage :=
  match method with
  | "textDocument/didOpen" =>
    (announced? .didOpen OpenParams.ofJson? params).map fun p => .opened p.uri p.version p.text
  | "textDocument/didChange" =>
    (announced? .didChange ChangeParams.ofJson? params).map fun p =>
      .changed p.uri p.version p.changes
  | "textDocument/didClose" =>
    (announced? .didClose Json.documentUri? params).map .closed
  | _ => none

/-- The documents after a notification. -/
def documentsAfter (s : Server) (method : String) (params : Option Json) : Documents :=
  (documentMessage? method params).elim s.documents s.documents.receive

/-- The effect of a notification. -/
def notify (s : Server) (method : String) (params : Option Json) : Server × Reply :=
  match s.phase, method with
  | _, "exit" => ({ s with phase := .exited }, {})
  | .running, "initialized" =>
    match announced? .serverStarted some params with
    | some _ => (s, { sent := [.log "ASP.NET language server ready"] })
    | none => (s, {})
  | .running, _ => ({ s with documents := s.documentsAfter method params }, {})
  | _, _ => (s, {})

end Server

end WebForms
