import WebForms.Proofs.Json.Members
import WebForms.Server.Session

/-!
# Proposed handlers come back when they are accepted

A handler that does not exist yet is offered with a command. When the item is accepted, the editor
asks the server to run this command and gives it the arguments that came with it, of which it
understands nothing. The handler has to be the same when it arrives: it has been written, has gone
through the texts of two messages and been brought into canonical form, and is then read by another
part of the server than wrote it.

The document of a handler is written as the text of its URI. That a URI is read back from its text
is taken for granted here.

## Main definitions

* `CompletionItem.acceptance?` — what an editor asks when an item is accepted
* `CommandParams.received?` — the command that arrives
* `HandlerProposal.Returns` — the command of an item makes the server write a handler

## Main results

* `Server.request_of_received` — a running server runs the command that arrives
* `HandlerProposal.exists_returns` — every handler that is offered comes back and is written
-/

namespace WebForms

open Json

/-! ### Handlers in canonical form -/

namespace HandlerProposal

theorem survives_parameter : Survives parameterToJson parameterOfJson? where
  written p := .obj (by simp [Written.str])
  read_canonical p := by
    rw [parameterOfJson?, parameterToJson, fields?_canonical_obj]
    case all => rfl
    case distinct => decide
    simp

/-- A handler comes back with the URI that is read from the text of its document. -/
theorem ofJson?_canonical_within (h : HandlerProposal) (uri : Uri) :
    ofJson? (h.within uri).toJson.canonical =
      (Uri.parse (h.documentUri.getD uri).text).toOption.map fun place =>
        { h with documentUri := some place } := by
  have parameters : list? parameterOfJson? (arr (h.parameters.map parameterToJson)).canonical =
      some h.parameters := survives_parameter.list.read_canonical h.parameters
  have document (text : String) :
      optional (fun v => v.str?.bind fun s => (Uri.parse s).toOption) (some (str text)) =
        (Uri.parse text).toOption.map some := rfl
  rw [ofJson?, toJson, fields?_canonical_obj]
  case all => rfl
  case distinct => decide
  -- All other fields come back, so the handler is read if its document is.
  cases place : (Uri.parse (h.documentUri.getD uri).text).toOption with
  | none => simp [within, optStr, parameters, document, place]
  | some uri' => simp [within, optStr, parameters, document, place]

/-- A proposed handler has a text of its own. -/
theorem written_toJson (h : HandlerProposal) : h.toJson.Written := by
  have parameters := survives_parameter.list.written h.parameters
  have document := faithful_optStr.written (h.documentUri.map Uri.text)
  exact .obj (by simp [parameters, document, Written.str])

theorem written_toCommand (h : HandlerProposal) : h.toCommand.Written := by
  have arguments : (arr [h.toJson]).Written := .arr (List.forall_mem_singleton.mpr h.written_toJson)
  exact .obj (by simp [arguments, Written.str])

end HandlerProposal

/-! ### The command of an item -/

namespace CompletionItem

/-- What an editor asks of the server when the item is accepted: to run the command of the item with
the arguments that came with it. -/
def acceptance? (item : Json) : Option Json := do
  let command ← item.get? "command"
  return .obj [("command", ← command.get? "command"), ("arguments", ← command.get? "arguments")]

theorem written_toJson (e : CompletionItem) (uri : Uri) : (e.toJson uri).Written := by
  have kind : (nat e.kind.number).Written := by
    refine .int ?_ ?_
    all_goals cases e.kind <;> decide
  have text (s : Option String) : ∀ v ∈ s.map str, v.Written := by
    intro v hv
    obtain ⟨t, -, rfl⟩ := Option.map_eq_some_iff.mp hv
    exact .str t
  have plain : (nat 1).Written := .int (by decide) (by decide)
  have command (h : HandlerProposal) : (h.within uri).toCommand.Written :=
    (h.within uri).written_toCommand
  exact written_sparse (by simp [kind, text, plain, command])

variable {e : CompletionItem} {h : HandlerProposal}

/-- An item that proposes a handler carries the command that writes it. -/
theorem acceptance?_toJson (proposes : e.handler = some h) (uri : Uri) :
    acceptance? (e.toJson uri) = some (.obj [("command", .str insertHandlerCommand),
      ("arguments", .arr [(h.within uri).toJson])]) := by
  have command : (e.toJson uri).get? "command" = some (h.within uri).toCommand := by
    rw [toJson, get?_sparse, proposes]
    case distinct => simp only [List.map_cons, List.map_nil]; decide
    rfl
  rw [acceptance?, command]
  rfl

end CompletionItem

/-! ### The command that arrives -/

namespace Shape

/-! What the shapes of these parameters do to a value. -/

@[simp] theorem read_text_str (aside : Bool) (s : String) :
    text.read aside (.str s) = .ok (.str s) := rfl

@[simp] theorem read_defaulted (aside : Bool) (shape : Shape) (v : Json) :
    (defaulted shape).read aside v = shape.read aside v := rfl

theorem read_list_arr (aside : Bool) (items : Shape) (vs : List Json) :
    (list items).read aside (.arr vs) = (vs.mapM (items.read aside)).map .arr := rfl

theorem read_merged_obj (aside : Bool) (name : String) (fields : List (String × Shape))
    (groups : List (List (String × Shape))) (members : List (String × Json)) :
    (merged name fields groups).read aside (.obj members) = (do
      let own ← complete fields members (readMembers aside fields members)
      return .obj (own ++ (← readGroups groups members))) := rfl

theorem settle_nil : settle [] = .ok [] := by
  rw [settle, List.mergeSort_nil]
  rfl

/-- Of two values that have been read, the one whose name comes first is put first. -/
theorem settle_pair {first second : String} (before : ¬ second ≤ first) (v w : Json) :
    settle [(second, .ok w), (first, .ok v)] = .ok [(first, v), (second, w)] := by
  let outcomes : List (String × Except ShapeFault Json) := [(second, .ok w), (first, .ok v)]
  have sorted : outcomes.mergeSort (fun a b => a.1 ≤ b.1) = [(first, .ok v), (second, .ok w)] := by
    simp [outcomes, List.mergeSort, List.MergeSort.Internal.splitInTwo, before]
  rw [settle, sorted]
  rfl

/-- When all members can be read and none is missing, they are what is read. -/
theorem complete_eq_ok {fields : List (String × Shape)} {members settled : List (String × Json)}
    {outcomes : List (String × Except ShapeFault Json)} (read : settle outcomes = .ok settled)
    (full : missing? fields members = none) : complete fields members outcomes = .ok settled := by
  rw [complete, read, full]
  rfl

theorem read_list_any (aside : Bool) (vs : List Json) :
    (list any).read aside (.arr vs) = .ok (.arr vs) := by
  have items : vs.mapM (any.read aside) = .ok vs :=
    List.mapM_pure.trans (congrArg Except.ok (List.map_id vs))
  rw [read_list_arr, items]
  rfl

/-- The parameters of a command in plain form have its name and its arguments. -/
theorem read_executeCommand {members : List (String × Json)} {command : String}
    {arguments : List Json} (named : members.lookup "command" = some (.str command))
    (given : members.lookup "arguments" = some (.arr arguments))
    (silent : members.lookup "workDoneToken" = none) :
    executeCommand.read false (.obj members) =
      .ok (.obj [("arguments", .arr arguments), ("command", .str command)]) := by
  let fields : List (String × Shape) := [("command", text), ("arguments", defaulted (list any))]
  have outcomes : readMembers false fields members =
      [("command", .ok (.str command)), ("arguments", .ok (.arr arguments))] := by
    simp only [fields, readMembers, named, given, read_text_str, read_defaulted, read_list_any]
  have full : missing? fields members = none := by
    simp [fields, missing?, mayBeAbsent, named]
  have own : complete fields members (readMembers false fields members) =
      .ok [("arguments", .arr arguments), ("command", .str command)] := by
    rw [outcomes]
    exact complete_eq_ok (settle_pair (by decide) _ _) full
  -- The members that name a report on progress may be left out.
  have group : readGroups [progress] members = .ok [] := by
    have outcomes : readMembers true progress members = [] := by
      simp only [progress, readMembers, silent]
    have full : missing? progress members = none := by
      simp [progress, missing?, mayBeAbsent]
    rw [readGroups, outcomes, complete_eq_ok settle_nil full, readGroups]
    rfl
  rw [executeCommand, read_merged_obj, own, group]
  rfl

end Shape

/-- A command is read from its parameters in plain form. -/
theorem CommandParams.ofJson?_plain (command : String) (arguments : List Json) :
    ofJson? (.obj [("arguments", .arr arguments), ("command", .str command)]) =
      some ⟨command, arguments⟩ := by
  let plain : Json := .obj [("arguments", .arr arguments), ("command", .str command)]
  have named : plain.member? "command" str? = some command := rfl
  have given : plain.get? "arguments" = some (.arr arguments) := rfl
  have items : list? some (.arr arguments) = some arguments :=
    List.mapM_pure.trans (congrArg some (List.map_id arguments))
  rw [ofJson?, named, given, withDefault_some, items]
  rfl

/-- The command that arrives when a request to run one has these parameters. -/
def CommandParams.received? (params : Json) : Option CommandParams :=
  (Server.readParams .executeCommand (some params.canonical)).toOption.bind ofJson?

/-- A command arrives with its arguments in canonical form. -/
theorem CommandParams.received?_obj (command : String) (arguments : List Json) :
    received? (.obj [("command", .str command), ("arguments", .arr arguments)]) =
      some ⟨command, arguments.map canonical⟩ := by
  let members : List (String × Json) := [("command", .str command), ("arguments", .arr arguments)]
  let plain : Json :=
    .obj [("arguments", .arr (arguments.map canonical)), ("command", .str command)]
  have found (name : String) : (lastMembers (canonicalMembers members)).lookup name =
      (members.lookup name).map canonical := lookup_lastMembers (by simp [members])
  have named : members.lookup "command" = some (.str command) := rfl
  have given : members.lookup "arguments" = some (.arr arguments) := rfl
  have silent : members.lookup "workDoneToken" = none := rfl
  have read : Shape.executeCommand.read false (obj members).canonical = .ok plain := by
    rw [canonical]
    apply Shape.read_executeCommand
    · rw [found, named, Option.map_some, canonical_str]
    · rw [found, given, Option.map_some, canonical, canonicalItems_eq_map]
    · rw [found, silent, Option.map_none]
  -- Sorting the members has put the arguments in front of the command, which makes no difference.
  change (Server.readParams .executeCommand (some (obj members).canonical)).toOption.bind _ = _
  rw [Server.readParams, read]
  exact ofJson?_plain command (arguments.map canonical)

theorem methodKind_executeCommand :
    methodKind "workspace/executeCommand" = .question .executeCommand := by
  have document : documentQuestions.find?
      (fun q => "textDocument/" ++ q.1 == "workspace/executeCommand") = none := by
    simp [documentQuestions]
  have other : otherQuestions.lookup "workspace/executeCommand" = some .executeCommand := rfl
  have announced : "workspace/executeCommand" ∉ announcementMethods := by decide +kernel
  have extension : "workspace/executeCommand".startsWith "$/" = false := by decide +kernel
  simp [methodKind, announced, extension, questionParams?, document, other]

namespace Server

variable {m : Type → Type} [Monad m] [LawfulMonad m] (disk : Disk m) {s : Server}

/-- A running server runs the command that arrives. -/
theorem request_of_received {params : Json} {p : CommandParams} (running : s.phase = .running)
    (received : CommandParams.received? params = some p) :
    s.request disk "workspace/executeCommand" (some params) =
      (fun reply => (s, reply)) <$> s.executeCommand disk p := by
  obtain ⟨plain, read, isCommand⟩ := Option.bind_eq_some_iff.mp received
  have read' : readParams .executeCommand (some params.canonical) = .ok plain := by
    cases outcome : readParams .executeCommand (some params.canonical) with
    | error fault =>
      rw [outcome] at read
      exact nomatch read
    | ok v =>
      rw [outcome] at read
      exact congrArg Except.ok (Option.some.inj read)
  simp only [request, serve, running, methodKind_executeCommand, Option.map_some, read', answer,
    isCommand]
  exact bind_pure_comp _ _

/-- The command that writes a handler sends what this takes. -/
theorem executeCommand_insertHandler {argument : Json} {h : HandlerProposal}
    (read : HandlerProposal.ofJson? argument = some h) :
    s.executeCommand disk ⟨insertHandlerCommand, [argument]⟩ =
      (fun edit => { answer := some (.ok .null), sent := [edit] }) <$> s.insertHandler disk h := by
  simp [executeCommand, read]

end Server

/-! ### Handlers that return -/

/-- When the item is accepted, the editor sends `params`. What arrives is the command that writes
the handler `h`, and a running server writes this handler. -/
structure HandlerProposal.Returns (item params : Json) (h : HandlerProposal) : Prop where
  sent : (parse? item.render).bind CompletionItem.acceptance? = some params
  arrives : parse? params.render = some params
  read : ∃ argument, CommandParams.received? params = some ⟨insertHandlerCommand, [argument]⟩ ∧
    ofJson? argument = some h
  writes {m : Type → Type} [Monad m] [LawfulMonad m] (disk : Disk m) {s : Server}
    (running : s.phase = .running) :
    s.request disk "workspace/executeCommand" (some params) =
      (fun edit => (s, { answer := some (.ok .null), sent := [edit] })) <$> s.insertHandler disk h

/-- A proposed handler comes back as it was, with the document in which it was offered unless it had
one of its own, provided that the URI of this document is read back from its text. -/
theorem HandlerProposal.exists_returns {e : CompletionItem} {h : HandlerProposal}
    (proposes : e.handler = some h) {uri : Uri}
    (reread : Uri.parse (h.documentUri.getD uri).text = .ok (h.documentUri.getD uri)) :
    ∃ params, Returns (e.toJson uri) params
      { h with documentUri := some (h.documentUri.getD uri) } := by
  let arguments : List Json := [(h.within uri).toJson]
  let params : Json := .obj [("command", .str insertHandlerCommand), ("arguments", .arr arguments)]
  have received : CommandParams.received? params =
      some ⟨insertHandlerCommand, [(h.within uri).toJson.canonical]⟩ :=
    CommandParams.received?_obj insertHandlerCommand arguments
  -- The handler is written with the document, and read in canonical form.
  have read : ofJson? (h.within uri).toJson.canonical =
      some { h with documentUri := some (h.documentUri.getD uri) } := by
    rw [ofJson?_canonical_within, reread]
    rfl
  refine ⟨params, ?sent, ?arrives, ⟨_, received, read⟩, ?writes⟩
  case sent =>
    rw [parse?_render (e.written_toJson uri), Option.bind_some]
    exact CompletionItem.acceptance?_toJson proposes uri
  case arrives =>
    have written : (Json.arr arguments).Written :=
      .arr (List.forall_mem_singleton.mpr (h.within uri).written_toJson)
    exact parse?_render (.obj (by simp [written, Written.str]))
  case writes =>
    intro m _ _ disk s running
    rw [Server.request_of_received disk running received,
      Server.executeCommand_insertHandler disk read, Functor.map_map]

/-- A handler for the clicks on a button, with two parameters. -/
def HandlerProposal.saveClick : HandlerProposal where
  handlerName := "Save_Click"
  eventName := "Click"
  delegateType := "System.EventHandler"
  parameters := [⟨"sender", "System.Object"⟩, ⟨"e", "System.EventArgs"⟩]
  className := "Site.Default"

/-- The address `file:///site/Default.aspx`. -/
def Uri.defaultPage : Uri where
  scheme := "file"
  authority := some {}
  path := .divided ["site", "Default.aspx"]

/-- The item that offers this handler. -/
def CompletionItem.saveClick : CompletionItem where
  label := "Save_Click"
  kind := .handlerProposal
  handler := some .saveClick

/-- The handler names no document itself, so it returns with that in which it was offered. -/
theorem HandlerProposal.exists_returns_saveClick :
    CompletionItem.saveClick.handler = some saveClick ∧
      Uri.parse Uri.defaultPage.text = .ok .defaultPage ∧
      ∃ params, Returns (CompletionItem.saveClick.toJson .defaultPage) params
        { saveClick with documentUri := some .defaultPage } := by
  have reread : Uri.parse Uri.defaultPage.text = .ok .defaultPage := by decide +kernel
  exact ⟨rfl, reread, exists_returns rfl reread⟩

end WebForms
