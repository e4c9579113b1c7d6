import WebForms.Code.Access
import WebForms.Code.PageClass
import WebForms.Code.Snippet
import WebForms.Completion.Item

/-!
# Members in code

Code in a page sees the members of the class that the page stands for, the fields of its elements,
and the types it can name. A chain is followed from one type to the next, each time through the
nearest declaration of the member, and the members of the type it leads to are offered.

## Main definitions

* `CodeScope` — what code in a page sees
* `CodeScope.typeOfChain?` — the type to which a chain leads
* `CodeScope.memberItems`, `CodeScope.scopeItems`, `CodeScope.itemsAt` — the items
* `CodeScope.signatureHelp?` — the methods that a call may mean
-/

namespace WebForms

/-- What code in a page sees. -/
structure CodeScope where
  language : Language
  page : PageClass
  index : TypeIndex

namespace CodeScope

/-! ### Types -/

/-- The class behind the page, or what stands for it. -/
def selfType? (s : CodeScope) : Option TypeDefinition := s.index.find? s.page.base

/-- The type that a name stands for: in the language, in full, or within an imported namespace. -/
def namedType? (s : CodeScope) (name : String) : Option TypeDefinition :=
  let name := s.language.fullTypeName name
  (s.index.find? name).or (s.page.imports.findSome? (s.index.findIn? · name))

/-- The type that a type declares for a member: of a method that is called, else of a property or a
field. -/
def declaredType? (m : AccessSegment) (t : TypeDefinition) : Option String :=
  if m.invoked then (t.methods.find? (Text.sameName ·.name m.name)).map (·.returnType)
  else
    ((t.properties.find? (Text.sameName ·.name m.name)).map (·.typeName)).or
      ((t.fields.find? (Text.sameName ·.name m.name)).map (·.typeName))

/-- The type of a member, by its nearest declaration. -/
def typeOfMember? (s : CodeScope) (t : TypeDefinition) (m : AccessSegment) :
    Option TypeDefinition :=
  ((s.index.chain t).findSome? (declaredType? m)).bind s.index.find?

/-- The word stands for the object itself. -/
def isSelf (s : CodeScope) (name : String) : Bool := Text.sameName name s.language.selfKeyword

/-- The type of the first segment of a chain: the object itself, a field of the page, a member of
the class, or a type. -/
def typeOfRoot? (s : CodeScope) (m : AccessSegment) : Option TypeDefinition :=
  if s.isSelf m.name then s.selfType?
  else match s.page.field? m.name with
    | some f => s.index.find? f.typeName
    | none => (s.selfType?.bind (s.typeOfMember? · m)).or (s.namedType? m.name)

/-- The type to which a chain leads. -/
def typeOfChain? (s : CodeScope) : List AccessSegment → Option TypeDefinition
  | [] => none
  | m :: ms => do ms.foldlM s.typeOfMember? (← s.typeOfRoot? m)

/-! ### Items -/

/-- A parameter as it is shown. -/
def parameterText (l : Language) (p : ParameterDefinition) : String :=
  l.displayName p.typeName ++ " " ++ p.name

/-- A method as it is shown. -/
def methodText (l : Language) (m : MethodDefinition) : String :=
  l.displayName m.returnType ++ " " ++ m.name ++ "(" ++
    ", ".intercalate (m.parameters.map (parameterText l)) ++ ")"

/-- The field in which an enumeration keeps its value, which code does not name. -/
def valueField : String := "value__"

/-- The items of the members that a type declares: properties, methods, fields and events, each
if it can be seen. -/
def declaredItems (l : Language) (visible : Accessibility → Bool) (t : TypeDefinition) :
    List CompletionItem :=
  ((t.properties.filter fun p => visible p.accessibility).map fun p =>
    { label := p.name, kind := .property, detail := some (l.displayName p.typeName)
      documentation := p.documentation }) ++
  ((t.methods.filter fun m => visible m.accessibility).map fun m =>
    { label := m.name, kind := .method, detail := some (methodText l m)
      documentation := m.documentation }) ++
  ((t.fields.filter fun f => visible f.accessibility && f.name != valueField).map fun f =>
    { label := f.name, kind := .field, detail := some (l.displayName f.typeName)
      documentation := f.documentation }) ++
  ((t.events.filter fun e => visible e.accessibility).map fun e =>
    { label := e.name, kind := .event, detail := some e.delegateType
      documentation := e.documentation })

/-- What is seen of a type: what is public, and from inside what is inherited too. -/
def isVisible (inside : Bool) (a : Accessibility) : Bool :=
  a == .isPublic || (inside && a.isInheritable)

/-- The items of the members of a type, each name once, by its nearest declaration. -/
def memberItems (s : CodeScope) (t : TypeDefinition) (inside : Bool) : List CompletionItem :=
  Text.distinctBy (·.label)
    ((s.index.chain t).flatMap (declaredItems s.language (isVisible inside)))

/-- The items of the fields of the page. -/
def fieldItems (s : CodeScope) : List CompletionItem :=
  s.page.fields.map fun f => { label := f.name, kind := .field, detail := some f.typeName }

/-- The items of the members of the class behind the page. -/
def selfItems (s : CodeScope) : List CompletionItem :=
  s.selfType?.elim [] (s.memberItems · true)

/-- The items where no chain has begun: fields, members of the class, and keywords. -/
def scopeItems (s : CodeScope) : List CompletionItem :=
  let fields := s.fieldItems
  fields ++ s.selfItems.filter (fun e => !fields.any (Text.sameName ·.label e.label)) ++
    s.language.keywords.map fun k => { label := k, kind := .keyword }

/-- The items at the caret of a snippet. -/
def itemsAt (s : CodeScope) (snippet : Snippet) : List CompletionItem :=
  match (accessBefore snippet.before.toList.reverse).chain with
  | [] => s.scopeItems
  | chain@(first :: rest) =>
    match s.typeOfChain? chain with
    | some t => s.memberItems t (rest.isEmpty && s.isSelf first.name)
    | none => []

end CodeScope

/-! ### Calls -/

/-- A method that a call may mean, as it is shown. -/
structure SignatureInfo where
  label : String
  documentation : Option String
  parameters : List String
  deriving DecidableEq, Repr

/-- The methods that a call may mean, which of them fits, and the parameter at the caret. -/
structure SignatureHelp where
  signatures : List SignatureInfo
  activeSignature : Nat
  activeParameter : Nat
  deriving DecidableEq, Repr

/-- A method as editors take it. -/
def SignatureInfo.toJson (i : SignatureInfo) : Json :=
  .sparse [("label", some (.str i.label)), ("documentation", i.documentation.map .str),
    ("parameters", some (.arr (i.parameters.map fun p => .obj [("label", .str p)])))]

/-- The methods as editors take them. -/
def SignatureHelp.toJson (h : SignatureHelp) : Json :=
  .obj [("signatures", .arr (h.signatures.map SignatureInfo.toJson)),
    ("activeSignature", .nat h.activeSignature), ("activeParameter", .nat h.activeParameter)]

namespace CodeScope

/-- The methods that a call may mean, nearest declarations first. -/
def overloads (s : CodeScope) (call : CallSite) : List MethodDefinition :=
  let owner := if call.target.isEmpty then s.selfType? else s.typeOfChain? call.target
  owner.elim [] fun t =>
    ((s.index.chain t).flatMap (·.methods)).filter (Text.sameName ·.name call.method)

/-- A method as it is shown for a call. -/
def signatureInfo (l : Language) (m : MethodDefinition) : SignatureInfo where
  label := methodText l m
  documentation := m.documentation
  parameters := m.parameters.map (parameterText l)

/-- The methods that the call around the caret may mean. The first one with enough parameters
fits, or else the first. -/
def signatureHelp? (s : CodeScope) (snippet : Snippet) : Option SignatureHelp := do
  let call ← openCall? snippet.before.toList.reverse
  let methods := s.overloads call
  if methods.isEmpty then none
  return {
    signatures := methods.map (signatureInfo s.language)
    activeSignature := (methods.findIdx? (call.activeParameter < ·.parameters.length)).getD 0
    activeParameter := call.activeParameter }

end CodeScope

end WebForms
