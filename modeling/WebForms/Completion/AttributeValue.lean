import WebForms.Completion.AttributeName
import WebForms.Types.NamedColor
import WebForms.Page.CodeBehind

/-!
# Completing attribute values

An event attribute takes the name of a method of the class behind the page: those that fit are
offered, and after them a new one under a name that is free. Any other attribute takes the values
of its property, when the property is written as an attribute and its values can be listed.

## Main definitions

* `eventName?` — the event that an attribute may stand for
* `handlerItems` — the handlers for an event
* `propertyValues` — the values of a property
* `valueItems` — the items for an attribute of a control
-/

namespace WebForms

/-- The name behind the letters `On`, in any case, with which an event attribute begins. -/
def eventName? (attributeName : String) : Option String :=
  match attributeName.toList with
  | a :: b :: rest =>
    if Text.sameName (String.ofList [a, b]) "on" then some (String.ofList rest) else none
  | _ => none

/-- The method by which the delegate of that name is called. -/
def TypeIndex.delegateMethod? (ix : TypeIndex) (delegateType : String) : Option MethodDefinition :=
  (ix.find? delegateType).bind TypeDefinition.delegateMethod?

/-- A new handler for an event that is called as `invoke` is. -/
def newHandler (ix : TypeIndex) (c : CodeBehind) (event : ControlEvent)
    (invoke : MethodDefinition) (owner : String) : HandlerProposal where
  handlerName := c.freshName ix (owner ++ "_" ++ event.name)
  eventName := event.name
  delegateType := event.delegateType
  parameters := invoke.parameters
  className := c.type.fullName

/-- The methods that can handle an event, and a new handler, named for its owner. -/
def handlerItems (ix : TypeIndex) (c : CodeBehind) (event : ControlEvent) (owner : String) :
    List CompletionItem :=
  match ix.delegateMethod? event.delegateType with
  | none => []
  | some invoke =>
    let h := newHandler ix c event invoke owner
    ((c.handlersFor invoke).map fun m =>
      { label := m.name, kind := .method
        detail := some "A compatible method in the CodeBehind class" }) ++
    [{ label := h.handlerName, kind := .handlerProposal
       detail := some "Create a new event handler in the CodeBehind class"
       handler := some h }]

/-- The items of the named colors. -/
def colorItems : List CompletionItem :=
  namedColors.map fun (name, parts) => { label := name, kind := .color, detail := some parts }

/-- The two truth values. -/
def truthValues : List CompletionItem :=
  [{ label := "true", kind := .value }, { label := "false", kind := .value }]

/-- The values of a property, when it is written as an attribute. -/
def propertyValues (p : ControlProperty) : List CompletionItem :=
  match p.mode, p.values with
  | .attributeMode, .boolean => truthValues
  | .attributeMode, .color => colorItems
  | .attributeMode, .enum members =>
    members.map fun m => { label := m, kind := .enumMember, detail := some p.typeName }
  | _, _ => []

/-- The values for the attribute `name` of a control whose handlers are named for `owner`. -/
def valueItems (ix : TypeIndex) (d : ControlDescriptor) (codeBehind : Option CodeBehind)
    (name owner : String) : List CompletionItem :=
  let event := codeBehind.bind fun c => ((eventName? name).bind d.event?).map fun e => (c, e)
  match event with
  | some (c, e) => handlerItems ix c e owner
  | none => (d.property? name).elim [] propertyValues

end WebForms
