import WebForms.Markup.TagName
import WebForms.Types.Index

/-!
# Control descriptors

What completion needs to know of a control type: its properties and events, nearest declaration
first and each name once, how each property is written in markup, what values it takes, and
whether the elements inside a control of this type are its properties.

## Main definitions

* `PersistenceMode.ofProperty` — how a property is written in markup
* `ValueDomain.ofType` — what values a property of a type takes
* `ContentModel.ofType` — how the elements inside a control are read
* `ControlDescriptor.ofType` — the descriptor of a control type
-/

namespace WebForms

/-- The type of controls. -/
def controlType : String := "System.Web.UI.Control"

/-! ### Persistence -/

/-- How a property is written in markup. -/
inductive PersistenceMode where
  | attributeMode
  | innerProperty
  | innerDefaultProperty
  | encodedInnerDefaultProperty
  deriving DecidableEq, Repr

namespace PersistenceMode

/-- The mode of that number. -/
def ofInt? (n : Int) : Option PersistenceMode :=
  if n = 0 then some attributeMode
  else if n = 1 then some innerProperty
  else if n = 2 then some innerDefaultProperty
  else if n = 3 then some encodedInnerDefaultProperty
  else none

/-- The mode of that name. -/
def ofName? : String → Option PersistenceMode
  | "Attribute" => some attributeMode
  | "InnerProperty" => some innerProperty
  | "InnerDefaultProperty" => some innerDefaultProperty
  | "EncodedInnerDefaultProperty" => some encodedInnerDefaultProperty
  | _ => none

/-- The mode that an argument names. -/
def ofArgument? : AttributeArgument → Option PersistenceMode
  | .int n => ofInt? n.toInt
  | a => a.enumMember?.bind ofName?

/-- The mode that the custom attributes of a property give it. A stated mode wins, and one that
cannot be read counts as the attribute mode; a template is written inside. -/
def ofProperty (p : PropertyDefinition) : PersistenceMode :=
  match p.attributes.find? (·.hasType "System.Web.UI.PersistenceModeAttribute") with
  | some a => (a.positional.head?.bind ofArgument?).getD attributeMode
  | none =>
    if p.attributes.any (·.hasType "System.Web.UI.TemplateContainerAttribute") then innerProperty
    else attributeMode

end PersistenceMode

/-! ### Values -/

/-- The values that a property takes. -/
inductive ValueDomain where
  | boolean
  | color
  | enum (members : List String)
  | template
  /-- A type with an `Add` method of one parameter. -/
  | collection (itemType : String)
  | other
  deriving DecidableEq, Repr

/-- The type of the parameter of the nearest `Add` method with one parameter. -/
def itemType? (chain : List TypeDefinition) : Option String :=
  (chain.flatMap (·.methodsCalled "Add")).findSome? fun m =>
    match m.parameters with
    | [p] => some p.typeName
    | _ => none

/-- The values that a property of the named type takes. -/
def ValueDomain.ofType (ix : TypeIndex) (typeName : String) : ValueDomain :=
  if Text.sameName typeName "System.Boolean" then boolean
  else if Text.sameName typeName "System.Drawing.Color" then color
  else if Text.sameName typeName "System.Web.UI.ITemplate" then template
  else match ix.find? typeName with
    | none => other
    | some t =>
      if t.kind = .enumType then enum t.enumMembers
      else match itemType? (ix.chain t) with
        | some item => collection item
        | none => other

/-! ### Children -/

/-- A way of reading children that is stated in an attribute and not supported. -/
inductive UnsupportedContent where
  /-- The children are controls of the type given as the first argument. -/
  | ofType (typeName : String)
  /-- The children are controls of a type given by name. -/
  | ofNamedType
  deriving DecidableEq, Repr

/-- What is not supported, in words. -/
def UnsupportedContent.feature : UnsupportedContent → String
  | ofType typeName => "ParseChildrenAttribute with child control type " ++ typeName
  | ofNamedType => "ParseChildrenAttribute.ChildControlType"

/-- What is said of a way of reading children that is not supported. -/
def UnsupportedContent.message (u : UnsupportedContent) : String :=
  "unsupported feature: " ++ u.feature

/-- How the elements inside a control are read. -/
structure ContentModel where
  /-- They are properties of the control, not controls. -/
  asProperties : Bool := false
  /-- The property to which the contents belong. -/
  defaultProperty : Option String := none
  deriving DecidableEq, Repr

namespace ContentModel

/-- The type of the custom attribute that says how children are read. -/
def attributeType : String := "System.Web.UI.ParseChildrenAttribute"

/-- The positional arguments: whether children are properties, and the default property. -/
def ofPositional (arguments : List AttributeArgument) :
    Except UnsupportedContent ContentModel :=
  let defaultProperty := arguments[1]?.bind (·.string?)
  match arguments.head? with
  | some (.bool asProperties) => .ok { asProperties, defaultProperty }
  | some (.type name) => .error (.ofType name)
  | _ => .ok { defaultProperty }

/-- What the custom attribute states; named arguments win over positional ones. -/
def ofAttribute (a : CustomAttribute) : Except UnsupportedContent ContentModel := do
  let p ← ofPositional a.positional
  if (a.named.get? "ChildControlType").isSome then throw .ofNamedType
  return {
    asProperties := ((a.named.get? "ChildrenAsProperties").bind (·.bool?)).getD p.asProperties
    defaultProperty := ((a.named.get? "DefaultProperty").bind (·.string?)).or p.defaultProperty }

/-- What the nearest type states that states anything; otherwise children are controls. -/
def ofType (ix : TypeIndex) (t : TypeDefinition) : Except UnsupportedContent ContentModel :=
  match (ix.chain t).findSome? (·.attribute? attributeType) with
  | some a => ofAttribute a
  | none => .ok {}

end ContentModel

/-! ### Descriptors -/

/-- A property of a control. -/
structure ControlProperty where
  name : String
  typeName : String
  mode : PersistenceMode
  values : ValueDomain
  accessibility : Accessibility
  documentation : Option String
  declaringType : String
  deriving DecidableEq, Repr

/-- An event of a control. -/
structure ControlEvent where
  name : String
  delegateType : String
  documentation : Option String
  declaringType : String
  deriving DecidableEq, Repr

/-- A control type as completion sees it. -/
structure ControlDescriptor where
  typeName : String
  properties : List ControlProperty
  events : List ControlEvent
  children : Except UnsupportedContent ContentModel

namespace ControlDescriptor

/-- The instance properties that a type declares. -/
def declaredProperties (ix : TypeIndex) (t : TypeDefinition) : List ControlProperty :=
  (t.properties.filter (!·.isStatic)).map fun p =>
    { name := p.name
      typeName := p.typeName
      mode := .ofProperty p
      values := .ofType ix p.typeName
      accessibility := p.accessibility
      documentation := p.documentation
      declaringType := t.fullName }

/-- The public events that a type declares. -/
def declaredEvents (t : TypeDefinition) : List ControlEvent :=
  (t.events.filter (·.accessibility == .isPublic)).map fun e =>
    { name := e.name
      delegateType := e.delegateType
      documentation := e.documentation
      declaringType := t.fullName }

/-- The descriptor of a control type. -/
def ofType (ix : TypeIndex) (t : TypeDefinition) : ControlDescriptor where
  typeName := t.fullName
  properties := Text.distinctBy (·.name) ((ix.chain t).flatMap (declaredProperties ix))
  events := Text.distinctBy (·.name) ((ix.chain t).flatMap declaredEvents)
  children := ContentModel.ofType ix t

/-- The property of that name. -/
def property? (d : ControlDescriptor) (name : String) : Option ControlProperty :=
  d.properties.find? (Text.sameName ·.name name)

/-- The event of that name. -/
def event? (d : ControlDescriptor) (name : String) : Option ControlEvent :=
  d.events.find? (Text.sameName ·.name name)

/-- The elements inside are properties; what is not supported counts as no. -/
def holdsProperties (d : ControlDescriptor) : Bool :=
  match d.children with
  | .ok c => c.asProperties
  | .error _ => false

/-- The property to which the contents belong. -/
def defaultProperty? (d : ControlDescriptor) : Option ControlProperty :=
  match d.children with
  | .ok c => c.defaultProperty.bind d.property?
  | .error _ => none

end ControlDescriptor

end WebForms
