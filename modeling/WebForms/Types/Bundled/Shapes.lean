import WebForms.Types.Definition

/-!
# Shapes of the bundled definitions

Short forms for the members and custom attributes that make up most of the bundled types.
-/

namespace WebForms.Bundled

/-- A public instance property without further marks. -/
def property (name typeName : String) : PropertyDefinition := { name, typeName }

/-- A public event without documentation. -/
def event (name delegateType : String) : EventDefinition := { name, delegateType }

/-- The fields of an enumeration: its value and its members. -/
def members (typeName : String) (names : List String) : List FieldDefinition :=
  { name := "value__", typeName := "System.Int32" } ::
    names.map fun name => { name, typeName, isStatic := true }

/-- The custom attribute that says how the elements inside a control are read. -/
def parseChildren (positional : List AttributeArgument) : CustomAttribute :=
  { typeName := "System.Web.UI.ParseChildrenAttribute", positional }

/-- The custom attribute that says how a property is written. -/
def persistence (mode : String) : CustomAttribute :=
  { typeName := "System.Web.UI.PersistenceModeAttribute", positional := [.enum mode] }

/-- A template that is written as an element of its own and whose contents stand in a container of
the given type. -/
def template (name container : String) : PropertyDefinition where
  name := name
  typeName := "System.Web.UI.ITemplate"
  attributes := [
    persistence "PersistenceMode.InnerProperty",
    { typeName := "System.Web.UI.TemplateContainerAttribute", positional := [.type container] }]

/-- The method of a delegate that handles events with arguments of the given type. -/
def handling (argumentsType : String) : MethodDefinition where
  name := "Invoke"
  parameters := [⟨"sender", "System.Object"⟩, ⟨"e", argumentsType⟩]

end WebForms.Bundled
