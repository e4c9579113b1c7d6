import WebForms.Page.Registrations
import WebForms.Types.Catalog

/-!
# Toolboxes

The toolbox of a page holds the controls that its tags can name: those of the namespaces for which
its prefixes stand, and the user controls that it registers one by one.

## Main definitions

* `Toolbox.resolve` — the control type that a tag names
* `Toolbox.subject?`, `Toolbox.descriptor?` — that type or the general control, and its descriptor
* `Toolbox.controls` — all controls with the tags that name them
-/

namespace WebForms

/-- The types that are known and the prefixes that a page registers. -/
structure Toolbox where
  index : TypeIndex
  registrations : Registrations

/-- A tag names no control type. -/
structure ControlNotFound where
  tag : TagName
  deriving DecidableEq, Repr

/-- What is said of a tag that names no control type. -/
def ControlNotFound.message (e : ControlNotFound) : String :=
  "no control type registered for <" ++ e.tag.qualified ++ ">"

/-- A control that a tag of the page can name. -/
structure ToolboxItem where
  tagPrefix : String
  name : String
  /-- The type of the control; that of a user control is not known from its registration. -/
  type : Option TypeDefinition := none
  deriving DecidableEq, Repr

/-- The name of the tag. -/
def ToolboxItem.tagName (c : ToolboxItem) : String := c.tagPrefix ++ ":" ++ c.name

namespace Toolbox

/-- The type whose members are offered where the type of a control is not known. -/
def generalControlType : String := "System.Web.UI.WebControls.WebControl"

/-- The type of user controls. -/
def userControlType : String := "System.Web.UI.UserControl"

/-- The class of a user control: the first type of its class name, if that is a control, else the
type of user controls. -/
def userControlClass? (b : Toolbox) (u : RegisteredUserControl) : Option TypeDefinition :=
  let named := b.index.types.find? (Text.sameName ·.name u.className)
  (named.filter (b.index.isSubclass · controlType)).or (b.index.find? userControlType)

/-- The control type that a tag names. A registered user control comes before the namespaces of
its prefix. -/
def typeOf? (b : Toolbox) (tag : TagName) : Option TypeDefinition := do
  let tagPrefix ← tag.tagPrefix
  match b.registrations.userControl? tagPrefix tag.localName with
  | some u => b.userControlClass? u
  | none =>
    (b.registrations.namespacesOf tagPrefix).findSome? (b.index.findIn? · tag.localName)

/-- The control type that a tag names, or the news that there is none. -/
def resolve (b : Toolbox) (tag : TagName) : Except ControlNotFound TypeDefinition :=
  match b.typeOf? tag with
  | some t => .ok t
  | none => .error ⟨tag⟩

/-- The type of controls of which nothing else is known. -/
def generalControl? (b : Toolbox) : Option TypeDefinition := b.index.find? generalControlType

/-- The control whose members are offered on a tag: the one that it names, or else the general
control. -/
def subject? (b : Toolbox) (tag : TagName) : Option TypeDefinition :=
  (b.typeOf? tag).or b.generalControl?

/-- The descriptor of the control that a tag names, or else of the general control. -/
def descriptor? (b : Toolbox) (tag : TagName) : Option ControlDescriptor :=
  (b.subject? tag).map (ControlDescriptor.ofType b.index)

/-- The concrete controls of a namespace that derive from `base`. -/
def controlsIn (b : Toolbox) (base : String) (r : RegisteredNamespace) :
    List ToolboxItem :=
  ((b.index.inNamespace r.space).filter fun t => !t.isAbstract && b.index.isSubclass t base).map
    fun t => { tagPrefix := r.tagPrefix, name := t.name, type := some t }

/-- The user controls that are registered one by one. -/
def userControls (b : Toolbox) : List ToolboxItem :=
  b.registrations.userControls.map fun u => { tagPrefix := u.tagPrefix, name := u.name }

/-- All controls of the page. -/
def controls (b : Toolbox) : List ToolboxItem :=
  b.registrations.namespaces.flatMap (b.controlsIn controlType) ++ b.userControls

/-- The controls that are known to derive from `base`. -/
def controlsOf (b : Toolbox) (base : String) : List ToolboxItem :=
  b.registrations.namespaces.flatMap (b.controlsIn base)

end Toolbox

end WebForms
