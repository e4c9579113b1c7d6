import WebForms.Markup.Node
import WebForms.Text.Split

/-!
# Registered tag prefixes

A tag prefix stands for namespaces of controls and for single user controls. The prefix `asp` is
registered from the start; `Register` directives add to it.

## Main definitions

* `RegisteredNamespace`, `RegisteredUserControl` — what one directive registers
* `Registrations.ofTree` — all that a page registers
* `Registrations.namespacesOf`, `Registrations.userControl?`, `Registrations.prefixes`
-/

namespace WebForms

/-- The prefix that is registered from the start. -/
def builtInPrefix : String := "asp"

/-- The namespace of the controls with the built-in prefix. -/
def builtInNamespace : String := "System.Web.UI.WebControls"

/-- A prefix that stands for the controls of a namespace. -/
structure RegisteredNamespace where
  tagPrefix : String
  space : String
  assembly : Option String := none
  deriving DecidableEq, Repr

/-- A prefixed name that stands for the control in a file. -/
structure RegisteredUserControl where
  tagPrefix : String
  name : String
  source : String
  deriving DecidableEq, Repr

/-- The name of the file up to its first dot, which by convention is the name of its class. -/
def RegisteredUserControl.className (r : RegisteredUserControl) : String :=
  Text.firstSegment (· == '.') (Text.lastSegment (fun c => c == '/' || c == '\\') r.source)

/-- The registrations of a page, in the order in which they are made. -/
structure Registrations where
  namespaces : List RegisteredNamespace :=
    [{ tagPrefix := builtInPrefix, space := builtInNamespace }]
  userControls : List RegisteredUserControl := []
  deriving DecidableEq, Repr

namespace Registrations

/-- Adds what a `Register` directive states: a user control when it gives a tag name and a source,
else a namespace. Without a prefix it states nothing. -/
def register (r : Registrations) (d : Directive) : Registrations :=
  match (d.attributes.get? "TagPrefix").bind Text.trimmed? with
  | none => r
  | some tagPrefix =>
    match d.attributes.get? "TagName", d.attributes.get? "Src" with
    | some name, some source =>
      { r with
        userControls := r.userControls ++ [⟨tagPrefix, Text.trim name, Text.trim source⟩] }
    | _, _ =>
      match d.attributes.get? "Namespace" with
      | some space =>
        let assembly := (d.attributes.get? "Assembly").map Text.trim
        { r with namespaces := r.namespaces ++ [⟨tagPrefix, Text.trim space, assembly⟩] }
      | none => r

/-- The registrations of a parsed page. -/
def ofTree (root : Node) : Registrations :=
  (root.directives.filter (Text.sameName ·.name "Register")).foldl register {}

/-- The namespaces for which a prefix stands. -/
def namespacesOf (r : Registrations) (tagPrefix : String) : List String :=
  (r.namespaces.filter (Text.sameName ·.tagPrefix tagPrefix)).map (·.space)

/-- The user control that is registered under a prefix and a name. -/
def userControl? (r : Registrations) (tagPrefix name : String) :
    Option RegisteredUserControl :=
  r.userControls.find? fun u => Text.sameName u.tagPrefix tagPrefix && Text.sameName u.name name

/-- The registered prefixes, each once, as first written. -/
def prefixes (r : Registrations) : List String :=
  Text.distinctBy id (r.namespaces.map (·.tagPrefix) ++ r.userControls.map (·.tagPrefix))

end Registrations

end WebForms
