import WebForms.Completion.Item
import WebForms.Page.Directive
import WebForms.Page.Registrations

/-!
# Completing directives

The names of the directives that a document may have, the attributes of a directive that are not
there yet, and the values of such an attribute.

## Main definitions

* `directiveItems`, `directiveAttributeItems`, `directiveValueItems` — what is offered
-/

namespace WebForms

/-- The items of the directives that a document of a kind may have. -/
def directiveItems (kind : PageKind) : List CompletionItem :=
  kind.directives.map fun name =>
    { label := name, kind := .directive, detail := some "ASP.NET directive" }

/-- The items of the attributes of a directive that are not there yet. -/
def directiveAttributeItems (directive : String) (existing : AttributeSet) : List CompletionItem :=
  ((knownAttributes directive).filter fun a => !existing.contains a.name).map fun a =>
    { label := a.name, kind := .attributeName, detail := some a.description }

/-- The item of a value. -/
def valueItem (label : String) : CompletionItem := { label, kind := .value }

/-- The values of an attribute of a directive. -/
def ValueOrigin.items (ix : TypeIndex) (registrations : Registrations) (directive : String) :
    ValueOrigin → List CompletionItem
  | text => []
  | boolean => ["true", "false"].map valueItem
  | language => ["C#", "VB"].map valueItem
  | choice values => values.map valueItem
  | tagPrefix => registrations.prefixes.map valueItem
  | inherits =>
    let base := inheritedBase directive
    (ix.derivedFrom base).map fun name =>
      { label := name, kind := .className, detail := some base }

/-- The items of the values of an attribute of a directive. -/
def directiveValueItems (directive attributeName : String) (ix : TypeIndex)
    (registrations : Registrations) : List CompletionItem :=
  match (knownAttributes directive).find? (Text.sameName ·.name attributeName) with
  | none => []
  | some a => a.source.items ix registrations directive

end WebForms
