import WebForms.Page.Facts
import WebForms.Page.Toolbox

/-!
# The class behind a page

A page may name a class from which it inherits. To the members of that class and its base types
come the fields that the page itself gives rise to: one for every element that runs at the server
and has an identifier.

## Main definitions

* `PageField`, `pageFields` — the fields that a page gives rise to
* `CodeBehind.find?` — the class that a page names
* `CodeBehind.freshName` — a name that no member has
* `CodeBehind.handlersFor` — the methods that can handle an event
-/

namespace WebForms

/-- A field for an element of the page. -/
structure PageField where
  name : String
  typeName : String
  deriving DecidableEq, Repr

/-- The type of the object for an element: the control that its tag names, and for plain markup the
object for a form or for any other element. -/
def elementType (b : Toolbox) (tag : TagName) : String :=
  if tag.isPrefixed then (b.typeOf? tag).elim Toolbox.generalControlType TypeDefinition.fullName
  else if Text.sameName tag.localName "form" then "System.Web.UI.HtmlControls.HtmlForm"
  else "System.Web.UI.HtmlControls.HtmlGenericControl"

/-- The field for an element, if it runs at the server and has an identifier. -/
def pageField? (b : Toolbox) (t : Tag) : Option PageField :=
  if t.runsAtServer then
    t.id?.map fun id => { name := id, typeName := elementType b t.name }
  else none

/-- The fields for the elements of a page, in their order; of several elements with one identifier
the first counts. -/
def pageFields (b : Toolbox) (root : Node) : List PageField :=
  Text.distinctBy (·.name) (root.tags.filterMap (pageField? b))

/-- The names of all members of a type. -/
def TypeDefinition.memberNames (t : TypeDefinition) : List String :=
  t.methods.map (·.name) ++ t.properties.map (·.name) ++ t.fields.map (·.name) ++
    t.events.map (·.name)

/-- The class behind a page, with the fields that the page adds. -/
structure CodeBehind where
  type : TypeDefinition
  fields : List PageField
  deriving DecidableEq, Repr

namespace CodeBehind

/-- The class that the page names, if it is known. -/
def find? (b : Toolbox) (facts : PageFacts) (root : Node) : Option CodeBehind := do
  return { type := ← b.index.find? (← facts.inherits), fields := pageFields b root }

/-- The names in use: those of all members of the class and its base types, and of the fields. -/
def takenNames (c : CodeBehind) (ix : TypeIndex) : List String :=
  (ix.chain c.type).flatMap TypeDefinition.memberNames ++ c.fields.map (·.name)

/-- A member or field has the name, whatever its letter case. -/
def isTaken (c : CodeBehind) (ix : TypeIndex) (name : String) : Bool :=
  (c.takenNames ix).any (Text.sameName · name)

/-- The first name that is free among `base` with the suffixes `n`, `n + 1` and so on. -/
def freshFrom (taken : List String) (base : String) : Nat → Nat → String
  | 0, n => base ++ toString n
  | tries + 1, n =>
    let name := base ++ toString n
    if taken.any (Text.sameName · name) then freshFrom taken base tries (n + 1) else name

/-- The name `base` if it is free, else with the least suffix, counted from one, that makes it so.
One suffix more than there are names is enough to try. -/
def freshName (c : CodeBehind) (ix : TypeIndex) (base : String) : String :=
  let taken := c.takenNames ix
  if taken.any (Text.sameName · base) then freshFrom taken base taken.length 1 else base

/-- The method returns and takes what `invoke` does. -/
def isCompatible (invoke m : MethodDefinition) : Bool :=
  !m.isStatic && Text.sameName m.returnType invoke.returnType &&
    m.signature.map String.toLower == invoke.signature.map String.toLower

/-- The methods of the class itself that can be called in place of `invoke`. -/
def handlersFor (c : CodeBehind) (invoke : MethodDefinition) : List MethodDefinition :=
  c.type.methods.filter (isCompatible invoke)

end CodeBehind

end WebForms
