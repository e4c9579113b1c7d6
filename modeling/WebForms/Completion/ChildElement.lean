import WebForms.Completion.Opener
import WebForms.Markup.PlainContent
import WebForms.Page.Facts
import WebForms.Page.Toolbox

/-!
# Completing element names

What may be started at a place depends on the control that governs it: the innermost element if it
is a control, else the element around that one, as for the `ItemTemplate` of a list. A control
either holds further controls, or the elements inside it are its properties; a property in turn
may be a template, which holds anything, or a collection of items.

## Main definitions

* `Surroundings` — the elements around the place
* `elementLookup`, `elementItems` — the items for a place in a page
* `unparsedItems` — the items where no page has been read
-/

namespace WebForms

/-- The item of a control. -/
def ToolboxItem.item (c : ToolboxItem) : CompletionItem :=
  { label := c.tagName
    kind := .element
    detail := some (c.type.elim "User control" TypeDefinition.fullName)
    documentation := c.type.bind (·.documentation) }

/-- The items of the plain elements that may stand inside the element `parent`. -/
def plainItems (parent : Option String) : List CompletionItem :=
  (plainChildren parent).map fun name =>
    { label := name, kind := .element, detail := some "HTML element" }

namespace Toolbox

/-- The items of all controls. -/
def controlItems (b : Toolbox) : List CompletionItem := b.controls.map ToolboxItem.item

/-- The items of the controls that derive from `base`. -/
def itemsOf (b : Toolbox) (base : String) : List CompletionItem :=
  (b.controlsOf base).map ToolboxItem.item

end Toolbox

/-- The elements around a place. -/
structure Surroundings where
  /-- The innermost open element; there is none at the root. -/
  parent : Option TagName := none
  grandparent : Option TagName := none
  deriving DecidableEq, Repr

namespace Surroundings

/-- The innermost element has a tag prefix. -/
def insideControl (s : Surroundings) : Bool := s.parent.any TagName.isPrefixed

/-- The tag of the control that governs the place. -/
def governor? (s : Surroundings) : Option TagName :=
  if s.insideControl then s.parent
  else s.grandparent.filter fun t => t.hasName && t.isPrefixed

end Surroundings

/-- The items where no page has been read: openers, the built-in controls and plain elements. -/
def unparsedItems (b : Toolbox) (version : RuntimeVersion) (scope : Surroundings) :
    List CompletionItem :=
  blockOpeners version ++
    ((b.controlsOf controlType).filter (Text.sameName ·.tagPrefix builtInPrefix)).map
      ToolboxItem.item ++
    plainItems (scope.parent.map (·.localName))

/-- The items at a place that no control governs. At the root, the content of a master page is
offered, and the markup of a user control. -/
def ungovernedItems (b : Toolbox) (version : RuntimeVersion) (facts : PageFacts) :
    Option TagName → List CompletionItem
  | some parent =>
    blockOpeners version ++ b.controlItems ++ plainItems (some parent.localName)
  | none =>
    if facts.kind = .control then
      plainItems (some "div") ++ blockOpeners version ++ b.controlItems ++ sectionOpeners
    else if facts.isContentPage then
      [{ label := "asp:Content", kind := .element
         detail := some "System.Web.UI.WebControls.Content" }]
    else []

/-- The items inside a control that holds controls. -/
def contentItems (b : Toolbox) (version : RuntimeVersion) : List CompletionItem :=
  blockOpeners version ++ b.controlItems ++ sectionOpeners ++ plainItems (some "body")

/-- The items inside a property. -/
def propertyContents (b : Toolbox) (version : RuntimeVersion) (values : ValueDomain) :
    List CompletionItem :=
  match values with
  | .template =>
    blockOpeners version ++ sectionOpeners ++ plainItems (some "body") ++ b.controlItems
  | .collection item =>
    if (b.index.find? item).any (b.index.isSubclass · controlType) then b.itemsOf item
    else b.controlItems
  | _ => b.controlItems

/-- A property that is written in the given mode may have its contents at a place: directly inside
the control only the default property, and inside an element of its own only another. -/
def PersistenceMode.admitsContents (insideControl : Bool) : PersistenceMode → Bool
  | attributeMode | encodedInnerDefaultProperty => false
  | innerDefaultProperty => insideControl
  | innerProperty => !insideControl

/-- The properties of a control that are written as elements inside it. -/
def innerPropertyItems (d : ControlDescriptor) : List CompletionItem :=
  (d.properties.filter (·.mode != .attributeMode)).map fun p =>
    { label := p.name, kind := .property, detail := some p.typeName
      documentation := p.documentation }

/-- The property whose contents stand at a place governed by a control: its default property, or
else the one that the innermost element names. -/
def ControlDescriptor.propertyAt? (d : ControlDescriptor) (scope : Surroundings) :
    Option ControlProperty :=
  d.defaultProperty?.or (scope.parent.bind (d.property? ·.localName))

/-- The items at a place governed by a control. -/
def governedItems (b : Toolbox) (version : RuntimeVersion) (scope : Surroundings)
    (d : ControlDescriptor) : List CompletionItem :=
  if !d.holdsProperties then contentItems b version
  else if scope.insideControl && d.defaultProperty?.isNone then innerPropertyItems d
  else match d.propertyAt? scope with
    | none => []
    | some p =>
      if p.mode.admitsContents scope.insideControl then propertyContents b version p.values
      else []

/-- The items for a place in a page, which depend on the control that governs it. -/
def elementLookup (b : Toolbox) (version : RuntimeVersion) (facts : PageFacts)
    (scope : Surroundings) : Lookup (List CompletionItem) :=
  .ofType? (scope.governor?.bind b.typeOf?) fun
    | none => ungovernedItems b version facts scope.parent
    | some d => governedItems b version scope d

/-- The items for a place in a page. -/
def elementItems (b : Toolbox) (version : RuntimeVersion) (facts : PageFacts)
    (scope : Surroundings) : List CompletionItem :=
  (elementLookup b version facts scope).fromIndex b.index

end WebForms
