import WebForms.Completion.Item
import WebForms.Markup.AttributeSet
import WebForms.Types.Control

/-!
# Completing attribute names

Every element may be given to the server and may have an identifier. A control has its properties
besides, those that are written as attributes, and an attribute for each of its events. What stands
in the tag already is not offered again.

## Main definitions

* `commonAttributes` — what every element may have
* `memberAttributes` — the properties and events of a control
* `attributeItems` — the items for a tag
-/

namespace WebForms

/-- The attribute that gives an element to the server, complete with its value. -/
def runatItem : CompletionItem :=
  { label := "runat=\"server\""
    kind := .attributeName
    detail := some "Required for ASP.NET controls"
    documentation := some
      ("Indicates that this tag should be able to be manipulated programmatically " ++
        "on the web server.") }

/-- The attribute that names an element. -/
def idItem : CompletionItem :=
  { label := "id"
    kind := .attributeName
    detail := some "Unique identifier"
    documentation := some
      "For a server control this is also the field name in the code-behind class." }

/-- What every element may have, as far as it is not there. -/
def commonAttributes (existing : AttributeSet) : List CompletionItem :=
  (if existing.contains "runat" then [] else [runatItem]) ++
  (if existing.contains "id" then [] else [idItem])

/-- The name of the attribute in which the handler of an event is written. -/
def eventAttribute (event : String) : String := "On" ++ event

/-- The item of a property that is written as an attribute. -/
def ControlProperty.attributeItem (p : ControlProperty) : CompletionItem :=
  { label := p.name, kind := .property, detail := some p.typeName
    documentation := p.documentation }

@[simp] theorem ControlProperty.label_attributeItem (p : ControlProperty) :
    p.attributeItem.label = p.name :=
  rfl

/-- The item of an event. -/
def ControlEvent.attributeItem (e : ControlEvent) : CompletionItem :=
  { label := eventAttribute e.name, kind := .event, detail := some e.delegateType
    documentation := e.documentation }

@[simp] theorem ControlEvent.label_attributeItem (e : ControlEvent) :
    e.attributeItem.label = eventAttribute e.name :=
  rfl

/-- The public properties of a control that are written as attributes, then its events. -/
def memberAttributes (d : ControlDescriptor) : List CompletionItem :=
  (d.properties.filter fun p => p.accessibility == .isPublic && p.mode == .attributeMode).map
    ControlProperty.attributeItem ++
  d.events.map ControlEvent.attributeItem

/-- The items for the tag `tag` with the attributes `existing`. The members of a control are
offered on a tag with a prefix, each name once; the identifier stands for itself. -/
def attributeItems (tag : TagName) (d : Option ControlDescriptor) (existing : AttributeSet) :
    List CompletionItem :=
  let common := commonAttributes existing
  match d with
  | none => common
  | some d =>
    if tag.isPrefixed then
      let further := (memberAttributes d).filter fun e =>
        !Text.sameName e.label "id" && !existing.contains e.label
      common ++ Text.distinctFrom (·.label) common further
    else common

end WebForms
