import WebForms.Proofs.Completion.AttributeLists
import WebForms.Proofs.Completion.LetterCase
import WebForms.Proofs.Page.FreshNames

/-!
# Completing the attributes of events

The attribute for an event has the name of the event behind two letters of its own. Whoever picks it
from the list is helped on: behind these letters the event is found again, since a control has one
event of a name, and no property of the attribute's name comes before it.

What is offered as its value depends on the class behind the page. First come the methods of the
class that can handle the event, in their order, and then a new one under a name that is free.

## Main definitions

* `CodeBehind.Fits` — a method can be called in place of another one
* `CompletesEvent` — the items are the handlers for an event

## Main results

* `ControlDescriptor.event?_of_mem` — an event is found by its name
* `completesEvent_of_mem_attributeItems` — an event whose attribute is offered can be completed
-/

namespace WebForms

/-! ### Methods that fit -/

/-- The method can be called in place of `invoke`: it belongs to an object, and it returns and takes
the same types, however the letters of their names are written. -/
structure CodeBehind.Fits (invoke m : MethodDefinition) : Prop where
  ofObject : m.isStatic = false
  returns : Text.sameName m.returnType invoke.returnType = true
  takes : List.Forall₂ (fun s s' => Text.sameName s s' = true) m.signature invoke.signature

theorem CodeBehind.isCompatible_iff {invoke m : MethodDefinition} :
    isCompatible invoke m = true ↔ Fits invoke m := by
  have takes : m.signature.map String.toLower = invoke.signature.map String.toLower ↔
      List.Forall₂ (fun s s' => Text.sameName s s' = true) m.signature invoke.signature := by
    rw [← List.forall₂_eq_eq_eq, List.forall₂_map_left_iff, List.forall₂_map_right_iff]
    simp only [Text.sameName_iff]
  rw [isCompatible, Bool.and_eq_true, Bool.and_eq_true, Bool.not_eq_true', beq_iff_eq, takes]
  exact ⟨fun ⟨⟨o, r⟩, t⟩ => ⟨o, r, t⟩, fun ⟨o, r, t⟩ => ⟨⟨o, r⟩, t⟩⟩

instance (invoke m : MethodDefinition) : Decidable (CodeBehind.Fits invoke m) :=
  decidable_of_iff _ CodeBehind.isCompatible_iff

theorem CodeBehind.handlersFor_eq (c : CodeBehind) (invoke : MethodDefinition) :
    c.handlersFor invoke = c.type.methods.filter (Fits invoke ·) := by
  refine List.filter_congr fun m _ => ?_
  rw [Bool.eq_iff_iff, isCompatible_iff, decide_eq_true_eq]

/-! ### Handlers for an event -/

/-- The item of a method that can handle an event. -/
def MethodDefinition.handlerItem (m : MethodDefinition) : CompletionItem :=
  { label := m.name, kind := .method, detail := some "A compatible method in the CodeBehind class" }

/-- The item of a new handler. -/
def HandlerProposal.item (h : HandlerProposal) : CompletionItem :=
  { label := h.handlerName, kind := .handlerProposal
    detail := some "Create a new event handler in the CodeBehind class"
    handler := some h }

/-- The new handler is one for this event in the class `c`, under a name that is free, and takes
what `invoke` does. -/
structure HandlerProposal.Serves (h : HandlerProposal) (ix : TypeIndex) (c : CodeBehind)
    (event : ControlEvent) (invoke : MethodDefinition) : Prop where
  free : c.IsFree ix h.handlerName
  eventName : h.eventName = event.name
  delegateType : h.delegateType = event.delegateType
  parameters : h.parameters = invoke.parameters
  className : h.className = c.type.fullName

/-- The items are the methods of the class that can handle the event, in their order, and a new
handler. -/
def CompletesEvent (ix : TypeIndex) (c : CodeBehind) (event : ControlEvent)
    (invoke : MethodDefinition) (items : List CompletionItem) : Prop :=
  ∃ h : HandlerProposal, h.Serves ix c event invoke ∧
    items = (c.type.methods.filter (CodeBehind.Fits invoke ·)).map MethodDefinition.handlerItem ++
      [h.item]

section

variable {ix : TypeIndex} {t : TypeDefinition} {c : CodeBehind} {event : ControlEvent}
  {invoke : MethodDefinition} {tag : TagName} {existing : AttributeSet} {e : CompletionItem}

theorem completesEvent_handlerItems (called : ix.delegateMethod? event.delegateType = some invoke)
    (c : CodeBehind) (owner : String) :
    CompletesEvent ix c event invoke (handlerItems ix c event owner) := by
  refine ⟨newHandler ix c event invoke owner, ⟨c.isFree_freshName ix _, rfl, rfl, rfl, rfl⟩, ?_⟩
  rw [handlerItems, called, ← c.handlersFor_eq]
  rfl

/-! ### From the attribute to the event -/

/-- The attribute for an event has the name of the event behind its first letters. -/
@[simp] theorem eventName?_eventAttribute (name : String) :
    eventName? (eventAttribute name) = some name := by
  have letters : (eventAttribute name).toList = 'O' :: 'n' :: name.toList := by
    simp [eventAttribute]
  have front : Text.sameName (String.ofList ['O', 'n']) "on" = true := by
    simp [Text.sameName_iff, ← String.toList_inj, Text.toList_toLower]
  simp only [eventName?, letters, front, if_true, String.ofList_toList]

/-- An event is found by its name. -/
theorem ControlDescriptor.event?_of_mem (h : event ∈ (ofType ix t).events) :
    (ofType ix t).event? event.name = some event :=
  Text.find?_distinctBy h

/-- The value of the attribute for an event is a handler, in whatever letters it is written. -/
theorem valueItems_of_event (h : event ∈ (ControlDescriptor.ofType ix t).events) {name : String}
    (same : Text.sameName name (eventAttribute event.name) = true) (c : CodeBehind)
    (owner : String) :
    valueItems ix (.ofType ix t) (some c) name owner = handlerItems ix c event owner := by
  -- All spellings of the attribute have one form in lower case.
  rw [← valueItems_toLower, Text.sameName_iff.mp same, valueItems_toLower]
  simp only [valueItems, Option.bind_some, eventName?_eventAttribute,
    ControlDescriptor.event?_of_mem h, Option.map_some]

/-- An event whose attribute is offered can be completed. As soon as it is known how the event is
called, its attribute takes the methods of any class that can be called so, and a new one. -/
theorem completesEvent_of_mem_attributeItems
    (offered : e ∈ attributeItems tag (some (.ofType ix t)) existing) (kind : e.kind = .event) :
    ∃ event ∈ (ControlDescriptor.ofType ix t).events, event.attributeItem = e ∧
      ∀ invoke, ix.delegateMethod? event.delegateType = some invoke →
        ∀ (c : CodeBehind) (name owner : String), Text.sameName name e.label = true →
          CompletesEvent ix c event invoke
            (valueItems ix (.ofType ix t) (some c) name owner) := by
  obtain ⟨event, h, rfl⟩ := exists_event_of_mem_attributeItems offered kind
  refine ⟨event, h, rfl, fun invoke called c name owner same => ?_⟩
  rw [valueItems_of_event h same]
  exact completesEvent_handlerItems called c owner

end

/-! ### A bell at the door -/

/-- The method by which handlers of a ring are called. -/
def ringMethod : MethodDefinition :=
  { name := "Invoke", parameters := [{ name := "sender", typeName := "System.Object" }] }

/-- The type of handlers of a ring. -/
def ringHandlerDefinition : TypeDefinition where
  space := "Kit"
  name := "RingHandler"
  kind := .delegateType
  methods := [ringMethod]

/-- A control with an event. -/
def bellDefinition : TypeDefinition where
  space := "Kit"
  name := "Bell"
  events := [{ name := "Ring", delegateType := ringHandlerDefinition.fullName }]

/-- The event of the control. -/
def bellEvent : ControlEvent where
  name := "Ring"
  delegateType := ringHandlerDefinition.fullName
  documentation := none
  declaringType := bellDefinition.fullName

/-- The index of both types. -/
def bellIndex : TypeIndex := .ofList [bellDefinition, ringHandlerDefinition]

/-- A method that can handle a ring. -/
def answerMethod : MethodDefinition :=
  { name := "Answer", parameters := [{ name := "caller", typeName := "System.Object" }] }

/-- A method that cannot, under the name that a new handler would have. -/
def staticMethod : MethodDefinition := { answerMethod with name := "Bell1_Ring", isStatic := true }

/-- The class behind a page. -/
def doorClass : CodeBehind where
  type := { space := "Site", name := "Door", methods := [staticMethod, answerMethod] }
  fields := []

theorem delegateMethod?_bell :
    bellIndex.delegateMethod? bellEvent.delegateType = some ringMethod := by
  have found : bellIndex.find? ringHandlerDefinition.fullName = some ringHandlerDefinition :=
    TypeIndex.find?_eq_some_iff.mpr ⟨TypeIndex.mem_add_self _ _, Text.sameName_self _⟩
  rw [TypeIndex.delegateMethod?, show bellEvent.delegateType = ringHandlerDefinition.fullName from rfl,
    found]
  rfl

/-- The attribute for the event is offered, since no other one has its name. -/
theorem attributeItem_mem_bell :
    bellEvent.attributeItem ∈ attributeItems ⟨some "c", "Bell"⟩
      (some (.ofType bellIndex bellDefinition)) {} := by
  have lists : ListsMembers (.ofType bellIndex bellDefinition) {}
      (attributeItems ⟨some "c", "Bell"⟩ (some (.ofType bellIndex bellDefinition)) {}) :=
    listsMembers_attributeItems rfl _ _
  obtain ⟨e, he, same⟩ := lists.event bellEvent (List.mem_singleton_self _) rfl
  rw [Text.sameName_iff, ← String.toList_inj, Text.toList_toLower, Text.toList_toLower] at same
  obtain ⟨name, candidate, -⟩ := exists_of_mem_attributeItems he
  obtain (⟨-, rfl⟩ | ⟨-, rfl⟩) | ⟨further, -⟩ := mem_attributeCandidates.mp candidate
  · simp [runatItem, eventAttribute] at same
  · simp [idItem, eventAttribute] at same
  · obtain ⟨p, hp, -⟩ | ⟨v, hv, rfl⟩ := (mem_furtherAttributes rfl).mp further
    · cases hp
    · rwa [List.mem_singleton.mp hv] at he

/-- Of the two methods of the class the one that can handle a ring is offered, and a new handler. -/
theorem completesEvent_of_mem_attributeItems_bell :
    (bellEvent.attributeItem ∈ attributeItems ⟨some "c", "Bell"⟩
          (some (.ofType bellIndex bellDefinition)) {} ∧
        bellEvent.attributeItem.kind = .event) ∧
      bellIndex.delegateMethod? bellEvent.delegateType = some ringMethod ∧
      ∃ h : HandlerProposal, h.Serves bellIndex doorClass bellEvent ringMethod ∧
        h.handlerName ≠ staticMethod.name ∧
        valueItems bellIndex (.ofType bellIndex bellDefinition) (some doorClass) "onring" "Bell1" =
          [answerMethod.handlerItem, h.item] := by
  obtain ⟨event, mem, -, completes⟩ :=
    completesEvent_of_mem_attributeItems attributeItem_mem_bell rfl
  obtain rfl : event = bellEvent := List.mem_singleton.mp mem
  have same : Text.sameName "onring" bellEvent.attributeItem.label = true := by
    simp [Text.sameName_iff, ← String.toList_inj, Text.toList_toLower, eventAttribute, bellEvent]
  have fits : CodeBehind.Fits ringMethod answerMethod :=
    ⟨rfl, Text.sameName_self _, .cons (Text.sameName_self _) .nil⟩
  have static : ¬ CodeBehind.Fits ringMethod staticMethod := fun h => absurd h.ofObject (by decide)
  have methods : doorClass.type.methods.filter (CodeBehind.Fits ringMethod ·) = [answerMethod] := by
    simp [doorClass, fits, static]
  obtain ⟨h, serves, items⟩ := completes ringMethod delegateMethod?_bell doorClass _ "Bell1" same
  refine ⟨⟨attributeItem_mem_bell, rfl⟩, delegateMethod?_bell, h, serves, fun taken => ?_, ?_⟩
  · refine serves.free.members doorClass.type List.mem_cons_self (.inl ⟨staticMethod, ?_, ?_⟩)
    · exact List.mem_cons_self
    · rw [taken, Text.sameName_self]
  · rw [items, methods]
    rfl

end WebForms
