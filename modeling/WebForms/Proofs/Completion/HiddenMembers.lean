import WebForms.Proofs.Completion.AttributeLists
import WebForms.Proofs.Completion.ControlNames

/-!
# Members that are not public

The descriptor of a control has its properties whatever their accessibility. Only the names of
attributes are made from the public ones. The elements that are offered inside a control, and the
values that are offered for an attribute, are made from all of them: a property that is not public
is offered there as if it were.

## Main definitions

* `OffersProperty` — a property of that name is among the items

## Main results

* `ControlDescriptor.eq_of_sameName` — a descriptor has one property of a name at most
* `offersProperty_governedItems` — the properties that are offered as elements
* `ControlDescriptor.offersAllButName_of_not_public` — what is offered of a property that is not
  public
* `ControlDescriptor.not_withheld_protectedFlag` — a protected property whose values are offered
-/

namespace WebForms

namespace ControlDescriptor

variable {ix : TypeIndex} {t : TypeDefinition} {p q : ControlProperty}

/-- A descriptor has one property of a name at most. -/
theorem eq_of_sameName (hp : p ∈ (ofType ix t).properties) (hq : q ∈ (ofType ix t).properties)
    (same : Text.sameName p.name q.name = true) : p = q :=
  Text.eq_of_mem_distinctBy hp hq same

/-- A property is found under its name. -/
theorem property?_of_mem (hp : p ∈ (ofType ix t).properties) :
    (ofType ix t).property? p.name = some p :=
  Text.find?_distinctBy hp

end ControlDescriptor

/-- Among the items there is one for a property of that name. -/
def OffersProperty (items : List CompletionItem) (name : String) : Prop :=
  ∃ e ∈ items, e.kind = .property ∧ Text.sameName e.label name = true

section

variable {ix : TypeIndex} {t : TypeDefinition} {p : ControlProperty} {e : CompletionItem}

/-! ### Names of attributes -/

theorem not_offersProperty_attributeItems (hp : p ∈ (ControlDescriptor.ofType ix t).properties)
    (hidden : p.accessibility ≠ .isPublic) (tag : TagName) (existing : AttributeSet) :
    ¬ OffersProperty (attributeItems tag (some (.ofType ix t)) existing) p.name := by
  rintro ⟨e, he, kind, same⟩
  obtain ⟨q, hq, ⟨isPublic, -⟩, rfl⟩ := exists_property_of_mem_attributeItems he kind
  rw [ControlDescriptor.eq_of_sameName hq hp same] at isPublic
  exact hidden isPublic

/-! ### Elements -/

/-- None of the items stands for a property. -/
def NoProperties (items : List CompletionItem) : Prop := ∀ e ∈ items, e.kind ≠ .property

theorem noProperties_nil : NoProperties [] := List.forall_mem_nil _

theorem NoProperties.append {items further : List CompletionItem} (h : NoProperties items)
    (h' : NoProperties further) : NoProperties (items ++ further) :=
  List.forall_mem_append.mpr ⟨h, h'⟩

theorem NoProperties.not_offersProperty {items : List CompletionItem} (h : NoProperties items)
    (name : String) : ¬ OffersProperty items name := by
  rintro ⟨e, he, kind, -⟩
  exact h e he kind

theorem noProperties_blockOpeners (version : RuntimeVersion) :
    NoProperties (blockOpeners version) := by
  unfold blockOpeners NoProperties
  split
  · split
    · simp [openerItem]
    · simp [openerItem]
  · split
    · simp [openerItem]
    · simp [openerItem]

theorem noProperties_sectionOpeners : NoProperties sectionOpeners := by
  simp [sectionOpeners, NoProperties, openerItem]

theorem noProperties_items (controls : List ToolboxItem) :
    NoProperties (controls.map ToolboxItem.item) := by
  intro e he
  obtain ⟨c, -, rfl⟩ := List.mem_map.mp he
  nofun

theorem noProperties_plainItems (parent : Option String) : NoProperties (plainItems parent) := by
  intro e he
  obtain ⟨name, -, rfl⟩ := List.mem_map.mp he
  nofun

theorem noProperties_contentItems (b : Toolbox) (version : RuntimeVersion) :
    NoProperties (contentItems b version) :=
  (((noProperties_blockOpeners version).append (noProperties_items b.controls)).append
    noProperties_sectionOpeners).append (noProperties_plainItems _)

theorem noProperties_propertyContents (b : Toolbox) (version : RuntimeVersion)
    (values : ValueDomain) : NoProperties (propertyContents b version values) := by
  unfold propertyContents
  split
  · exact (((noProperties_blockOpeners version).append noProperties_sectionOpeners).append
      (noProperties_plainItems _)).append (noProperties_items b.controls)
  · split
    · exact noProperties_items _
    · exact noProperties_items _
  · exact noProperties_items _

/-- As an element of its own, each property is offered that is not written as an attribute. -/
theorem offersProperty_innerPropertyItems
    (hp : p ∈ (ControlDescriptor.ofType ix t).properties) :
    OffersProperty (innerPropertyItems (.ofType ix t)) p.name ↔ p.mode ≠ .attributeMode := by
  constructor
  · rintro ⟨e, he, -, same⟩
    obtain ⟨q, hq, rfl⟩ := List.mem_map.mp he
    obtain ⟨mem, inner⟩ := List.mem_filter.mp hq
    rw [← ControlDescriptor.eq_of_sameName mem hp same]
    simpa using inner
  · intro inner
    exact ⟨_, List.mem_map_of_mem (List.mem_filter.mpr ⟨hp, by simpa using inner⟩), rfl,
      Text.sameName_self _⟩

/-- Where a control governs a place but its properties are not offered, none is. -/
theorem noProperties_governedItems (b : Toolbox) (version : RuntimeVersion)
    (scope : Surroundings) (d : ControlDescriptor)
    (other : ¬ (d.holdsProperties = true ∧ (scope.insideControl && d.defaultProperty?.isNone) = true)) :
    NoProperties (governedItems b version scope d) := by
  unfold governedItems
  split_ifs with content direct
  · exact noProperties_contentItems b version
  · exact absurd ⟨by simpa using content, direct⟩ other
  · split
    · exact noProperties_nil
    · split
      · exact noProperties_propertyContents b version _
      · exact noProperties_nil

/-- Directly inside a control whose contents are its properties, and not those of one of them, its
properties are offered. -/
theorem governedItems_of_direct (b : Toolbox) (version : RuntimeVersion) {scope : Surroundings}
    {d : ControlDescriptor} (holds : d.holdsProperties = true)
    (direct : (scope.insideControl && d.defaultProperty?.isNone) = true) :
    governedItems b version scope d = innerPropertyItems d := by
  rw [governedItems, if_neg (by simp [holds]), if_pos direct]

/-- Properties are offered as elements directly inside a control whose contents are its properties,
unless one of them has all the contents. -/
theorem offersProperty_governedItems (b : Toolbox) (version : RuntimeVersion)
    (scope : Surroundings) (hp : p ∈ (ControlDescriptor.ofType ix t).properties) :
    OffersProperty (governedItems b version scope (.ofType ix t)) p.name ↔
      (ControlDescriptor.ofType ix t).holdsProperties = true ∧ scope.insideControl = true ∧
        (ControlDescriptor.ofType ix t).defaultProperty? = none ∧ p.mode ≠ .attributeMode := by
  have inner := offersProperty_innerPropertyItems hp
  generalize ControlDescriptor.ofType ix t = d at inner ⊢
  by_cases direct : d.holdsProperties = true ∧
      (scope.insideControl && d.defaultProperty?.isNone) = true
  · -- The branch for properties is the only one that lists them.
    have listed := governedItems_of_direct b version direct.1 direct.2
    rw [Bool.and_eq_true, Option.isNone_iff_eq_none] at direct
    rw [listed, inner]
    simp only [direct, true_and]
  · refine iff_of_false ?_ ?_
    · exact (noProperties_governedItems b version scope d direct).not_offersProperty _
    · rintro ⟨holds, inside, whole, -⟩
      exact direct ⟨holds, by simp [inside, whole]⟩

/-- The items at a place that a control governs are made with its descriptor. -/
theorem elementItems_of_governor {b : Toolbox} {scope : Surroundings}
    (governed : scope.governor?.bind b.typeOf? = some t) (version : RuntimeVersion)
    (facts : PageFacts) :
    elementItems b version facts scope = governedItems b version scope (.ofType b.index t) := by
  rw [elementItems, elementLookup, governed, Lookup.fromIndex_ofType?, Option.map_some]

/-! ### Values -/

/-- The values for the attribute of a property are those of the property, unless the attribute is
that of an event. -/
theorem valueItems_of_mem (hp : p ∈ (ControlDescriptor.ofType ix t).properties)
    (noEvent : (eventName? p.name).bind (ControlDescriptor.ofType ix t).event? = none)
    (codeBehind : Option CodeBehind) (owner : String) :
    valueItems ix (.ofType ix t) codeBehind p.name owner = propertyValues p := by
  have found := ControlDescriptor.property?_of_mem hp
  generalize ControlDescriptor.ofType ix t = d at noEvent found ⊢
  have unhandled : (codeBehind.bind fun c =>
      ((eventName? p.name).bind d.event?).map fun e => (c, e)) = none := by
    rw [noEvent]
    cases codeBehind <;> rfl
  simp only [valueItems, unhandled, found, Option.elim_some]

end

namespace ControlDescriptor

variable {ix : TypeIndex} {t : TypeDefinition} {p : ControlProperty}

/-- Of a property of the type, all is offered but its name as that of an attribute: the property
as an element of its own, directly inside a control whose contents are its properties and not
those of one of them, and its values. -/
structure OffersAllButName (ix : TypeIndex) (t : TypeDefinition) (p : ControlProperty) : Prop where
  attributes : ∀ tag existing,
    ¬ OffersProperty (attributeItems tag (some (.ofType ix t)) existing) p.name
  elements : ∀ registrations version facts scope,
    scope.governor?.bind (⟨ix, registrations⟩ : Toolbox).typeOf? = some t →
      (OffersProperty (elementItems ⟨ix, registrations⟩ version facts scope) p.name ↔
        (ofType ix t).holdsProperties = true ∧ scope.insideControl = true ∧
          (ofType ix t).defaultProperty? = none ∧ p.mode ≠ .attributeMode)
  values : ∀ codeBehind owner,
    (eventName? p.name).bind (ofType ix t).event? = none →
      valueItems ix (.ofType ix t) codeBehind p.name owner = propertyValues p

/-- The names of attributes are the only place where a property that is not public is left out. -/
theorem offersAllButName_of_not_public (hp : p ∈ (ofType ix t).properties)
    (hidden : p.accessibility ≠ .isPublic) : OffersAllButName ix t p where
  attributes := not_offersProperty_attributeItems hp hidden
  elements := by
    intro registrations version facts scope governed
    rw [elementItems_of_governor governed]
    exact offersProperty_governedItems _ version scope hp
  values := fun codeBehind owner noEvent => valueItems_of_mem hp noEvent codeBehind owner

/-! ### A protected member of the type of controls -/

/-- Nothing is offered of the property on tags of the type, inside them, or as a value. -/
structure Withheld (ix : TypeIndex) (t : TypeDefinition) (p : ControlProperty) : Prop where
  attributes : ∀ tag existing,
    ¬ OffersProperty (attributeItems tag (some (.ofType ix t)) existing) p.name
  elements : ∀ registrations version facts scope,
    scope.governor?.bind (⟨ix, registrations⟩ : Toolbox).typeOf? = some t →
      ¬ OffersProperty (elementItems ⟨ix, registrations⟩ version facts scope) p.name
  values : ∀ codeBehind owner,
    (eventName? p.name).bind (ofType ix t).event? = none →
      valueItems ix (.ofType ix t) codeBehind p.name owner = []

/-- The type of controls, with a truth value that only classes can read. -/
def protectedControl : TypeDefinition where
  space := "System.Web.UI"
  name := "Control"
  properties := [
    { name := "ChildControlsCreated", typeName := "System.Boolean", accessibility := .isProtected }]

/-- The index of this type. -/
def protectedIndex : TypeIndex := .ofList [protectedControl]

/-- The truth value in its descriptor. -/
def protectedFlag : ControlProperty where
  name := "ChildControlsCreated"
  typeName := "System.Boolean"
  mode := .attributeMode
  values := .boolean
  accessibility := .isProtected
  documentation := none
  declaringType := "System.Web.UI.Control"

theorem properties_protectedControl :
    (ofType protectedIndex protectedControl).properties = [protectedFlag] := by
  have values : ValueDomain.ofType protectedIndex "System.Boolean" = .boolean := by
    simp [ValueDomain.ofType]
  have named : protectedControl.fullName = "System.Web.UI.Control" := by decide +kernel
  have chain : protectedIndex.chain protectedControl = [protectedControl] := rfl
  have declared : declaredProperties protectedIndex protectedControl = [protectedFlag] := by
    rw [declaredProperties, named]
    simp [protectedControl, values, protectedFlag, PersistenceMode.ofProperty]
  simp only [ofType, chain, List.flatMap_singleton, declared]
  rfl

theorem mem_properties_protectedControl :
    protectedFlag ∈ (ofType protectedIndex protectedControl).properties := by
  rw [properties_protectedControl]
  exact List.mem_singleton_self _

/-- The protected member is one of which all is offered but its name. -/
theorem offersAllButName_protectedFlag :
    (protectedFlag ∈ (ofType protectedIndex protectedControl).properties ∧
        protectedFlag.accessibility ≠ .isPublic) ∧
      OffersAllButName protectedIndex protectedControl protectedFlag := by
  have hidden : protectedFlag.accessibility ≠ .isPublic := by decide
  exact ⟨⟨mem_properties_protectedControl, hidden⟩,
    offersAllButName_of_not_public mem_properties_protectedControl hidden⟩

/-- Its values are offered, although it is protected. -/
theorem not_withheld_protectedFlag : ¬ Withheld protectedIndex protectedControl protectedFlag := by
  intro h
  have unnamed : eventName? protectedFlag.name = none := by decide +kernel
  have noEvent : (eventName? protectedFlag.name).bind
      (ofType protectedIndex protectedControl).event? = none := by
    rw [unnamed, Option.bind_none]
  have withheld := h.values none "Control" noEvent
  rw [valueItems_of_mem mem_properties_protectedControl noEvent] at withheld
  cases withheld

end ControlDescriptor

end WebForms
