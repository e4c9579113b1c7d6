import WebForms.Proofs.Completion.HiddenMembers
import WebForms.Proofs.Types.NearestMembers

/-!
# Properties as attributes and as elements

How a property is written decides where it is offered. In a control whose contents are its
properties, and not those of one of them, each public property is offered either as an attribute
of the tag or as an element directly inside of it. The identifier is left aside: it is offered to
every element, under a label of its own.

Both lists are made from the same properties, one of a name. As attributes the properties come in
front of the events, so that an event never takes the place of one.

## Main definitions

* `ControlDescriptor.Splits` — two lists of items have the public properties of a control between
  them

## Main results

* `exists_property_mem_attributeItems` — a property that is offered as an attribute
* `offersProperty_attributeItems` — the properties that are offered as attributes
* `splits_of_holdsProperties` — the attributes of a tag and the elements inside of it have its
  public properties between them
-/

namespace WebForms

section

variable {ix : TypeIndex} {t : TypeDefinition} {p : ControlProperty} {tag : TagName}
  {c : ControlDescriptor} {existing : AttributeSet}

/-! ### Attributes -/

/-- Under the name of a property that is written as an attribute and is not there, what every
element may have is offered, or a property. -/
theorem exists_property_mem_attributeItems (prefixed : tag.isPrefixed = true) (hp : p ∈ c.properties)
    (isPublic : p.accessibility = .isPublic) (mode : p.mode = .attributeMode)
    (other : Text.sameName p.name "id" = false) (absent : existing.contains p.name = false) :
    ∃ e ∈ attributeItems tag (some c) existing, Text.sameName e.label p.name = true ∧
      (e ∈ commonAttributes existing ∨ e.kind = .property) := by
  -- The candidates are divided into properties and events, of which the former stand in front.
  obtain ⟨front, back, split, kinds, mem⟩ :
      ∃ front back, (furtherAttributes tag (some c)).filter (fun e => !existing.contains e.label) =
          front ++ back ∧ (∀ e ∈ front, e.kind = .property) ∧ p.attributeItem ∈ front := by
    rw [furtherAttributes, if_pos prefixed, Option.elim_some, memberAttributes, List.filter_append,
      List.filter_append]
    refine ⟨_, _, rfl, fun e he => ?_, ?_⟩
    · obtain ⟨q, -, rfl⟩ :=
        List.mem_map.mp (List.mem_filter.mp (List.mem_filter.mp he).1).1
      rfl
    · have shown : p.attributeItem ∈ (c.properties.filter fun p =>
          p.accessibility == .isPublic && p.mode == .attributeMode).map
            ControlProperty.attributeItem :=
        List.mem_map_of_mem (List.mem_filter.mpr ⟨hp, by simp [isPublic, mode]⟩)
      exact List.mem_filter.mpr
        ⟨List.mem_filter.mpr ⟨shown, by simpa using other⟩, by simpa using absent⟩
  obtain ⟨e, he, same⟩ := @Text.exists_mem_distinctFrom _ (·.label)
    (commonAttributes existing) front p.attributeItem mem
  rw [attributeItems_eq, split]
  obtain common | kept := List.mem_append.mp he
  · exact ⟨e, List.mem_append_left _ common, same, .inl common⟩
  · have still := (Text.distinctFrom_prefix_append _ _ front back).subset kept
    exact ⟨e, List.mem_append_right _ still, same,
      .inr (kinds e ((Text.distinctFrom_sublist _ _ _).subset kept))⟩

/-- A label that every element is offered has an equals sign in it or is that of the identifier. -/
theorem not_mem_commonAttributes {e : CompletionItem} {name : String}
    (same : Text.sameName e.label name = true) (other : Text.sameName name "id" = false)
    (plain : '=' ∉ name.toList) : e ∉ commonAttributes existing := by
  intro common
  obtain ⟨rfl, -⟩ | ⟨rfl, -⟩ := mem_commonAttributes.mp common
  · rw [Text.sameName_iff, ← String.toList_inj, Text.toList_toLower, Text.toList_toLower] at same
    have sign : '=' ∈ name.toList.map Char.toLower := same ▸ by decide +kernel
    obtain ⟨c, hc, lower⟩ := List.mem_map.mp sign
    rw [Text.toLower_eq_iff rfl] at lower
    exact plain (lower ▸ hc)
  · rw [Text.sameName_comm, show idItem.label = "id" from rfl, other] at same
    cases same

/-- As attributes those public properties are offered that are written so. -/
theorem offersProperty_attributeItems (prefixed : tag.isPrefixed = true)
    (hp : p ∈ (ControlDescriptor.ofType ix t).properties) (isPublic : p.accessibility = .isPublic)
    (other : Text.sameName p.name "id" = false) (plain : '=' ∉ p.name.toList) :
    OffersProperty (attributeItems tag (some (.ofType ix t)) {}) p.name ↔
      p.mode = .attributeMode := by
  constructor
  · rintro ⟨e, he, kind, same⟩
    obtain ⟨q, hq, ⟨-, mode⟩, rfl⟩ := exists_property_of_mem_attributeItems he kind
    rwa [← ControlDescriptor.eq_of_sameName hq hp same]
  · intro mode
    have absent : ({} : AttributeSet).contains p.name = false := rfl
    obtain ⟨e, he, same, common | property⟩ :=
      exists_property_mem_attributeItems prefixed hp isPublic mode other absent
    · exact absurd common (not_mem_commonAttributes same other plain)
    · exact ⟨e, he, property, same⟩

/-! ### Tags that name a control -/

namespace Toolbox

variable {b : Toolbox}

theorem isPrefixed_of_typeOf? (h : b.typeOf? tag = some t) : tag.isPrefixed = true := by
  obtain ⟨tagPrefix, found, -⟩ := Option.bind_eq_some_iff.mp h
  rw [TagName.isPrefixed, found, Option.isSome_some]

theorem descriptor?_of_typeOf? (h : b.typeOf? tag = some t) :
    b.descriptor? tag = some (.ofType b.index t) := by
  rw [descriptor?, subject?, h, Option.some_or, Option.map_some]

end Toolbox

/-- A tag with a prefix governs the places directly inside its element. -/
theorem Surroundings.governor?_of_isPrefixed (prefixed : tag.isPrefixed = true)
    (grandparent : Option TagName) :
    (⟨some tag, grandparent⟩ : Surroundings).insideControl = true ∧
      (⟨some tag, grandparent⟩ : Surroundings).governor? = some tag := by
  have inside : (⟨some tag, grandparent⟩ : Surroundings).insideControl = true := prefixed
  exact ⟨inside, if_pos inside⟩

end

/-! ### Attributes and elements -/

namespace ControlDescriptor

variable {b : Toolbox} {tag : TagName} {t : TypeDefinition}

/-- No property stands in both lists, and of the public properties with a plain name, other than
the identifier, those that are written as attributes stand in the first one and the rest in the
second. -/
structure Splits (d : ControlDescriptor) (attributes elements : List CompletionItem) : Prop where
  disjoint : ∀ e ∈ attributes, ∀ e' ∈ elements, e.kind = .property → e'.kind = .property →
    Text.sameName e.label e'.label = false
  attribute_iff : ∀ p ∈ d.properties, p.accessibility = .isPublic →
    Text.sameName p.name "id" = false → '=' ∉ p.name.toList →
      (OffersProperty attributes p.name ↔ p.mode = .attributeMode)
  element_iff : ∀ p ∈ d.properties, p.accessibility = .isPublic →
    Text.sameName p.name "id" = false → '=' ∉ p.name.toList →
      (OffersProperty elements p.name ↔ p.mode ≠ .attributeMode)

/-- Where the contents of a control are its properties and not those of one of them, its public
properties are divided between the attributes of its tag and the elements directly inside of it. -/
theorem splits_of_holdsProperties (named : b.typeOf? tag = some t)
    (holds : (ofType b.index t).holdsProperties = true)
    (whole : (ofType b.index t).defaultProperty? = none) (version : RuntimeVersion)
    (facts : PageFacts) (grandparent : Option TagName) :
    (ofType b.index t).Splits (attributeItems tag (b.descriptor? tag) {})
      (elementItems b version facts ⟨some tag, grandparent⟩) := by
  have prefixed := Toolbox.isPrefixed_of_typeOf? named
  obtain ⟨inside, governor⟩ := Surroundings.governor?_of_isPrefixed prefixed grandparent
  have governed : (⟨some tag, grandparent⟩ : Surroundings).governor?.bind b.typeOf? = some t := by
    rw [governor, Option.bind_some, named]
  have elements : elementItems b version facts ⟨some tag, grandparent⟩ =
      innerPropertyItems (ofType b.index t) := by
    rw [elementItems_of_governor governed]
    exact governedItems_of_direct b version holds (by simp [inside, whole])
  rw [Toolbox.descriptor?_of_typeOf? named, elements]
  refine ⟨fun e he e' he' kind _ => ?_, fun p hp isPublic other plain => ?_,
    fun p hp _ _ _ => offersProperty_innerPropertyItems hp⟩
  · obtain ⟨p, hp, ⟨-, mode⟩, rfl⟩ := exists_property_of_mem_attributeItems he kind
    obtain ⟨q, hq, rfl⟩ := List.mem_map.mp he'
    obtain ⟨mem, inner⟩ := List.mem_filter.mp hq
    by_contra same
    -- There is one property of the name, and it is written in one way.
    rw [← eq_of_sameName hp mem (by simpa using same), mode] at inner
    cases inner
  · exact offersProperty_attributeItems prefixed hp isPublic other plain

/-! ### A control with a property in either list -/

/-- A property that is written as an attribute. -/
def captionDefinition : PropertyDefinition := { name := "Caption", typeName := "System.String" }

/-- A property that is written as an element. -/
def rowsDefinition : PropertyDefinition where
  name := "Rows"
  typeName := "Kit.RowList"
  attributes := [
    { typeName := "System.Web.UI.PersistenceModeAttribute", positional := [.int 1] }]

/-- A control whose contents are its properties. -/
def cardDefinition : TypeDefinition where
  space := "Kit"
  name := "Card"
  attributes := [{ typeName := ContentModel.attributeType, positional := [.bool true] }]
  properties := [captionDefinition, rowsDefinition]

/-- The toolbox of a page that registers its namespace. -/
def cardToolbox : Toolbox := ⟨.ofList [cardDefinition], { namespaces := [⟨"c", "Kit", none⟩] }⟩

theorem typeOf?_card : cardToolbox.typeOf? ⟨some "c", "Card"⟩ = some cardDefinition := by
  have inside : cardDefinition ∈ cardToolbox.index.inNamespace "Kit" :=
    TypeIndex.mem_inNamespace.mpr ⟨TypeIndex.mem_add_self {} cardDefinition, Text.sameName_self _⟩
  have found : cardToolbox.index.findIn? "Kit" "Card" = some cardDefinition :=
    TypeIndex.findIn?_of_mem_inNamespace inside
  have unhidden : cardToolbox.userControls = [] := rfl
  have spaces : cardToolbox.registrations.namespacesOf "c" = ["Kit"] := by
    simp [Registrations.namespacesOf, cardToolbox]
  rw [Toolbox.typeOf?_of_apart (c := ⟨"c", "Card", none⟩) (by simp [unhidden]), spaces,
    List.findSome?_singleton]
  exact found

theorem chain_card : cardToolbox.index.chain cardDefinition = [cardDefinition] := rfl

theorem children_card :
    (ofType cardToolbox.index cardDefinition).children = .ok { asProperties := true } := by
  have states : cardDefinition.attribute? ContentModel.attributeType =
      some { typeName := ContentModel.attributeType, positional := [.bool true] } := by
    simp [TypeDefinition.attribute?, cardDefinition, CustomAttribute.hasType]
  have split : cardToolbox.index.chain cardDefinition = [] ++ cardDefinition :: [] := chain_card
  have stated : ContentModel.StatedOn (cardToolbox.index.chain cardDefinition)
      (.ok { asProperties := true }) :=
    .nearest split states (List.forall_mem_nil _)
  exact (ContentModel.statedOn_iff.mp stated).symm

/-- What is stated of a property decides how it is written. -/
theorem ofProperty_of_stated {p : PropertyDefinition} {a : CustomAttribute} {m : PersistenceMode}
    (stated : p.attributes.find? (·.hasType "System.Web.UI.PersistenceModeAttribute") = some a)
    (read : a.positional.head?.bind PersistenceMode.ofArgument? = some m) :
    PersistenceMode.ofProperty p = m := by
  simp only [PersistenceMode.ofProperty, stated, read, Option.getD_some]

theorem ofProperty_rows : PersistenceMode.ofProperty rowsDefinition = .innerProperty :=
  ofProperty_of_stated (List.find?_cons_of_pos (beq_self_eq_true _)) (by decide)

/-- The descriptor has both properties. -/
theorem properties_card :
    (ofType cardToolbox.index cardDefinition).properties =
      [captionDefinition, rowsDefinition].map
        ((MemberKind.properties cardToolbox.index).entry cardDefinition) := by
  have other : Text.sameName "Caption" "Rows" = false := by
    simp [Text.sameName, ← String.toList_inj, Text.toList_toLower]
  have declared : (cardToolbox.index.chain cardDefinition).flatMap
      (declaredProperties cardToolbox.index) = [captionDefinition, rowsDefinition].map
        ((MemberKind.properties cardToolbox.index).entry cardDefinition) := rfl
  have new : Text.NewIn (·.name)
      [(MemberKind.properties cardToolbox.index).entry cardDefinition captionDefinition]
      ((MemberKind.properties cardToolbox.index).entry cardDefinition rowsDefinition) := by
    intro p hp
    rw [List.mem_singleton.mp hp]
    exact other
  have kept : Text.distinctBy (·.name) ([captionDefinition, rowsDefinition].map
      ((MemberKind.properties cardToolbox.index).entry cardDefinition)) =
        [captionDefinition, rowsDefinition].map
          ((MemberKind.properties cardToolbox.index).entry cardDefinition) :=
    (Text.distinctFrom_cons_of_new (List.forall_mem_nil _) _).trans
      (congrArg _ (Text.distinctFrom_cons_of_new new []))
  exact (congrArg (Text.distinctBy (·.name)) declared).trans kept

/-- The one is offered as an attribute, the other one as an element. -/
theorem splits_of_holdsProperties_card :
    (cardToolbox.typeOf? ⟨some "c", "Card"⟩ = some cardDefinition ∧
        (ofType cardToolbox.index cardDefinition).holdsProperties = true ∧
        (ofType cardToolbox.index cardDefinition).defaultProperty? = none) ∧
      (ofType cardToolbox.index cardDefinition).Splits
        (attributeItems ⟨some "c", "Card"⟩ (cardToolbox.descriptor? ⟨some "c", "Card"⟩) {})
        (elementItems cardToolbox .v4 { kind := .page } ⟨some ⟨some "c", "Card"⟩, none⟩) ∧
      OffersProperty
        (attributeItems ⟨some "c", "Card"⟩ (cardToolbox.descriptor? ⟨some "c", "Card"⟩) {})
        captionDefinition.name ∧
      OffersProperty
        (elementItems cardToolbox .v4 { kind := .page } ⟨some ⟨some "c", "Card"⟩, none⟩)
        rowsDefinition.name := by
  have holds : (ofType cardToolbox.index cardDefinition).holdsProperties = true := by
    rw [holdsProperties, children_card]
  have whole : (ofType cardToolbox.index cardDefinition).defaultProperty? = none := by
    rw [defaultProperty?, children_card]
    rfl
  have split := splits_of_holdsProperties typeOf?_card holds whole .v4 { kind := .page } none
  have mem (p : PropertyDefinition) (hp : p ∈ [captionDefinition, rowsDefinition]) :
      (MemberKind.properties cardToolbox.index).entry cardDefinition p ∈
        (ofType cardToolbox.index cardDefinition).properties := by
    rw [properties_card]
    exact List.mem_map_of_mem hp
  refine ⟨⟨typeOf?_card, holds, whole⟩, split, ?_, ?_⟩
  · exact (split.attribute_iff _ (mem captionDefinition (by simp)) rfl (by decide +kernel)
      (by decide +kernel)).mpr rfl
  · refine (split.element_iff _ (mem rowsDefinition (by simp)) rfl (by decide +kernel)
      (by decide +kernel)).mpr ?_
    rw [show ((MemberKind.properties cardToolbox.index).entry cardDefinition rowsDefinition).mode =
      .innerProperty from ofProperty_rows]
    nofun

end ControlDescriptor

end WebForms
