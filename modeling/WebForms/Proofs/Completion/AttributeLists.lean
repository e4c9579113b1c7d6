import WebForms.Proofs.Completion.AttributeNames
import WebForms.Proofs.Text.DistinctNames

/-!
# What the list of attributes contains

What every element may have stands in front, and behind it, on a tag with a prefix, the members of
the control in their order: public properties that are written as attributes, then events.
Whatever is there is left out, and so is a member whose name stands in the list already.

The comparison with the list looks at labels. All labels in it are different, but one of them is
not the name of its attribute: the attribute that gives an element to the server is offered
together with its value. A property of its name is therefore offered besides, and so one attribute
is offered twice.

## Main definitions

* `CompletionItem.ownName` — the name under which an item is compared with what is there
* `ListsCommon`, `ListsMembers` — the items are exactly those for a tag
* `OffersOnce` — the items stand for different attributes
* `Clash` — two attributes that a tag may have differ in their labels alone

## Main results

* `attributeItems_exact` — the items that are offered are exactly those for the tag
* `attributeItems_onceUnlessClash` — each attribute is offered once unless two of them clash
* `not_offersOnce_runat` — a property that clashes with the attribute for the server
-/

namespace WebForms

/-! ### Names of items -/

namespace CompletionItem

variable {e : CompletionItem}

/-- The name under which an item is compared with what is there. What every element may have can be
offered with a value; the label of a member is its name. -/
def ownName (e : CompletionItem) : String :=
  if e.kind = .attributeName then e.attributeName else e.label

/-- A label without an equals sign is the name of an attribute. -/
theorem attributeName_eq_label (plain : '=' ∉ e.label.toList) : e.attributeName = e.label := by
  have whole : e.label.toList.takeWhile (fun c => !(c == '=')) = e.label.toList := by
    refine List.takeWhile_eq_self_iff.mpr fun c hc => ?_
    have other : c ≠ '=' := fun sign => plain (sign ▸ hc)
    simpa using other
  rw [attributeName, Text.firstSegment, whole, String.ofList_toList]

end CompletionItem

theorem attributeName_runatItem : runatItem.attributeName = "runat" := by decide +kernel

theorem attributeName_idItem : idItem.attributeName = "id" := by decide +kernel

/-- Whether an attribute is there does not depend on the case of letters. -/
theorem AttributeSet.contains_congr {a : AttributeSet} {name name' : String}
    (same : Text.sameName name name' = true) : a.contains name = a.contains name' := by
  simp only [contains, get?, Text.sameName, Text.sameName_iff.mp same]

section

variable {tag : TagName} {d : Option ControlDescriptor} {c : ControlDescriptor}
  {existing : AttributeSet} {e : CompletionItem} {name : String}

/-! ### Members of a control -/

theorem mem_memberAttributes :
    e ∈ memberAttributes c ↔
      (∃ p ∈ c.properties, (p.accessibility = .isPublic ∧ p.mode = .attributeMode) ∧
        p.attributeItem = e) ∨
      ∃ v ∈ c.events, v.attributeItem = e := by
  simp only [memberAttributes, List.mem_append, List.mem_map, List.mem_filter, Bool.and_eq_true,
    beq_iff_eq, and_assoc]

/-- The name of the attribute for an event is not that of the identifier. -/
theorem sameName_eventAttribute_id (event : String) :
    Text.sameName (eventAttribute event) "id" = false := by
  rw [← Bool.not_eq_true, Text.sameName_iff, ← String.toList_inj]
  simp [eventAttribute, Text.toList_toLower]

theorem mem_furtherAttributes (prefixed : tag.isPrefixed = true) :
    e ∈ furtherAttributes tag (some c) ↔
      (∃ p ∈ c.properties, (p.accessibility = .isPublic ∧ p.mode = .attributeMode) ∧
        Text.sameName p.name "id" = false ∧ p.attributeItem = e) ∨
      ∃ v ∈ c.events, v.attributeItem = e := by
  rw [furtherAttributes, if_pos prefixed, Option.elim_some, List.mem_filter, mem_memberAttributes]
  constructor
  · rintro ⟨⟨p, hp, shown, rfl⟩ | event, other⟩
    · exact .inl ⟨p, hp, shown, by simpa using other, rfl⟩
    · exact .inr event
  · rintro (⟨p, hp, shown, other, rfl⟩ | ⟨v, hv, rfl⟩)
    · exact ⟨.inl ⟨p, hp, shown, rfl⟩, by simpa using other⟩
    · exact ⟨.inr ⟨v, hv, rfl⟩, by simpa using sameName_eventAttribute_id v.name⟩

/-- The members of a control are no attributes of every element. -/
theorem kind_ne_of_mem_furtherAttributes (h : e ∈ furtherAttributes tag d) :
    e.kind ≠ .attributeName := by
  unfold furtherAttributes at h
  obtain ⟨member, -⟩ := List.mem_filter.mp h
  split at member
  · cases d with
    | none => cases member
    | some c =>
      obtain ⟨p, -, -, rfl⟩ | ⟨v, -, rfl⟩ := mem_memberAttributes.mp member
      · nofun
      · nofun
  · cases member

/-- A candidate is compared under its name. -/
theorem ownName_of_mem_attributeCandidates (h : (name, e) ∈ attributeCandidates tag d) :
    e.ownName = name := by
  obtain (⟨rfl, rfl⟩ | ⟨rfl, rfl⟩) | ⟨member, rfl⟩ := mem_attributeCandidates.mp h
  · exact (if_pos rfl).trans attributeName_runatItem
  · exact (if_pos rfl).trans attributeName_idItem
  · exact if_neg (kind_ne_of_mem_furtherAttributes member)

/-- What is offered besides what every element may have is a member of the control. -/
theorem mem_memberAttributes_of_mem_attributeItems
    (h : e ∈ attributeItems tag (some c) existing) (kind : e.kind ≠ .attributeName) :
    e ∈ memberAttributes c := by
  obtain ⟨name, candidate, -⟩ := exists_of_mem_attributeItems h
  obtain (⟨-, rfl⟩ | ⟨-, rfl⟩) | ⟨further, -⟩ := mem_attributeCandidates.mp candidate
  · exact absurd rfl kind
  · exact absurd rfl kind
  · unfold furtherAttributes at further
    split at further
    · exact (List.mem_filter.mp further).1
    · cases further

/-- A property that is offered is public and written as an attribute. -/
theorem exists_property_of_mem_attributeItems (h : e ∈ attributeItems tag (some c) existing)
    (kind : e.kind = .property) :
    ∃ p ∈ c.properties, (p.accessibility = .isPublic ∧ p.mode = .attributeMode) ∧
      p.attributeItem = e := by
  have member := mem_memberAttributes_of_mem_attributeItems h (by simp [kind])
  obtain property | ⟨v, -, rfl⟩ := mem_memberAttributes.mp member
  · exact property
  · cases kind

/-- An event that is offered is one of the control. -/
theorem exists_event_of_mem_attributeItems (h : e ∈ attributeItems tag (some c) existing)
    (kind : e.kind = .event) : ∃ v ∈ c.events, v.attributeItem = e := by
  have member := mem_memberAttributes_of_mem_attributeItems h (by simp [kind])
  obtain ⟨p, -, -, rfl⟩ | event := mem_memberAttributes.mp member
  · cases kind
  · exact event

/-! ### The list in its parts -/

/-- The items are those of what every element may have, as far as it is not there. -/
structure ListsCommon (existing : AttributeSet) (items : List CompletionItem) : Prop where
  sublist : items.Sublist [runatItem, idItem]
  runat_iff : runatItem ∈ items ↔ existing.contains "runat" = false
  id_iff : idItem ∈ items ↔ existing.contains "id" = false

/-- The items are those of what every element may have, then of properties and of events of the
control, in their order. Nothing is among them that is there, and nothing is missing that the
control has, however the letters of its name are written. -/
structure ListsMembers (c : ControlDescriptor) (existing : AttributeSet)
    (items : List CompletionItem) : Prop where
  parts : ∃ (common : List CompletionItem) (properties : List ControlProperty)
      (events : List ControlEvent),
    items = common ++ properties.map ControlProperty.attributeItem ++
        events.map ControlEvent.attributeItem ∧
      ListsCommon existing common ∧
      (properties.Sublist c.properties ∧
        ∀ p ∈ properties, p.accessibility = .isPublic ∧ p.mode = .attributeMode) ∧
      events.Sublist c.events
  absent : ∀ e ∈ items, existing.contains e.ownName = false
  property : ∀ p ∈ c.properties, p.accessibility = .isPublic → p.mode = .attributeMode →
    Text.sameName p.name "id" = false → existing.contains p.name = false →
      ∃ e ∈ items, Text.sameName e.label p.name = true
  event : ∀ v ∈ c.events, existing.contains (eventAttribute v.name) = false →
    ∃ e ∈ items, Text.sameName e.label (eventAttribute v.name) = true

theorem listsCommon_commonAttributes (existing : AttributeSet) :
    ListsCommon existing (commonAttributes existing) where
  sublist := by
    have runat : (if existing.contains "runat" then [] else [runatItem]).Sublist [runatItem] := by
      split <;> simp
    have id : (if existing.contains "id" then [] else [idItem]).Sublist [idItem] := by
      split <;> simp
    exact runat.append id
  runat_iff := by simp [mem_commonAttributes, runatItem, idItem]
  id_iff := by simp [mem_commonAttributes, runatItem, idItem]

/-- A tag without a prefix has what every element may have. -/
theorem attributeItems_of_not_prefixed (plain : ¬ tag.isPrefixed = true)
    (d : Option ControlDescriptor) (existing : AttributeSet) :
    attributeItems tag d existing = commonAttributes existing := by
  simp [attributeItems_eq, furtherAttributes, plain, Text.distinctFrom]

/-- What is kept of the members of a control is in two parts itself. -/
theorem exists_parts_of_sublist {items : List CompletionItem}
    (kept : items.Sublist (memberAttributes c)) :
    ∃ (properties : List ControlProperty) (events : List ControlEvent),
      items = properties.map ControlProperty.attributeItem ++
          events.map ControlEvent.attributeItem ∧
        (properties.Sublist c.properties ∧
          ∀ p ∈ properties, p.accessibility = .isPublic ∧ p.mode = .attributeMode) ∧
        events.Sublist c.events := by
  obtain ⟨front, back, split, front_sub, back_sub⟩ := List.sublist_append_iff.mp kept
  obtain ⟨properties, properties_sub, rfl⟩ := List.sublist_map_iff.mp front_sub
  obtain ⟨events, events_sub, rfl⟩ := List.sublist_map_iff.mp back_sub
  refine ⟨properties, events, split, ⟨properties_sub.trans List.filter_sublist, fun p hp => ?_⟩,
    events_sub⟩
  simpa using (List.mem_filter.mp (properties_sub.subset hp)).2

theorem listsMembers_attributeItems (prefixed : tag.isPrefixed = true) (c : ControlDescriptor)
    (existing : AttributeSet) :
    ListsMembers c existing (attributeItems tag (some c) existing) where
  parts := by
    have kept : (Text.distinctFrom (·.label) (commonAttributes existing)
        ((furtherAttributes tag (some c)).filter fun e => !existing.contains e.label)).Sublist
          (memberAttributes c) := by
      refine (Text.distinctFrom_sublist _ _ _).trans (List.filter_sublist.trans ?_)
      rw [furtherAttributes, if_pos prefixed, Option.elim_some]
      exact List.filter_sublist
    obtain ⟨properties, events, split, shown, sub⟩ := exists_parts_of_sublist kept
    refine ⟨_, properties, events, ?_, listsCommon_commonAttributes existing, shown, sub⟩
    rw [attributeItems_eq, split, List.append_assoc]
  absent e he := by
    obtain ⟨name, candidate, absent⟩ := exists_of_mem_attributeItems he
    rwa [ownName_of_mem_attributeCandidates candidate]
  property p hp isPublic mode other absent := by
    have member : p.attributeItem ∈ furtherAttributes tag (some c) :=
      (mem_furtherAttributes prefixed).mpr (.inl ⟨p, hp, ⟨isPublic, mode⟩, other, rfl⟩)
    exact exists_mem_attributeItems (mem_attributeCandidates.mpr (.inr ⟨member, rfl⟩)) absent
  event v hv absent := by
    have member : v.attributeItem ∈ furtherAttributes tag (some c) :=
      (mem_furtherAttributes prefixed).mpr (.inr ⟨v, hv, rfl⟩)
    exact exists_mem_attributeItems (mem_attributeCandidates.mpr (.inr ⟨member, rfl⟩)) absent

/-- On a tag with a prefix the list has exactly the members of the control that are not there,
behind what every element may have; without a prefix it has nothing else, whatever is known of the
control. -/
theorem attributeItems_exact (tag : TagName) (c : ControlDescriptor) (existing : AttributeSet) :
    if tag.isPrefixed then ListsMembers c existing (attributeItems tag (some c) existing)
    else ∀ d, ListsCommon existing (attributeItems tag d existing) := by
  split
  next prefixed => exact listsMembers_attributeItems prefixed c existing
  next plain =>
    intro d
    rw [attributeItems_of_not_prefixed plain]
    exact listsCommon_commonAttributes existing

end

/-! ### One item for each attribute -/

/-- The items stand for different attributes. -/
def OffersOnce (items : List CompletionItem) : Prop :=
  items.Pairwise fun e e' => Text.sameName e.attributeName e'.attributeName = false

instance (items : List CompletionItem) : Decidable (OffersOnce items) :=
  inferInstanceAs (Decidable (items.Pairwise _))

/-- Two attributes that the tag may have and that are not there differ in their labels, but not in
their names. -/
def Clash (tag : TagName) (d : Option ControlDescriptor) (existing : AttributeSet) : Prop :=
  ∃ k ∈ attributeCandidates tag d, ∃ k' ∈ attributeCandidates tag d,
    (existing.contains k.1 = false ∧ existing.contains k'.1 = false) ∧
      Text.sameName k.2.label k'.2.label = false ∧
      Text.sameName k.2.attributeName k'.2.attributeName = true

section

variable {tag : TagName} {d : Option ControlDescriptor} {existing : AttributeSet}
  {e : CompletionItem} {name : String}

theorem pairwise_label_commonAttributes (existing : AttributeSet) :
    (commonAttributes existing).Pairwise fun e e' => Text.sameName e.label e'.label = false := by
  have both : [runatItem, idItem].Pairwise
      fun e e' => Text.sameName e.label e'.label = false := by decide +kernel
  exact both.sublist (listsCommon_commonAttributes existing).sublist

/-- All labels are different. -/
theorem pairwise_label_attributeItems (tag : TagName) (d : Option ControlDescriptor)
    (existing : AttributeSet) :
    (attributeItems tag d existing).Pairwise
      fun e e' => Text.sameName e.label e'.label = false := by
  rw [attributeItems_eq, List.pairwise_append]
  exact ⟨pairwise_label_commonAttributes existing, Text.pairwise_distinctFrom,
    fun e he e' he' => Text.newIn_of_mem_distinctFrom he' e he⟩

theorem offersOnce_iff_not_clash :
    OffersOnce (attributeItems tag d existing) ↔ ¬ Clash tag d existing := by
  constructor
  · rintro once ⟨⟨name, e⟩, he, ⟨name', e'⟩, he', ⟨absent, absent'⟩, labels, names⟩
    -- For each of the two an item with its label is offered.
    obtain ⟨f, hf, same⟩ := exists_mem_attributeItems he absent
    obtain ⟨f', hf', same'⟩ := exists_mem_attributeItems he' absent'
    have apart : f ≠ f' := by
      rintro rfl
      rw [Text.sameName_iff] at same same'
      rw [Text.sameName, ← same, same', beq_self_eq_true] at labels
      cases labels
    have symmetric : Std.Symm fun e e' : CompletionItem =>
        Text.sameName e.attributeName e'.attributeName = false :=
      ⟨fun e e' h => (Text.sameName_comm e'.attributeName e.attributeName).trans h⟩
    have different : Text.sameName f.attributeName f'.attributeName = false :=
      once.forall hf hf' apart
    have named := Text.sameName_iff.mp (sameName_attributeName same)
    have named' := Text.sameName_iff.mp (sameName_attributeName same')
    rw [Text.sameName, named, named', ← Text.sameName, names] at different
    cases different
  · intro noClash
    refine (pairwise_label_attributeItems tag d existing).imp_of_mem fun he he' labels => ?_
    by_contra same
    obtain ⟨name, candidate, absent⟩ := exists_of_mem_attributeItems he
    obtain ⟨name', candidate', absent'⟩ := exists_of_mem_attributeItems he'
    exact noClash ⟨_, candidate, _, candidate', ⟨absent, absent'⟩, labels, by simpa using same⟩

/-- Only the label of the attribute for the server is not the name of a candidate. -/
theorem runat_or_label_of_mem_attributeCandidates (h : (name, e) ∈ attributeCandidates tag d) :
    name = "runat" ∧ e = runatItem ∨ e.label = name := by
  obtain (runat | ⟨rfl, rfl⟩) | ⟨-, rfl⟩ := mem_attributeCandidates.mp h
  · exact .inl runat
  · exact .inr rfl
  · exact .inr rfl

theorem attributeName_of_mem_attributeCandidates
    (plain : ∀ e ∈ furtherAttributes tag d, '=' ∉ e.label.toList)
    (h : (name, e) ∈ attributeCandidates tag d) : e.attributeName = name := by
  obtain (⟨rfl, rfl⟩ | ⟨rfl, rfl⟩) | ⟨member, rfl⟩ := mem_attributeCandidates.mp h
  · exact attributeName_runatItem
  · exact attributeName_idItem
  · exact CompletionItem.attributeName_eq_label (plain e member)

/-- What clashes with the attribute for the server is a member of its name. -/
theorem mem_furtherAttributes_of_sameName_runat (h : (name, e) ∈ attributeCandidates tag d)
    (label : e.label = name) (same : Text.sameName name "runat" = true) :
    e ∈ furtherAttributes tag d := by
  obtain (⟨rfl, rfl⟩ | ⟨rfl, rfl⟩) | ⟨member, -⟩ := mem_attributeCandidates.mp h
  · exact absurd label (by decide +kernel)
  · exact absurd same (by decide +kernel)
  · exact member

/-- If no label of a member has an equals sign in it, it takes a member of the name of the attribute
for the server to clash. -/
theorem clash_iff_of_plain (plain : ∀ e ∈ furtherAttributes tag d, '=' ∉ e.label.toList) :
    Clash tag d existing ↔
      existing.contains "runat" = false ∧
        ∃ e ∈ furtherAttributes tag d, Text.sameName e.label "runat" = true := by
  constructor
  · rintro ⟨⟨name, e⟩, he, ⟨name', e'⟩, he', ⟨absent, absent'⟩, labels, names⟩
    have named := attributeName_of_mem_attributeCandidates plain he
    have named' := attributeName_of_mem_attributeCandidates plain he'
    simp only [named, named'] at absent absent' labels names
    obtain ⟨rfl, rfl⟩ | label := runat_or_label_of_mem_attributeCandidates he
    · obtain ⟨rfl, rfl⟩ | label' := runat_or_label_of_mem_attributeCandidates he'
      · rw [Text.sameName_self] at labels
        cases labels
      · rw [Text.sameName_comm] at names
        exact ⟨absent, e', mem_furtherAttributes_of_sameName_runat he' label' names,
          label' ▸ names⟩
    · obtain ⟨rfl, rfl⟩ | label' := runat_or_label_of_mem_attributeCandidates he'
      · exact ⟨absent', e, mem_furtherAttributes_of_sameName_runat he label names, label ▸ names⟩
      · rw [label, label', names] at labels
        cases labels
  · rintro ⟨absent, e, member, same⟩
    have candidate : (e.label, e) ∈ attributeCandidates tag d :=
      mem_attributeCandidates.mpr (.inr ⟨member, rfl⟩)
    have named := attributeName_of_mem_attributeCandidates plain candidate
    refine ⟨("runat", runatItem), mem_attributeCandidates.mpr (.inl (.inl ⟨rfl, rfl⟩)),
      (e.label, e), candidate, ⟨absent, ?_⟩, ?_, ?_⟩
    · rw [AttributeSet.contains_congr same, absent]
    · rw [Text.sameName, Text.sameName_iff.mp same]
      decide +kernel
    · rw [attributeName_runatItem, named, Text.sameName_comm, same]

end

/-- How often the attributes of a tag are offered. -/
structure OnceUnlessClash (tag : TagName) (d : Option ControlDescriptor)
    (existing : AttributeSet) : Prop where
  labels : (attributeItems tag d existing).Pairwise
    fun e e' => Text.sameName e.label e'.label = false
  once_iff : OffersOnce (attributeItems tag d existing) ↔ ¬ Clash tag d existing
  clash_iff : (∀ e ∈ furtherAttributes tag d, '=' ∉ e.label.toList) →
    (Clash tag d existing ↔ existing.contains "runat" = false ∧
      ∃ e ∈ furtherAttributes tag d, Text.sameName e.label "runat" = true)

/-- Each label is offered once, and each attribute unless two clash: of members whose names have no
equals sign in them, only one that has the name of the attribute for the server is offered besides
another item for its attribute. -/
theorem attributeItems_onceUnlessClash (tag : TagName) (d : Option ControlDescriptor)
    (existing : AttributeSet) : OnceUnlessClash tag d existing where
  labels := pairwise_label_attributeItems tag d existing
  once_iff := offersOnce_iff_not_clash
  clash_iff := clash_iff_of_plain

/-! ### A property of the name of an attribute that every element may have -/

/-- A property of the name of the attribute for the server. -/
def runatProperty : ControlProperty where
  name := "Runat"
  typeName := "System.String"
  mode := .attributeMode
  values := .other
  accessibility := .isPublic
  documentation := none
  declaringType := "Kit.Grid"

/-- A control with no other member. -/
def runatDescriptor : ControlDescriptor where
  typeName := "Kit.Grid"
  properties := [runatProperty]
  events := []
  children := .ok {}

/-- Its tag may have the property. -/
theorem mem_furtherAttributes_runatDescriptor {e : CompletionItem} :
    e ∈ furtherAttributes ⟨some "c", "Grid"⟩ (some runatDescriptor) ↔
      e = runatProperty.attributeItem := by
  have other : Text.sameName runatProperty.name "id" = false := by decide +kernel
  rw [mem_furtherAttributes rfl]
  constructor
  · rintro (⟨p, hp, -, -, rfl⟩ | ⟨v, hv, -⟩)
    · rw [List.mem_singleton.mp hp]
    · cases hv
  · rintro rfl
    exact .inl ⟨runatProperty, List.mem_singleton_self _, ⟨rfl, rfl⟩, other, rfl⟩

/-- The attribute for the server is offered twice on it, with a value and without. -/
theorem not_offersOnce_runat :
    ¬ OffersOnce (attributeItems ⟨some "c", "Grid"⟩ (some runatDescriptor) {}) := by
  have plain : '=' ∉ runatProperty.attributeItem.label.toList := by decide +kernel
  have same : Text.sameName runatProperty.attributeItem.label "runat" = true := by
    simp [runatProperty, Text.sameName_iff, ← String.toList_inj, Text.toList_toLower]
  refine fun once => offersOnce_iff_not_clash.mp once ((clash_iff_of_plain ?_).mpr ⟨rfl, ?_⟩)
  · intro e member
    rwa [mem_furtherAttributes_runatDescriptor.mp member]
  · exact ⟨_, mem_furtherAttributes_runatDescriptor.mpr rfl, same⟩

end WebForms
