import WebForms.Proofs.Text.DistinctNames
import WebForms.Types.Control

/-!
# The nearest members of a type

The properties and the events of a control are found in the same way: the members that its type
and the base types declare stand in one list, nearest type first, and of each name the first one
is taken. What does not count as a member, a property of no instance or an event that is not
public, is never in this list and so hides nothing. How children are read is not put together from
several types. The nearest type that says something about it decides, even if it says what is not
supported.

## Main definitions

* `MemberKind` — which members of a type count, and what is kept of each
* `MemberKind.declared` — the members that the types of a chain declare
* `MemberKind.KeepsNearest` — the members that are kept hide all others of their names
* `ContentModel.StatedOn` — the nearest type that says something about children decides
* `ControlDescriptor.Describes` — a descriptor in terms of the chain of its type

## Main results

* `ControlDescriptor.ofType_keeps_nearest` — the descriptor of a type is the one that describes it
-/

namespace WebForms

/-! ### Members along a chain -/

/-- A kind of member: those of a type that count, and what is kept of one that a type declares. -/
structure MemberKind (μ ε : Type) where
  members : TypeDefinition → List μ
  name : μ → String
  entry : TypeDefinition → μ → ε
  entryName : ε → String
  entryName_entry : ∀ u m, entryName (entry u m) = name m

namespace MemberKind

/-- Properties count unless they are static. -/
def properties (ix : TypeIndex) : MemberKind PropertyDefinition ControlProperty where
  members u := u.properties.filter (!·.isStatic)
  name := (·.name)
  entry u p :=
    { name := p.name
      typeName := p.typeName
      mode := .ofProperty p
      values := .ofType ix p.typeName
      accessibility := p.accessibility
      documentation := p.documentation
      declaringType := u.fullName }
  entryName := (·.name)
  entryName_entry _ _ := rfl

/-- Events count if they are public. -/
def events : MemberKind EventDefinition ControlEvent where
  members u := u.events.filter (·.accessibility == .isPublic)
  name := (·.name)
  entry u e :=
    { name := e.name
      delegateType := e.delegateType
      documentation := e.documentation
      declaringType := u.fullName }
  entryName := (·.name)
  entryName_entry _ _ := rfl

section

variable {μ ε : Type} {k : MemberKind μ ε} {chain : List TypeDefinition} {e : ε}

/-- What is kept of the members of a chain, one type after the other. -/
def declared (k : MemberKind μ ε) (chain : List TypeDefinition) : List ε :=
  chain.flatMap fun u => (k.members u).map (k.entry u)

theorem mem_declared_iff :
    e ∈ k.declared chain ↔ ∃ u ∈ chain, ∃ m ∈ k.members u, k.entry u m = e := by
  simp only [declared, List.mem_flatMap, List.mem_map]

theorem declared_append (k : MemberKind μ ε) (front back : List TypeDefinition) :
    k.declared (front ++ back) = k.declared front ++ k.declared back :=
  List.flatMap_append

/-- Each entry is made of a member that a type of the chain declares, their names are different, and
each member has an entry of its name, which comes from the declaring type or from a type in front of
it. -/
structure KeepsNearest (k : MemberKind μ ε) (chain : List TypeDefinition) (entries : List ε) :
    Prop where
  origin : ∀ e ∈ entries, ∃ u ∈ chain, ∃ m ∈ k.members u, k.entry u m = e
  distinct : entries.Pairwise fun e e' => Text.sameName (k.entryName e) (k.entryName e') = false
  complete : ∀ u ∈ chain, ∀ m ∈ k.members u,
    ∃ e ∈ entries, Text.sameName (k.entryName e) (k.name m) = true
  hides : ∀ front u back, chain = front ++ u :: back → ∀ m ∈ k.members u, ∀ e ∈ entries,
    Text.sameName (k.entryName e) (k.name m) = true →
      ∃ v ∈ front ++ [u], ∃ m' ∈ k.members v, k.entry v m' = e

theorem keepsNearest_distinctBy (k : MemberKind μ ε) (chain : List TypeDefinition) :
    k.KeepsNearest chain (Text.distinctBy k.entryName (k.declared chain)) where
  origin e he := mem_declared_iff.mp (Text.mem_of_mem_distinctBy he)
  distinct := Text.pairwise_distinctBy
  complete u hu m hm := by
    rw [← k.entryName_entry u m]
    exact Text.exists_mem_distinctBy (mem_declared_iff.mpr ⟨u, hu, m, hm, rfl⟩)
  hides := by
    rintro front u back rfl m hm e he same
    rw [← List.singleton_append, ← List.append_assoc, declared_append] at he
    rcases Text.mem_or_newIn_of_mem_distinctBy he with near | new
    · exact mem_declared_iff.mp (Text.mem_of_mem_distinctBy near)
    · -- An entry from further on would not be of the name of a member in front of it.
      have member : k.entry u m ∈ k.declared (front ++ [u]) :=
        mem_declared_iff.mpr ⟨u, by simp, m, hm, rfl⟩
      have apart := new _ member
      rw [k.entryName_entry, Text.sameName_comm, same] at apart
      cases apart

end

end MemberKind

/-! ### Children -/

namespace ContentModel

/-- How children are read according to the nearest type that says it; they are controls if none
does. -/
inductive StatedOn (chain : List TypeDefinition) : Except UnsupportedContent ContentModel → Prop
  | nearest {front back : List TypeDefinition} {u : TypeDefinition} {a : CustomAttribute}
      (split : chain = front ++ u :: back) (states : u.attribute? attributeType = some a)
      (silent : ∀ v ∈ front, v.attribute? attributeType = none) : StatedOn chain (ofAttribute a)
  | unstated (silent : ∀ u ∈ chain, u.attribute? attributeType = none) : StatedOn chain (.ok {})

theorem statedOn_iff {ix : TypeIndex} {t : TypeDefinition}
    {r : Except UnsupportedContent ContentModel} :
    StatedOn (ix.chain t) r ↔ r = ofType ix t := by
  constructor
  · intro stated
    cases stated with
    | nearest split states silent =>
      have found := List.findSome?_eq_some_iff.mpr ⟨_, _, _, split, states, silent⟩
      rw [ofType, found]
    | unstated silent => rw [ofType, List.findSome?_eq_none_iff.mpr silent]
  · rintro rfl
    rw [ofType]
    split
    next a found =>
      obtain ⟨front, u, back, split, states, silent⟩ := List.findSome?_eq_some_iff.mp found
      exact .nearest split states silent
    next none => exact .unstated (List.findSome?_eq_none_iff.mp none)

end ContentModel

/-! ### Descriptors -/

namespace ControlDescriptor

variable {ix : TypeIndex} {t : TypeDefinition} {d : ControlDescriptor}

/-- The descriptor has the first members of all names that the type and its base types declare, and
says of children what the nearest of these types says. -/
structure Describes (ix : TypeIndex) (t : TypeDefinition) (d : ControlDescriptor) : Prop where
  typeName : d.typeName = t.fullName
  properties : Text.FirstsOf (·.name) ((MemberKind.properties ix).declared (ix.chain t)) d.properties
  events : Text.FirstsOf (·.name) (MemberKind.events.declared (ix.chain t)) d.events
  children : ContentModel.StatedOn (ix.chain t) d.children

theorem describes_iff : Describes ix t d ↔ d = ofType ix t := by
  constructor
  · rintro ⟨typeName, properties, events, children⟩
    obtain ⟨_, _, _, _⟩ := d
    rw [ofType, mk.injEq]
    exact ⟨typeName, Text.firstsOf_iff.mp properties, Text.firstsOf_iff.mp events,
      ContentModel.statedOn_iff.mp children⟩
  · rintro rfl
    exact ⟨rfl, Text.firstsOf_distinctBy _ _, Text.firstsOf_distinctBy _ _,
      ContentModel.statedOn_iff.mpr rfl⟩

/-- The descriptor of a type is the one that describes it. Of properties and of events it has one of
each name, from the nearest type that declares it. -/
theorem ofType_keeps_nearest (ix : TypeIndex) (t : TypeDefinition) :
    (∀ d, Describes ix t d ↔ d = ofType ix t) ∧
      (MemberKind.properties ix).KeepsNearest (ix.chain t) (ofType ix t).properties ∧
      MemberKind.events.KeepsNearest (ix.chain t) (ofType ix t).events :=
  ⟨fun _ => describes_iff, MemberKind.keepsNearest_distinctBy _ _,
    MemberKind.keepsNearest_distinctBy _ _⟩

end ControlDescriptor

end WebForms
