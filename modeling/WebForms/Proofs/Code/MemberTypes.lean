import WebForms.Proofs.Code.VisibleMembers
import WebForms.Proofs.Types.Merging

/-!
# Members that are offered and members that are followed

Behind a dot the members of a type are offered, each with its type, and when the name of one of
them and a further dot have been written, the chain is followed to the type of that member. What
is offered and what is followed is looked for in the same row of members, but by different rules.
Only a member that is seen is offered, of whatever kind it is. A chain is followed through the
first property or field of the name, whether it is seen or not.

So a private property of a type, which hides nothing from outside, takes the place of the public
one that is offered from a base type. This is the only way in which the two can differ: if no
property or field that is not seen stands in front of the one that is offered, then both rules
find the same member.

## Main definitions

* `Member.valueType?` — the type of a property or a field
* `CodeScope.LeadsAsOffered` — the members that are offered are followed to the types they are
  shown with
* `CodeScope.Obscures` — a member that is not seen stands in front of one that is offered

## Main results

* `typeOfMember?_eq` — a chain is followed through the first property or field of the name
* `CodeScope.leadsAsOffered_iff` — when members are followed as they are offered
-/

namespace WebForms

namespace Member

/-- The type of a property or a field. -/
def valueType? : Member → Option String
  | property p => some p.typeName
  | field f => some f.typeName
  | _ => none

/-- The member is a property or a field. -/
def HasValue (m : Member) : Prop := m.valueType?.isSome = true

instance : DecidablePred HasValue := fun _ => inferInstanceAs (Decidable (_ = _))

/-- The type of the member, if it is a property or a field of that name. -/
def typeUnder? (name : String) (m : Member) : Option String :=
  if Text.sameName m.name name then m.valueType? else none

theorem hasValue_iff {m : Member} : m.HasValue ↔ m.kind = .property ∨ m.kind = .field := by
  cases m <;> simp [HasValue, valueType?, kind]

end Member

section

variable {name : String} {m h : Member} {s : CodeScope} {t : TypeDefinition} {inside : Bool}

/-! ### Following a chain -/

/-- The search for a name among members of one kind is a search for the type of a member. -/
theorem findSome?_typeUnder? {μ : Type} (make : μ → Member) {memberName typeName : μ → String}
    (named : ∀ a, (make a).name = memberName a)
    (typed : ∀ a, (make a).valueType? = some (typeName a)) (name : String) (declared : List μ) :
    (declared.map make).findSome? (Member.typeUnder? name) =
      (declared.find? fun a => Text.sameName (memberName a) name).map typeName := by
  rw [List.find?_eq_findSome?_guard, List.map_findSome?, List.findSome?_map]
  congr 1
  funext a
  by_cases same : Text.sameName (memberName a) name = true
  · simp [Member.typeUnder?, named, typed, same, Option.guard]
  · simp [Member.typeUnder?, named, same, Option.guard]

/-- Members of other kinds are passed over. -/
theorem findSome?_typeUnder?_eq_none {μ : Type} (make : μ → Member)
    (untyped : ∀ a, (make a).valueType? = none) (name : String) (declared : List μ) :
    (declared.map make).findSome? (Member.typeUnder? name) = none := by
  rw [List.findSome?_eq_none_iff]
  intro m hm
  obtain ⟨a, -, rfl⟩ := List.mem_map.mp hm
  rw [Member.typeUnder?, untyped, ite_self]

/-- The type that a type declares for a name is that of its first property or field of the name. -/
theorem declaredType?_eq (name : String) (t : TypeDefinition) :
    CodeScope.declaredType? ⟨name, false⟩ t = t.members.findSome? (Member.typeUnder? name) := by
  have properties := findSome?_typeUnder? .property (fun _ => rfl) (fun _ => rfl) name t.properties
  have methods := findSome?_typeUnder?_eq_none .method (fun _ => rfl) name t.methods
  have fields := findSome?_typeUnder? .field (fun _ => rfl) (fun _ => rfl) name t.fields
  have events := findSome?_typeUnder?_eq_none .event (fun _ => rfl) name t.events
  rw [TypeDefinition.members, List.findSome?_append, List.findSome?_append, List.findSome?_append,
    properties, methods, fields, events, Option.or_none, Option.or_none]
  rfl

/-- The types of a chain are gone through as the row of their members is. -/
theorem findSome?_declaredType? (name : String) (chain : List TypeDefinition) :
    chain.findSome? (CodeScope.declaredType? ⟨name, false⟩) =
      (membersAlong chain).findSome? (Member.typeUnder? name) := by
  induction chain with
  | nil => rfl
  | cons t chain ih =>
    rw [membersAlong, List.flatMap_cons, List.findSome?_append, ← declaredType?_eq,
      ← membersAlong, ← ih, List.findSome?_cons]
    cases CodeScope.declaredType? ⟨name, false⟩ t <;> rfl

/-- A chain is followed through the first property or field of the name. -/
theorem typeOfMember?_eq
    (first : FirstNamed Member.HasValue name (membersAlong (s.index.chain t)) m) :
    s.typeOfMember? t ⟨name, false⟩ = m.valueType?.bind s.index.find? := by
  obtain ⟨front, back, split, hasValue, named, none⟩ := first
  obtain ⟨typeName, typed⟩ := Option.isSome_iff_exists.mp hasValue
  have found : (membersAlong (s.index.chain t)).findSome? (Member.typeUnder? name) =
      some typeName := by
    refine List.findSome?_eq_some_iff.mpr ⟨front, m, back, split, ?_, fun m' hm' => ?_⟩
    · rw [Member.typeUnder?, if_pos named, typed]
    · -- A member in front is of another name, or it is a method or an event.
      by_cases hasValue' : m'.HasValue
      · rw [Member.typeUnder?, if_neg (by simp [none m' hm' hasValue'])]
      · rw [Member.typeUnder?, Option.not_isSome_iff_eq_none.mp hasValue', ite_self]
  rw [CodeScope.typeOfMember?, findSome?_declaredType?, found, typed]

/-! ### Offering and following -/

/-- Each property and field that is offered is followed to the type that it is offered with, or to
nothing if there is no such type in the index. -/
def CodeScope.LeadsAsOffered (s : CodeScope) (t : TypeDefinition) (inside : Bool) : Prop :=
  ∀ e ∈ s.memberItems t inside, e.kind = .property ∨ e.kind = .field →
    ∃ m typeName, m.item s.language = e ∧
      FirstNamed (Member.IsSeen inside) e.label (membersAlong (s.index.chain t)) m ∧
      m.valueType? = some typeName ∧
      s.typeOfMember? t ⟨e.label, false⟩ = s.index.find? typeName

/-- The property or field `h` is not seen, and it is the first one of the name of `m`, a property or
field that is offered. -/
structure CodeScope.Obscures (s : CodeScope) (t : TypeDefinition) (inside : Bool) (h m : Member) :
    Prop where
  unseen : ¬ h.IsSeen inside
  first : FirstNamed Member.HasValue m.name (membersAlong (s.index.chain t)) h
  offered : FirstNamed (Member.IsSeen inside) m.name (membersAlong (s.index.chain t)) m
  hasValue : m.HasValue

/-- A member that is not seen is followed in place of the one that is offered. -/
theorem CodeScope.LeadsAsOffered.agree (leads : s.LeadsAsOffered t inside)
    (obscures : s.Obscures t inside h m) :
    h.valueType?.bind s.index.find? = m.valueType?.bind s.index.find? := by
  have offered : m.item s.language ∈ s.memberItems t inside :=
    mem_memberItems_iff.mpr ⟨m, obscures.offered, rfl⟩
  obtain ⟨m', typeName, -, seen, typed, followed⟩ :=
    leads _ offered (Member.hasValue_iff.mp obscures.hasValue)
  obtain rfl := seen.unique obscures.offered
  rw [← typeOfMember?_eq obscures.first, typed]
  exact followed

/-- Properties and fields are followed to the types that they are offered with, unless a property or
field that is not seen stands in front of one that is offered and leads elsewhere. -/
theorem CodeScope.leadsAsOffered_iff (s : CodeScope) (t : TypeDefinition) (inside : Bool) :
    s.LeadsAsOffered t inside ↔
      ∀ h m, s.Obscures t inside h m →
        h.valueType?.bind s.index.find? = m.valueType?.bind s.index.find? := by
  constructor
  · intro leads h m obscures
    exact leads.agree obscures
  · intro agree e he kind
    obtain ⟨m, offered, rfl⟩ := mem_memberItems_iff.mp he
    have hasValue : m.HasValue := Member.hasValue_iff.mpr kind
    obtain ⟨typeName, typed⟩ := Option.isSome_iff_exists.mp hasValue
    obtain ⟨h, first⟩ := exists_firstNamed offered.mem hasValue (Text.sameName_self m.name)
    refine ⟨m, typeName, rfl, offered, typed, ?_⟩
    rw [Member.label_item, typeOfMember?_eq first]
    by_cases seen : h.IsSeen inside
    · -- A member that is seen and has a value is the first one in both ways.
      obtain rfl := offered.eq_of_counts first seen hasValue
      rw [typed]
      rfl
    · rw [agree h m ⟨seen, first, offered, hasValue⟩, typed]
      rfl

/-! ### A private property -/

/-- The type of the property that is offered. -/
def lidDefinition : TypeDefinition :=
  { space := "Kit", name := "Lid", properties := [{ name := "Paint", typeName := "Kit.Paint" }] }

/-- A type with a public property. -/
def crateDefinition : TypeDefinition :=
  { space := "Kit", name := "Crate", properties := [{ name := "Top", typeName := "Kit.Lid" }] }

/-- A type that derives from it and has a private property of the same name. -/
def boxDefinition : TypeDefinition where
  space := "Kit"
  name := "Box"
  baseType := some "Kit.Crate"
  properties := [{ name := "Top", typeName := "Kit.Label", accessibility := .isPrivate }]

/-- Code in a page that can use these types. -/
def boxScope : CodeScope where
  language := .cSharp
  page := { name := "Default_aspx", base := "Site.Default", imports := [], fields := [], blocks := [] }
  index := .ofList [lidDefinition, crateDefinition, boxDefinition]

theorem chain_boxDefinition :
    boxScope.index.chain boxDefinition = [boxDefinition, crateDefinition] := by
  have found : boxScope.index.find? "Kit.Crate" = some crateDefinition := by
    rw [boxScope, TypeIndex.find?_ofList]
    decide +kernel
  rw [TypeIndex.chain, TypeIndex.baseTypes, TypeIndex.maxDepth, boxDefinition, TypeIndex.ancestors,
    found]
  rfl

/-- The public property is offered, and the private one is followed, to a type that is not known. -/
theorem not_leadsAsOffered_privateTop : ¬ boxScope.LeadsAsOffered boxDefinition false := by
  intro leads
  have obscures : boxScope.Obscures boxDefinition false
      (.property { name := "Top", typeName := "Kit.Label", accessibility := .isPrivate })
      (.property { name := "Top", typeName := "Kit.Lid" }) := by
    refine ⟨by decide, ?_, ?_, rfl⟩
    · rw [chain_boxDefinition]
      exact ⟨[], _, rfl, rfl, Text.sameName_self _, nofun⟩
    · rw [chain_boxDefinition]
      refine ⟨[_], [], rfl, by decide, Text.sameName_self _, ?_⟩
      intro m hm seen
      rw [List.mem_singleton.mp hm] at seen
      exact absurd seen (by decide)
  have known : boxScope.index.find? "Kit.Lid" = some lidDefinition := by
    rw [boxScope, TypeIndex.find?_ofList]
    decide +kernel
  have unknown : boxScope.index.find? "Kit.Label" = none := by
    rw [boxScope, TypeIndex.find?_ofList]
    decide +kernel
  exact nomatch unknown.symm.trans ((leads.agree obscures).trans known)

end

end WebForms
