import WebForms.Proofs.Text.LetterCase
import WebForms.Proofs.Types.CatalogHistory
import WebForms.Proofs.Types.Inheritance

/-!
# Controls that are offered and controls that are found

The controls of a page are listed namespace by namespace, with the user controls behind them, and
a tag is looked up among the user controls first and then in the namespaces of its prefix, of
which the first one that knows the name decides. Nothing removes a control from the list that
another one hides from the look-up. Both agree exactly when the registrations do not overlap.

## Main definitions

* `Toolbox.OffersAsResolved` — every control that is listed is found under its name, which no other
  one has
* `Toolbox.Unambiguous` — no registration hides or repeats a control of another one

## Main results

* `Toolbox.offersAsResolved_iff` — controls are listed as they are found if and only if the
  registrations are unambiguous
* `Toolbox.not_offersAsResolved_repeated` — a namespace that is registered twice
-/

namespace WebForms

/-! ### Names in an index -/

/-- The namespace of a name can be told from the name without it. -/
theorem qualifiedName_left_inj {space space' name : String} :
    qualifiedName space name = qualifiedName space' name ↔ space = space' := by
  refine ⟨fun same => ?_, fun same => same ▸ rfl⟩
  unfold qualifiedName at same
  split_ifs at same with empty empty' empty'
  · rw [String.isEmpty_iff.mp empty, String.isEmpty_iff.mp empty']
  · -- One of the names would be longer.
    have length := congrArg (fun s => s.toList.length) same
    simp at length
    omega
  · have length := congrArg (fun s => s.toList.length) same
    simp at length
    omega
  · rw [← String.toList_inj] at same ⊢
    simpa using same

theorem toLower_qualifiedName (space name : String) :
    (qualifiedName space name).toLower = qualifiedName space.toLower name.toLower := by
  unfold qualifiedName
  rw [Text.isEmpty_toLower]
  split
  · rfl
  · rw [Text.toLower_append, Text.toLower_append]
    rw [Text.toLower_eq_self (s := ".") (by simp)]

/-- Names with the same end are the same only in the same namespace. -/
theorem sameName_of_qualifiedName {space space' name : String}
    (same : Text.sameName (qualifiedName space name) (qualifiedName space' name) = true) :
    Text.sameName space space' = true := by
  rw [Text.sameName_iff, toLower_qualifiedName, toLower_qualifiedName,
    qualifiedName_left_inj] at same
  exact Text.sameName_iff.mpr same

namespace TypeIndex

variable {ix : TypeIndex} {t u : TypeDefinition} {space name : String}

theorem mem_inNamespace :
    t ∈ ix.inNamespace space ↔ t ∈ ix.types ∧ Text.sameName t.space space = true := by
  rw [inNamespace, List.mem_filter, Array.mem_toList_iff]

/-- A type is found in its namespace under its name. -/
theorem findIn?_of_mem_inNamespace (h : t ∈ ix.inNamespace space) :
    ix.findIn? space t.name = some t := by
  obtain ⟨mem, same⟩ := mem_inNamespace.mp h
  refine find?_eq_some_iff.mpr ⟨mem, ?_⟩
  rw [Text.sameName_iff] at same ⊢
  rw [TypeDefinition.fullName, toLower_qualifiedName, toLower_qualifiedName, same]

/-- What is found under the name of a type is in another namespace, or it is this type. -/
theorem mem_inNamespace_of_findIn? (found : ix.findIn? space t.name = some t) :
    t ∈ ix.inNamespace space := by
  obtain ⟨mem, same⟩ := find?_eq_some_iff.mp found
  exact mem_inNamespace.mpr ⟨mem, sameName_of_qualifiedName same⟩

end TypeIndex

/-- The tags of the two controls have different names. -/
def ToolboxItem.Apart (c d : ToolboxItem) : Prop := Text.sameName c.tagName d.tagName = false

namespace Toolbox

variable {b : Toolbox} {r q : RegisteredNamespace} {c d : ToolboxItem} {t : TypeDefinition}
  {base : String}

/-- Every control that is listed is what a tag of its prefix and name resolves to, and no two tags
have the same name. -/
structure OffersAsResolved (b : Toolbox) : Prop where
  resolves : ∀ c ∈ b.controls, ∀ t ∈ c.type, b.resolve ⟨some c.tagPrefix, c.name⟩ = .ok t
  distinct : b.controls.Pairwise ToolboxItem.Apart

/-- No registration repeats the controls of another one, and none hides them. -/
structure Unambiguous (b : Toolbox) : Prop where
  namespaces : b.registrations.namespaces.Pairwise fun r q =>
    ∀ c ∈ b.controlsIn controlType r, ∀ d ∈ b.controlsIn controlType q, c.Apart d
  userControls : b.userControls.Pairwise ToolboxItem.Apart
  shadowed : ∀ r ∈ b.registrations.namespaces, ∀ c ∈ b.controlsIn controlType r,
    ∀ u ∈ b.userControls, c.Apart u
  /-- What an earlier namespace of the prefix knows under the name of a control would hide it, even
  if it is no control. -/
  first : ∀ front r back, b.registrations.namespaces = front ++ r :: back →
    ∀ q ∈ front, Text.sameName q.tagPrefix r.tagPrefix = true →
      ∀ c ∈ b.controlsIn controlType r, b.index.findIn? q.space c.name = none

theorem mem_controlsIn :
    c ∈ b.controlsIn base r ↔
      ∃ t ∈ b.index.inNamespace r.space, (t.isAbstract = false ∧ b.index.isSubclass t base = true) ∧
        ⟨r.tagPrefix, t.name, some t⟩ = c := by
  simp [controlsIn, and_assoc]

theorem not_apart {p p' n n' : String} {t t' : Option TypeDefinition}
    (hp : Text.sameName p p' = true) (hn : Text.sameName n n' = true) :
    ¬ ToolboxItem.Apart ⟨p, n, t⟩ ⟨p', n', t'⟩ := by
  rw [Text.sameName_iff] at hp hn
  simp [ToolboxItem.Apart, ToolboxItem.tagName, Text.sameName, hp, hn]

/-- Tags of one prefix have different names when what follows the prefix is different. -/
theorem apart_of_name {p n n' : String} {t t' : Option TypeDefinition}
    (other : n.toLower ≠ n'.toLower) : ToolboxItem.Apart ⟨p, n, t⟩ ⟨p, n', t'⟩ := by
  rw [ToolboxItem.Apart, ← Bool.not_eq_true, Text.sameName_iff]
  intro same
  refine other (String.toList_inj.mp ?_)
  have letters := congrArg String.toList same
  simpa [ToolboxItem.tagName] using letters

/-- The controls of a namespace have different names. -/
theorem pairwise_controlsIn (b : Toolbox) (base : String) (r : RegisteredNamespace) :
    (b.controlsIn base r).Pairwise ToolboxItem.Apart := by
  rw [controlsIn, List.pairwise_map]
  have keys : (b.index.inNamespace r.space).Pairwise fun t u => t.key ≠ u.key :=
    b.index.pairwise_key.filter _
  refine (keys.filter _).imp_of_mem fun {t u} ht hu other => apart_of_name fun same => other ?_
  -- In one namespace, the same name makes the same full name.
  obtain ⟨-, space⟩ := TypeIndex.mem_inNamespace.mp (List.mem_filter.mp ht).1
  obtain ⟨-, space'⟩ := TypeIndex.mem_inNamespace.mp (List.mem_filter.mp hu).1
  rw [Text.sameName_iff] at space space'
  rw [TypeDefinition.key, TypeDefinition.key, TypeDefinition.fullName, TypeDefinition.fullName,
    toLower_qualifiedName, toLower_qualifiedName, same, space, space']

theorem pairwise_controls_iff :
    b.controls.Pairwise ToolboxItem.Apart ↔
      (b.registrations.namespaces.Pairwise fun r q =>
        ∀ c ∈ b.controlsIn controlType r, ∀ d ∈ b.controlsIn controlType q, c.Apart d) ∧
      b.userControls.Pairwise ToolboxItem.Apart ∧
      ∀ r ∈ b.registrations.namespaces, ∀ c ∈ b.controlsIn controlType r,
        ∀ u ∈ b.userControls, c.Apart u := by
  rw [controls, List.pairwise_append, List.pairwise_flatMap]
  simp only [pairwise_controlsIn, implies_true, true_and, List.mem_flatMap, forall_exists_index,
    and_imp]
  refine and_congr_right fun _ => and_congr_right fun _ => ?_
  constructor
  · intro h r hr c hc u hu
    exact h c r hr hc u hu
  · intro h c r hr hc u hu
    exact h r hr c hc u hu

/-- A control that no user control hides is looked up in the namespaces of its prefix. -/
theorem typeOf?_of_apart (apart : ∀ u ∈ b.userControls, c.Apart u) :
    b.typeOf? ⟨some c.tagPrefix, c.name⟩ =
      (b.registrations.namespacesOf c.tagPrefix).findSome? (b.index.findIn? · c.name) := by
  have unhidden : b.registrations.userControl? c.tagPrefix c.name = none := by
    refine List.find?_eq_none.mpr fun u hu same => ?_
    rw [Bool.and_eq_true] at same
    have listed : ⟨u.tagPrefix, u.name, none⟩ ∈ b.userControls :=
      List.mem_map.mpr ⟨u, hu, rfl⟩
    have clash : ¬ ToolboxItem.Apart ⟨u.tagPrefix, u.name, none⟩ c := not_apart same.1 same.2
    have other := apart _ listed
    rw [ToolboxItem.Apart, Text.sameName_comm] at other
    exact clash other
  simp only [typeOf?, bind, Option.bind, unhidden]

theorem resolve_of_apart (apart : ∀ u ∈ b.userControls, c.Apart u) :
    b.resolve ⟨some c.tagPrefix, c.name⟩ = .ok t ↔
      (b.registrations.namespacesOf c.tagPrefix).findSome? (b.index.findIn? · c.name) = some t := by
  rw [resolve, typeOf?_of_apart apart]
  cases (b.registrations.namespacesOf c.tagPrefix).findSome? (b.index.findIn? · c.name) with
  | none => simp
  | some u => simp

/-- The namespaces of a prefix, around one of them. -/
theorem namespacesOf_eq {front back : List RegisteredNamespace}
    (split : b.registrations.namespaces = front ++ r :: back) :
    b.registrations.namespacesOf r.tagPrefix =
      (front.filter (Text.sameName ·.tagPrefix r.tagPrefix)).map (·.space) ++
        r.space :: (back.filter (Text.sameName ·.tagPrefix r.tagPrefix)).map (·.space) := by
  simp [Registrations.namespacesOf, split]

/-- Where no registration hides or repeats a control, what is listed is found. -/
theorem Unambiguous.resolve_eq (h : b.Unambiguous) (hc : c ∈ b.controls) (ht : c.type = some t) :
    b.resolve ⟨some c.tagPrefix, c.name⟩ = .ok t := by
  rw [controls, List.mem_append, List.mem_flatMap] at hc
  obtain ⟨r, hr, hc⟩ | hc := hc
  · rw [resolve_of_apart (h.shadowed r hr c hc)]
    obtain ⟨front, back, split⟩ := List.append_of_mem hr
    obtain ⟨t', inside, -, rfl⟩ := mem_controlsIn.mp hc
    obtain rfl := Option.some.inj ht
    rw [namespacesOf_eq split]
    -- No earlier namespace of the prefix knows the name.
    refine List.findSome?_eq_some_iff.mpr
      ⟨_, r.space, _, rfl, TypeIndex.findIn?_of_mem_inNamespace inside, fun space hspace => ?_⟩
    obtain ⟨q, hq, rfl⟩ := List.mem_map.mp hspace
    obtain ⟨earlier, same⟩ := List.mem_filter.mp hq
    exact h.first front r back split q earlier same _ hc
  · -- Of user controls the type is not known.
    obtain ⟨u, -, rfl⟩ := List.mem_map.mp hc
    cases ht

/-- Where what is listed is found, no earlier namespace of the prefix knows the name of a control. -/
theorem OffersAsResolved.findIn?_eq_none (h : b.OffersAsResolved)
    {front back : List RegisteredNamespace}
    (split : b.registrations.namespaces = front ++ r :: back) (hq : q ∈ front)
    (same : Text.sameName q.tagPrefix r.tagPrefix = true) (hc : c ∈ b.controlsIn controlType r) :
    b.index.findIn? q.space c.name = none := by
  obtain ⟨namespaces, -, shadowed⟩ := pairwise_controls_iff.mp h.distinct
  have hr : r ∈ b.registrations.namespaces := by simp [split]
  have offered : c ∈ b.controls :=
    List.mem_append_left _ (List.mem_flatMap.mpr ⟨r, hr, hc⟩)
  have apart := shadowed r hr c hc
  obtain ⟨t, inside, isControl, rfl⟩ := mem_controlsIn.mp hc
  have found := (resolve_of_apart apart).mp (h.resolves _ offered t rfl)
  rw [namespacesOf_eq split, List.findSome?_append] at found
  cases earlier : ((front.filter (Text.sameName ·.tagPrefix r.tagPrefix)).map
      (·.space)).findSome? (b.index.findIn? · t.name) with
  | none =>
    refine List.findSome?_eq_none_iff.mp earlier q.space ?_
    exact List.mem_map_of_mem (List.mem_filter.mpr ⟨hq, same⟩)
  | some u =>
    -- An earlier namespace has the same type, and lists it under the same name.
    rw [earlier, Option.some_or] at found
    obtain rfl := Option.some.inj found
    obtain ⟨space, hspace, found⟩ := List.exists_of_findSome?_eq_some earlier
    obtain ⟨q', hq', rfl⟩ := List.mem_map.mp hspace
    obtain ⟨before, same'⟩ := List.mem_filter.mp hq'
    have inside' := TypeIndex.mem_inNamespace_of_findIn? found
    have listed : ⟨q'.tagPrefix, u.name, some u⟩ ∈ b.controlsIn controlType q' :=
      mem_controlsIn.mpr ⟨u, inside', isControl, rfl⟩
    rw [split, List.pairwise_append] at namespaces
    exact absurd (namespaces.2.2 q' before r List.mem_cons_self _ listed _ hc)
      (not_apart same' (Text.sameName_self _))

/-- What is offered is what tags resolve to, exactly when no registration hides or repeats a control
of another one. -/
theorem offersAsResolved_iff (b : Toolbox) : b.OffersAsResolved ↔ b.Unambiguous := by
  constructor
  · intro h
    obtain ⟨namespaces, userControls, shadowed⟩ := pairwise_controls_iff.mp h.distinct
    exact ⟨namespaces, userControls, shadowed,
      fun _ _ _ split _ hq same _ hc => h.findIn?_eq_none split hq same hc⟩
  · intro h
    exact ⟨fun _ hc _ ht => h.resolve_eq hc ht,
      pairwise_controls_iff.mpr ⟨h.namespaces, h.userControls, h.shadowed⟩⟩

/-! ### A namespace that is registered twice -/

/-- The type of controls as such. -/
def controlDefinition : TypeDefinition := { space := "System.Web.UI", name := "Control" }

/-- The toolbox of a page that registers the namespace of this type twice under one prefix. -/
def repeatedToolbox : Toolbox where
  index := .ofList [controlDefinition]
  registrations := .ofTree (.parse
    ("<%@ Register TagPrefix=\"c\" Namespace=\"System.Web.UI\" %>" ++
      "<%@ Register TagPrefix=\"c\" Namespace=\"System.Web.UI\" %>"))

theorem registrations_repeatedToolbox :
    repeatedToolbox.registrations.namespaces =
      [⟨builtInPrefix, builtInNamespace, none⟩, ⟨"c", "System.Web.UI", none⟩,
        ⟨"c", "System.Web.UI", none⟩] := by
  decide +kernel

theorem mem_controlsIn_repeatedToolbox :
    ⟨"c", "Control", some controlDefinition⟩ ∈
      repeatedToolbox.controlsIn controlType ⟨"c", "System.Web.UI", none⟩ := by
  have added : controlDefinition ∈ (TypeIndex.ofList [controlDefinition]).types :=
    TypeIndex.mem_add_self {} controlDefinition
  have named : controlDefinition.fullName = controlType := by decide +kernel
  refine mem_controlsIn.mpr ⟨controlDefinition, ?_, ⟨rfl, ?_⟩, rfl⟩
  · exact TypeIndex.mem_inNamespace.mpr ⟨added, Text.sameName_self _⟩
  · rw [← named]
    exact TypeIndex.isSubclass_self _ controlDefinition

/-- The controls of a namespace that is registered twice are offered twice. -/
theorem not_offersAsResolved_repeated : ¬ repeatedToolbox.OffersAsResolved := by
  intro h
  have apart := (pairwise_controls_iff.mp h.distinct).1
  rw [registrations_repeatedToolbox] at apart
  have both := (List.pairwise_cons.mp (List.pairwise_cons.mp apart).2).1 _ List.mem_cons_self
  exact not_apart (Text.sameName_self _) (Text.sameName_self _)
    (both _ mem_controlsIn_repeatedToolbox _ mem_controlsIn_repeatedToolbox)

end Toolbox

end WebForms
