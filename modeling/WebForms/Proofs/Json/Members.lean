import Mathlib.Data.List.Perm.Basic
import WebForms.Json.Canonical
import WebForms.Proofs.Types.FormatRoundTrip

/-!
# Members of objects

Before a message is read it is brought into canonical form, in which the members of an object stand
in the order of their names. The names of a written record are all different, so sorting leaves all
of its members there, and as members are looked up by their names, the record is read as it would be
from its members in their own order. Nor does it matter for the others when members without a value
are left out.

## Main definitions

* `Json.Survives` — a way of writing and reading under which every value comes back from its
  canonical form

## Main results

* `Json.lastMembers_perm` — members of different names are put in order and nothing else
* `Json.lookup_eq_of_perm` — in which order they stand makes no difference to what is found
* `Json.lookup_lastMembers`, `Json.fields?_canonical_obj` — the members of an object in canonical
  form
* `Json.get?_sparse` — the members that are present
-/

namespace WebForms.Json

variable {α : Type} {name : String} {names : List String} {members others : List (String × Json)}

/-- Members of different names are all kept. -/
theorem dropRepeated_eq_self (distinct : (members.map (·.1)).Nodup) :
    dropRepeated members = members := by
  fun_induction dropRepeated members with
  | case1 v next members =>
    obtain ⟨fresh, -⟩ := List.nodup_cons.mp distinct
    exact absurd List.mem_cons_self fresh
  | case2 name v next members _ ih =>
    obtain ⟨-, distinct⟩ := List.nodup_cons.mp distinct
    rw [ih distinct]
  | case3 => rfl

/-- Members of different names are put in order and nothing else. -/
theorem lastMembers_perm (distinct : (members.map (·.1)).Nodup) :
    (lastMembers members).Perm members := by
  have sorted := List.mergeSort_perm members fun a b => a.1 ≤ b.1
  have kept := dropRepeated_eq_self ((sorted.map (·.1)).nodup_iff.mpr distinct)
  rw [lastMembers, kept]
  exact sorted

/-- Among members of different names, their order makes no difference to what is found. -/
theorem lookup_eq_of_perm (perm : members.Perm others) (distinct : (members.map (·.1)).Nodup) :
    members.lookup name = others.lookup name := by
  induction perm with
  | nil => rfl
  | cons m _ ih =>
    obtain ⟨-, distinct⟩ := List.nodup_cons.mp distinct
    rw [List.lookup_cons, List.lookup_cons, ih distinct]
  | swap m m' members =>
    obtain ⟨fresh, -⟩ := List.nodup_cons.mp distinct
    have ne : m'.1 ≠ m.1 := fun same => fresh (List.mem_cons.mpr (.inl same))
    by_cases first : name = m.1
    · -- The name is that of one of the two, so it is not that of the other.
      have other : (name == m'.1) = false := by
        rw [first]
        exact beq_eq_false_iff_ne.mpr ne.symm
      rw [List.lookup_cons, List.lookup_cons, List.lookup_cons, List.lookup_cons, other]
    · have other : (name == m.1) = false := beq_eq_false_iff_ne.mpr first
      rw [List.lookup_cons, List.lookup_cons, List.lookup_cons, List.lookup_cons, other]
  | trans perm _ ih ih' =>
    have distinct' := (perm.map (·.1)).nodup_iff.mp distinct
    exact (ih distinct).trans (ih' distinct')

/-! ### Values in canonical form -/

@[simp] theorem canonical_str (s : String) : (str s).canonical = str s := by
  rw [canonical]
  all_goals exact nofun

theorem canonicalItems_eq_map (items : List Json) : canonicalItems items = items.map canonical := by
  induction items with
  | nil => rfl
  | cons v vs ih => rw [canonicalItems, ih, List.map_cons]

theorem canonicalMembers_eq_map (members : List (String × Json)) :
    canonicalMembers members = members.map fun m => (m.1, m.2.canonical) := by
  induction members with
  | nil => rfl
  | cons m ms ih => rw [canonicalMembers, ih, List.map_cons]

/-- The names of members stay what they are. -/
theorem names_canonicalMembers (members : List (String × Json)) :
    (canonicalMembers members).map (·.1) = members.map (·.1) := by
  rw [canonicalMembers_eq_map, List.map_map]
  rfl

/-- A record is read from its members in any order. -/
theorem fields?_eq_of_perm (perm : members.Perm others) (distinct : (members.map (·.1)).Nodup) :
    (obj members).fields? names = (obj others).fields? names := by
  have found : (List.lookup · members) = (List.lookup · others) :=
    funext fun _ => lookup_eq_of_perm perm distinct
  have counted (name : String) : members.countP (·.1 == name) = others.countP (·.1 == name) :=
    perm.countP_eq _
  simp only [fields?, counted, found]

/-- In canonical form an object has the canonical forms of its members. -/
theorem lookup_lastMembers (distinct : (members.map (·.1)).Nodup) :
    (lastMembers (canonicalMembers members)).lookup name =
      (members.lookup name).map canonical := by
  rw [← names_canonicalMembers] at distinct
  have perm := lastMembers_perm distinct
  rw [lookup_eq_of_perm perm ((perm.map (·.1)).nodup_iff.mpr distinct), canonicalMembers_eq_map]
  clear * -
  induction members with
  | nil => rfl
  | cons m ms ih =>
    rw [List.map_cons, List.lookup_cons, List.lookup_cons, ih]
    split <;> rfl

/-- A record with distinct names has the fields of these names in canonical form, too. -/
theorem fields?_canonical_obj (all : members.map (·.1) = names) (distinct : names.Nodup) :
    (obj members).canonical.fields? names = some (members.map fun m => some m.2.canonical) := by
  have all' : (canonicalMembers members).map (·.1) = names := by
    rw [names_canonicalMembers, all]
  have distinct' : ((canonicalMembers members).map (·.1)).Nodup := all'.symm ▸ distinct
  have perm := lastMembers_perm distinct'
  rw [canonical, fields?_eq_of_perm perm ((perm.map (·.1)).nodup_iff.mpr distinct'),
    fields?_obj all' distinct, canonicalMembers_eq_map, List.map_map]
  rfl

/-! ### Values that come back -/

/-- What is written has a text of its own, and is read back from the canonical form of its value. -/
structure Survives (write : α → Json) (read : Json → Option α) : Prop where
  written : ∀ x, (write x).Written
  read_canonical : ∀ x, read (write x).canonical = some x

/-- A list comes back when its items do. -/
theorem Survives.list {write : α → Json} {read : Json → Option α} (h : Survives write read) :
    Survives (fun xs => .arr (xs.map write)) (list? read) where
  written := written_map h.written
  read_canonical xs := by
    rw [canonical, canonicalItems_eq_map, List.map_map, list?]
    induction xs with
    | nil => rfl
    | cons x xs ih =>
      rw [List.map_cons, List.mapM_cons, ih, Function.comp_apply, h.read_canonical x]
      rfl

/-! ### Objects with members left out -/

/-- A member is found when it is present. -/
theorem get?_sparse {members : List (String × Option Json)} (distinct : (members.map (·.1)).Nodup)
    (name : String) : (sparse members).get? name = (members.lookup name).join := by
  induction members with
  | nil => rfl
  | cons m ms ih =>
    obtain ⟨first, v?⟩ := m
    obtain ⟨fresh, distinct⟩ := List.nodup_cons.mp distinct
    have others := ih distinct
    simp only [get?, sparse] at others ⊢
    by_cases same : name = first
    · subst same
      rw [List.lookup_cons_self]
      cases v? with
      | none =>
        -- The name stands here only, without a value.
        have absent : ms.lookup name = none := by
          rw [List.lookup_eq_none_iff]
          intro m hm
          exact bne_iff_ne.mpr fun same => fresh (List.mem_map.mpr ⟨m, hm, same.symm⟩)
        rw [absent] at others
        exact others
      | some v => exact List.lookup_cons_self
    · have other : (name == first) = false := beq_eq_false_iff_ne.mpr same
      rw [List.lookup_cons, other]
      cases v? with
      | none => exact others
      | some v =>
        rw [List.filterMap_cons]
        simp only [Option.map_some, List.lookup_cons, other]
        exact others

theorem written_sparse {members : List (String × Option Json)}
    (h : ∀ m ∈ members, ∀ v ∈ m.2, v.Written) : (sparse members).Written := by
  refine .obj fun m hm => ?_
  obtain ⟨⟨name, v?⟩, hmem, present⟩ := List.mem_filterMap.mp hm
  obtain ⟨v, hv, rfl⟩ := Option.map_eq_some_iff.mp present
  exact h _ hmem v hv

end WebForms.Json
