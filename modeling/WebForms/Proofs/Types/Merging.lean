import Mathlib.Data.List.Induction
import WebForms.Proofs.Types.Entries

/-!
# Merging type indexes

To merge an index into another is to add its definitions. It is the same as adding all that the
index was made from: a definition that was replaced there is replaced again by the one that took its
place, before or after the others of that index are added. An index is therefore what its history
comes down to, however it was put together: the last definition of each name, in the order in which
the names came up.

## Main definitions

* `IndexHistory` — how an index has been put together
* `TypeIndex.HoldsLatest` — an index holds the last definition of each name

## Main results

* `TypeIndex.merge_add` — an addition to the index that is merged is one to the merged index
* `TypeIndex.merge_concatenates` — merging joins the lists of definitions
* `IndexHistory.holdsLatest_index` — what has been put together holds the last definitions
-/

namespace WebForms

namespace TypeIndex

variable {ix jx : TypeIndex} {t : TypeDefinition} {ts us : List TypeDefinition}

/-! ### Additions in turn -/

@[simp] theorem addAll_nil (ix : TypeIndex) : ix.addAll [] = ix := rfl

@[simp] theorem addAll_cons (ix : TypeIndex) (t : TypeDefinition) (ts : List TypeDefinition) :
    ix.addAll (t :: ts) = (ix.add t).addAll ts := rfl

@[simp] theorem addAll_append (ix : TypeIndex) (ts us : List TypeDefinition) :
    ix.addAll (ts ++ us) = (ix.addAll ts).addAll us :=
  List.foldl_append

theorem ofList_append (ts us : List TypeDefinition) :
    ofList (ts ++ us) = (ofList ts).addAll us :=
  addAll_append {} ts us

theorem ofList_concat (ts : List TypeDefinition) (t : TypeDefinition) :
    ofList (ts ++ [t]) = (ofList ts).add t :=
  ofList_append ts [t]

/-- An entry may be replaced before definitions of other names are added, or after it. -/
theorem add_addAll_comm (present : t.key ∈ ix.keys) (others : ∀ u ∈ ts, u.key ≠ t.key) :
    (ix.addAll ts).add t = (ix.add t).addAll ts := by
  induction ts generalizing ix with
  | nil => rfl
  | cons u us ih =>
    obtain ⟨other, others⟩ := List.forall_mem_cons.mp others
    have still : t.key ∈ (ix.add u).keys := by
      rw [keys_add]
      split
      · exact present
      · exact List.mem_append_left _ present
    calc (ix.addAll (u :: us)).add t
        = ((ix.add u).add t).addAll us := ih still others
      _ = ((ix.add t).add u).addAll us := by rw [add_add_comm present other]

/-- A definition that comes after another one of its name, with no third one of it in between, may
take the place of the earlier one. -/
theorem addAll_replace {front back : List TypeDefinition} {old : TypeDefinition}
    (same : old.key = t.key) (others : ∀ u ∈ back, u.key ≠ t.key) :
    ix.addAll (front ++ t :: back) = (ix.addAll (front ++ old :: back)).add t := by
  have present : t.key ∈ ((ix.addAll front).add old).keys :=
    same ▸ key_mem_keys (mem_add_self _ old)
  calc ix.addAll (front ++ t :: back)
      = ((ix.addAll front).add t).addAll back := by rw [addAll_append, addAll_cons]
    _ = (((ix.addAll front).add old).add t).addAll back := by rw [add_add_of_key_eq same]
    _ = (((ix.addAll front).add old).addAll back).add t := (add_addAll_comm present others).symm
    _ = (ix.addAll (front ++ old :: back)).add t := by rw [addAll_append, addAll_cons]

/-! ### Merging -/

/-- What is added to an index before it is merged may be added to the merged index instead. -/
theorem merge_add (ix jx : TypeIndex) (t : TypeDefinition) :
    ix.merge (jx.add t) = (ix.merge jx).add t := by
  by_cases present : t.key ∈ jx.keys
  · -- The definition that is replaced divides those of the index, and its name is not among the
    -- names behind it.
    obtain ⟨i, inside, slot, same⟩ := exists_entry present
    have bound : i < jx.types.toList.length := by simpa using inside
    obtain ⟨front, back, before, -, after⟩ : ∃ front back,
        jx.types.toList = front ++ jx.types.toList[i] :: back ∧ front.length = i ∧
          jx.types.toList.set i t = front ++ t :: back := List.exists_of_set bound
    rw [Array.getElem_toList] at before
    have others : ∀ u ∈ back, u.key ≠ t.key := by
      have distinct := jx.pairwise_key
      rw [before, List.pairwise_append, List.pairwise_cons] at distinct
      exact fun u hu => (same ▸ distinct.2.1.1 u hu).symm
    rw [merge, merge, (add_of_slot slot).1, Array.toList_setIfInBounds, after, before]
    exact addAll_replace same others
  · rw [merge, merge, (add_of_new present).1, Array.toList_push, addAll_append]
    rfl

theorem merge_addAll (ix jx : TypeIndex) (ts : List TypeDefinition) :
    ix.merge (jx.addAll ts) = (ix.merge jx).addAll ts := by
  induction ts generalizing jx with
  | nil => rfl
  | cons t ts ih => rw [addAll_cons, ih, merge_add, addAll_cons]

/-- To merge an index is to add all the definitions that it was made from. -/
theorem merge_ofList (ix : TypeIndex) (ts : List TypeDefinition) :
    ix.merge (ofList ts) = ix.addAll ts :=
  merge_addAll ix {} ts

/-- Any number of indexes are merged as their lists of definitions are added. -/
theorem foldl_merge (ix : TypeIndex) (files : List (List TypeDefinition)) :
    (files.map ofList).foldl merge ix = ix.addAll files.flatten := by
  induction files generalizing ix with
  | nil => rfl
  | cons ts files ih =>
    rw [List.map_cons, List.foldl_cons, ih, merge_ofList, List.flatten_cons, addAll_append]

theorem addAll_of_subset (h : ∀ t ∈ ts, t ∈ ix.types) : ix.addAll ts = ix := by
  induction ts with
  | nil => rfl
  | cons t ts ih =>
    obtain ⟨here, rest⟩ := List.forall_mem_cons.mp h
    rw [addAll_cons, add_of_mem here, ih rest]

/-- Merging joins the lists of definitions: two indexes give what their definitions give when they
are added in turn, and so do any number of them. It makes no difference which of three indexes are
merged first, and to merge one again changes nothing. -/
theorem merge_concatenates :
    (∀ ts us : List TypeDefinition, (ofList ts).merge (ofList us) = ofList (ts ++ us)) ∧
      (∀ (ts : List TypeDefinition) (files : List (List TypeDefinition)),
        (files.map ofList).foldl merge (ofList ts) = ofList (ts ++ files.flatten)) ∧
      (∀ ix jx kx : TypeIndex, (ix.merge jx).merge kx = ix.merge (jx.merge kx)) ∧
      ∀ ix jx : TypeIndex, (ix.merge jx).merge jx = ix.merge jx := by
  have assoc (ix jx kx : TypeIndex) : (ix.merge jx).merge kx = ix.merge (jx.merge kx) :=
    (merge_addAll ix jx kx.types.toList).symm
  refine ⟨fun ts us => ?_, fun ts files => ?_, assoc, fun ix jx => ?_⟩
  · rw [merge_ofList, ofList_append]
  · rw [foldl_merge, ofList_append]
  · have self : jx.merge jx = jx := addAll_of_subset fun t => Array.mem_toList_iff.mp
    rw [assoc, self]

/-! ### Looking up and order -/

/-- The definition of a name that was added last is found. -/
theorem find?_ofList (ts : List TypeDefinition) (name : String) :
    (ofList ts).find? name = ts.reverse.find? (Text.sameName ·.fullName name) := by
  induction ts using List.reverseRecOn with
  | nil => simp [ofList, find?]
  | append_singleton ts t ih =>
    rw [ofList_concat, find?_add, ih, List.reverse_concat, List.find?_cons]
    cases Text.sameName t.fullName name <;> rfl

/-- The names stand in the order in which they came up. -/
theorem keys_ofList (ts : List TypeDefinition) :
    (ofList ts).keys = (ts.map TypeDefinition.key).eraseDups := by
  induction ts using List.reverseRecOn with
  | nil => rfl
  | append_singleton ts t ih =>
    rw [ofList_concat, keys_add, ih, List.map_append, List.eraseDups_append, List.map_singleton]
    generalize ts.map TypeDefinition.key = names
    split
    next known => simp [List.removeAll, List.mem_eraseDups.mp known]
    next new => simp [List.removeAll, List.eraseDups_cons, mt List.mem_eraseDups.mpr new]

/-- There are as many types as names. -/
theorem size_ofList (ts : List TypeDefinition) :
    (ofList ts).size = (ts.map TypeDefinition.key).eraseDups.length := by
  rw [← keys_ofList, keys, List.length_map, Array.length_toList, size]

end TypeIndex

/-! ### Histories -/

/-- How an index has been put together: out of nothing, by additions, and by merging indexes that
have been put together likewise. -/
inductive IndexHistory where
  | start
  | add (h : IndexHistory) (t : TypeDefinition)
  | merge (h other : IndexHistory)

namespace IndexHistory

/-- The index at the end. -/
def index : IndexHistory → TypeIndex
  | start => {}
  | add h t => h.index.add t
  | merge h other => h.index.merge other.index

/-- All definitions that went in, the last one at the end; those of an index that was merged stand
where it was merged. -/
def added : IndexHistory → List TypeDefinition
  | start => []
  | add h t => h.added ++ [t]
  | merge h other => h.added ++ other.added

/-- Only the definitions that went in matter, not how they did. -/
theorem index_eq_ofList (h : IndexHistory) : h.index = .ofList h.added := by
  induction h with
  | start => rfl
  | add h t ih => rw [index, ih, added, TypeIndex.ofList_concat]
  | merge h other ih ih' =>
    rw [index, ih, ih', added, TypeIndex.merge_ofList, TypeIndex.ofList_append]

end IndexHistory

/-- The index holds the last one of each name among the definitions `ts`, in the order in which the
names came up, and its places are those of its types under their names in lower case. -/
structure TypeIndex.HoldsLatest (ts : List TypeDefinition) (ix : TypeIndex) : Prop where
  distinct : ∀ (i j : Nat) (t u : TypeDefinition), ix.types[i]? = some t → ix.types[j]? = some u →
    Text.sameName t.fullName u.fullName = true → i = j
  slots : ∀ (key : String) (i : Nat), ix.slots[key]? = some i ↔
    ∃ t : TypeDefinition, ix.types[i]? = some t ∧ t.fullName.toLower = key
  found : ∀ name, ix.find? name = ts.reverse.find? (Text.sameName ·.fullName name)
  order : ix.types.toList.map (·.fullName.toLower) = (ts.map (·.fullName.toLower)).eraseDups

/-- However an index has been put together, it holds the last definition of each name that went
in. -/
theorem IndexHistory.holdsLatest_index (h : IndexHistory) : h.index.HoldsLatest h.added where
  distinct _ _ _ _ ht hu same := TypeIndex.place_eq ht hu (Text.sameName_iff.mp same)
  slots _ _ := h.index.slots_iff
  found name := by rw [h.index_eq_ofList, TypeIndex.find?_ofList]
  order := by
    rw [h.index_eq_ofList]
    exact TypeIndex.keys_ofList h.added

end WebForms
