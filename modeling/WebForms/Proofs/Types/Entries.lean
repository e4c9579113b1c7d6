import WebForms.Types.Index

/-!
# The entries of a type index

An index is a list of definitions in which no name comes twice, whatever its letter case. To add a
definition is to put it in the place of the entry of its name, or behind all entries if there is
none. Of two definitions of one name the later one stays therefore, in the place of the earlier
one, and an entry may be replaced before or after a definition of another name is added.

## Main definitions

* `TypeIndex.keys` — the names of the entries, in order

## Main results

* `TypeIndex.place_eq`, `TypeIndex.exists_entry` — each name has one entry at most, at its place
* `TypeIndex.find?_add`, `TypeIndex.keys_add` — what is changed by an addition
* `TypeIndex.add_add_of_key_eq`, `TypeIndex.add_add_comm`, `TypeIndex.add_of_mem` — additions that
  are undone, can be exchanged, or change nothing
-/

namespace WebForms

namespace TypeIndex

variable {ix jx : TypeIndex} {t u : TypeDefinition} {i j : Nat} {name key : String}

/-- An index is given by its definitions and their places. -/
theorem eq_of_types_of_slots (types : ix.types = jx.types) (slots : ix.slots = jx.slots) :
    ix = jx := by
  cases ix
  cases jx
  cases types
  cases slots
  rfl

/-! ### One entry of a name -/

/-- Definitions of one name stand at one place. -/
theorem place_eq (hi : ix.types[i]? = some t) (hj : ix.types[j]? = some u)
    (same : t.key = u.key) : i = j := by
  have place_t : ix.slots[t.key]? = some i := ix.slots_iff.mpr ⟨t, hi, rfl⟩
  have place_u : ix.slots[t.key]? = some j := ix.slots_iff.mpr ⟨u, hj, same.symm⟩
  exact Option.some.inj (place_t.symm.trans place_u)

/-- An index holds one type of a name at most. -/
theorem eq_of_key_eq (ht : t ∈ ix.types) (hu : u ∈ ix.types) (same : t.key = u.key) : t = u := by
  obtain ⟨i, hi⟩ := Array.mem_iff_getElem?.mp ht
  obtain ⟨j, hj⟩ := Array.mem_iff_getElem?.mp hu
  obtain rfl := place_eq hi hj same
  exact Option.some.inj (hi.symm.trans hj)

theorem mem_of_find? (h : ix.find? name = some t) : t ∈ ix.types :=
  (find?_eq_some_iff.mp h).1

/-- An index does not have two types of one name, not even the same type twice. -/
theorem pairwise_key (ix : TypeIndex) :
    ix.types.toList.Pairwise fun t u => t.key ≠ u.key := by
  rw [List.pairwise_iff_getElem]
  intro i j hi hj lt same
  have entry (k : Nat) (hk : k < ix.types.toList.length) :
      ix.types[k]? = some ix.types.toList[k] := by simp
  exact absurd (place_eq (entry i hi) (entry j hj) same) (Nat.ne_of_lt lt)

/-- The names of the types, in lower case and in the order of the types. -/
def keys (ix : TypeIndex) : List String := ix.types.toList.map TypeDefinition.key

theorem mem_keys_iff : key ∈ ix.keys ↔ ∃ i, ix.slots[key]? = some i := by
  simp only [keys, List.mem_map, Array.mem_toList_iff, ix.slots_iff, Array.mem_iff_getElem?]
  constructor
  · rintro ⟨t, ⟨i, hi⟩, same⟩
    exact ⟨i, t, hi, same⟩
  · rintro ⟨i, t, hi, same⟩
    exact ⟨t, ⟨i, hi⟩, same⟩

/-- The entry of a name stands at the place of the name. -/
theorem exists_entry (present : key ∈ ix.keys) :
    ∃ i, ∃ inside : i < ix.types.size, ix.slots[key]? = some i ∧ ix.types[i].key = key := by
  obtain ⟨i, slot⟩ := mem_keys_iff.mp present
  obtain ⟨old, hold, same⟩ := ix.slots_iff.mp slot
  obtain ⟨inside, rfl⟩ := Array.getElem?_eq_some_iff.mp hold
  exact ⟨i, inside, slot, same⟩

theorem slot_eq_none_iff : ix.slots[key]? = none ↔ key ∉ ix.keys := by
  rw [mem_keys_iff, Option.eq_none_iff_forall_ne_some, not_exists]

theorem key_mem_keys (h : t ∈ ix.types) : t.key ∈ ix.keys :=
  List.mem_map.mpr ⟨t, Array.mem_toList_iff.mpr h, rfl⟩

/-! ### What is changed by an addition -/

/-- A definition takes the place of the entry of its name. -/
theorem add_of_slot (h : ix.slots[t.key]? = some i) :
    (ix.add t).types = ix.types.setIfInBounds i t ∧ (ix.add t).slots = ix.slots := by
  unfold add
  split
  next slot found =>
    obtain rfl : slot = i := Option.some.inj (found.symm.trans h)
    exact ⟨rfl, rfl⟩
  next absent => rw [absent] at h; cases h

/-- A definition of a new name comes behind all entries. -/
theorem add_of_new (h : t.key ∉ ix.keys) :
    (ix.add t).types = ix.types.push t ∧
      (ix.add t).slots = ix.slots.insert t.key ix.types.size := by
  have none := slot_eq_none_iff.mpr h
  unfold add
  split
  next slot found => rw [found] at none; cases none
  next absent => exact ⟨rfl, rfl⟩

/-- What is added is found, and what was there before unless it had the same name. -/
theorem mem_add_iff : u ∈ (ix.add t).types ↔ u = t ∨ u ∈ ix.types ∧ u.key ≠ t.key := by
  by_cases present : t.key ∈ ix.keys
  · obtain ⟨i, inside, slot, same⟩ := exists_entry present
    have entry : ix.types[i]? = some ix.types[i] := Array.getElem?_eq_getElem inside
    rw [(add_of_slot slot).1]
    simp only [Array.mem_iff_getElem?, Array.getElem?_setIfInBounds]
    constructor
    · rintro ⟨j, hj⟩
      split at hj
      next => exact .inl (Option.some.inj hj).symm
      next other =>
        refine .inr ⟨⟨j, hj⟩, fun hu => other ?_⟩
        exact place_eq entry hj (same.trans hu.symm)
    · rintro (rfl | ⟨⟨j, hj⟩, other⟩)
      · exact ⟨i, by simp [inside]⟩
      · refine ⟨j, ?_⟩
        rw [if_neg, hj]
        rintro rfl
        rw [entry] at hj
        exact other (Option.some.inj hj ▸ same)
  · rw [(add_of_new present).1, Array.mem_push, or_comm]
    refine or_congr_right (iff_self_and.mpr fun hu same => present ?_)
    exact same ▸ key_mem_keys hu

theorem mem_add_self (ix : TypeIndex) (t : TypeDefinition) : t ∈ (ix.add t).types :=
  mem_add_iff.mpr (.inl rfl)

/-- Under the name of the definition that is added it is found, under other names what was found
before. -/
theorem find?_add (ix : TypeIndex) (t : TypeDefinition) (name : String) :
    (ix.add t).find? name = if Text.sameName t.fullName name then some t else ix.find? name := by
  split
  next same => exact find?_eq_some_iff.mpr ⟨mem_add_self ix t, same⟩
  next other =>
    refine Option.ext fun u => ?_
    rw [find?_eq_some_iff, find?_eq_some_iff, mem_add_iff]
    constructor
    · rintro ⟨rfl | ⟨mem, -⟩, same⟩
      · exact absurd same other
      · exact ⟨mem, same⟩
    · rintro ⟨mem, same⟩
      refine ⟨.inr ⟨mem, fun keys => other ?_⟩, same⟩
      rw [Text.sameName_iff] at same ⊢
      exact keys.symm.trans same

/-- The names stay, in their order, and a new one comes behind them. -/
theorem keys_add (ix : TypeIndex) (t : TypeDefinition) :
    (ix.add t).keys = if t.key ∈ ix.keys then ix.keys else ix.keys ++ [t.key] := by
  split
  next present =>
    obtain ⟨i, inside, slot, same⟩ := exists_entry present
    have entry : (ix.types.toList.map TypeDefinition.key)[i]? = some t.key := by
      simp [inside, same]
    obtain ⟨_, here⟩ := List.getElem?_eq_some_iff.mp entry
    rw [keys, (add_of_slot slot).1, Array.toList_setIfInBounds, List.map_set, ← here,
      List.set_getElem_self, keys]
  next new => simp [keys, (add_of_new new).1]

/-! ### Two additions -/

/-- Of two definitions of one name the later one stays. -/
theorem add_add_of_key_eq (same : t.key = u.key) : (ix.add t).add u = ix.add u := by
  by_cases present : t.key ∈ ix.keys
  · obtain ⟨i, slot⟩ := mem_keys_iff.mp present
    obtain ⟨types, slots⟩ := add_of_slot slot
    obtain ⟨types', slots'⟩ := add_of_slot (same ▸ slot)
    have again : (ix.add t).slots[u.key]? = some i := by rw [slots, ← same, slot]
    obtain ⟨types'', slots''⟩ := add_of_slot again
    apply eq_of_types_of_slots
    · rw [types'', types, types', Array.setIfInBounds_setIfInBounds]
    · rw [slots'', slots, slots']
  · obtain ⟨types, slots⟩ := add_of_new present
    obtain ⟨types', slots'⟩ := add_of_new (same ▸ present)
    have last : (ix.add t).slots[u.key]? = some ix.types.size := by
      rw [slots, same, Std.HashMap.getElem?_insert_self]
    obtain ⟨types'', slots''⟩ := add_of_slot last
    apply eq_of_types_of_slots
    · rw [types'', types, types']
      simp [Array.setIfInBounds, Array.set_push]
    · rw [slots'', slots, slots', same]

/-- A definition whose name is there already may be added before or after one of another name. -/
theorem add_add_comm (present : u.key ∈ ix.keys) (other : t.key ≠ u.key) :
    (ix.add t).add u = (ix.add u).add t := by
  obtain ⟨j, inside, slot, here⟩ := exists_entry present
  obtain ⟨types, slots⟩ := add_of_slot slot
  by_cases known : t.key ∈ ix.keys
  · obtain ⟨i, _, slot', here'⟩ := exists_entry known
    have apart : i ≠ j := by
      rintro rfl
      exact other (here'.symm.trans here)
    obtain ⟨types', slots'⟩ := add_of_slot slot'
    obtain ⟨left, leftSlots⟩ := add_of_slot (slots' ▸ slot : (ix.add t).slots[u.key]? = some j)
    obtain ⟨right, rightSlots⟩ := add_of_slot (slots ▸ slot' : (ix.add u).slots[t.key]? = some i)
    apply eq_of_types_of_slots
    · rw [left, types', right, types, Array.setIfInBounds_comm _ _ apart]
    · rw [leftSlots, slots', rightSlots, slots]
  · have new : t.key ∉ (ix.add u).keys := by rwa [keys_add, if_pos present]
    obtain ⟨types', slots'⟩ := add_of_new known
    have still : (ix.add t).slots[u.key]? = some j := by
      rw [slots', Std.HashMap.getElem?_insert, if_neg (by simpa using other), slot]
    obtain ⟨left, leftSlots⟩ := add_of_slot still
    obtain ⟨right, rightSlots⟩ := add_of_new new
    apply eq_of_types_of_slots
    · rw [left, types', right, types]
      simp [Array.setIfInBounds, Array.set_push, inside, Nat.lt_succ_of_lt inside]
    · rw [leftSlots, slots', rightSlots, slots, types, Array.size_setIfInBounds]

/-- To add what is there already changes nothing. -/
theorem add_of_mem (h : t ∈ ix.types) : ix.add t = ix := by
  obtain ⟨i, hi⟩ := Array.mem_iff_getElem?.mp h
  obtain ⟨inside, rfl⟩ := Array.getElem?_eq_some_iff.mp hi
  obtain ⟨types, slots⟩ := add_of_slot (ix.slots_iff.mpr ⟨_, hi, rfl⟩)
  exact eq_of_types_of_slots (by simpa [Array.setIfInBounds, inside] using types) slots

end TypeIndex

end WebForms
