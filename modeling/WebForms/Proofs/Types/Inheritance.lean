import Mathlib.Data.Set.Card
import Mathlib.Logic.Relation
import WebForms.Proofs.Text.LetterCase
import WebForms.Proofs.Types.Merging

/-!
# Inheritance

Each type has one base type at most, so that the types above it form a single line, which may run
into a circle. The base types are the first 64 places of this line, whatever they hold. Once a
type comes a second time nothing new follows, and before that each place holds another type: as
long as no more than 64 types can be reached, all of them are listed before the line is cut,
nearest first, and to derive from a type is to reach it.

## Main definitions

* `TypeIndex.base?`, `TypeIndex.above?` — the base type, and the type a number of steps above
* `TypeIndex.Reaches` — a type is reached by following base types
* `TypeIndex.ReachesFew` — no more types are reached than base types are followed
* `TypeIndex.NearestFirst` — the types that are reached, each once and nearest first

## Main results

* `TypeIndex.encard_reaches_le_size` — no more types are reached than there are
* `TypeIndex.isSubclass_is_reachability` — base types and derivation in terms of what is reached
-/

namespace WebForms

namespace TypeIndex

variable {ix : TypeIndex} {t u v : TypeDefinition} {front : List TypeDefinition} {name : String}

/-! ### The types above a type -/

/-- The base type of `t`, if the index has a type of that name. -/
def base? (ix : TypeIndex) (t : TypeDefinition) : Option TypeDefinition :=
  t.baseType.bind ix.find?

/-- The type `n` steps above. -/
def above? (ix : TypeIndex) : Nat → TypeDefinition → Option TypeDefinition
  | 0, t => some t
  | n + 1, t => (ix.base? t).bind (ix.above? n)

/-- `u` is reached from `t` by following base types, one or more times. -/
def Reaches (ix : TypeIndex) : TypeDefinition → TypeDefinition → Prop :=
  Relation.TransGen fun t u => ix.base? t = some u

theorem above?_of_base? (n : Nat) (h : ix.base? t = some u) :
    ix.above? (n + 1) t = ix.above? n u := by
  rw [above?, h, Option.bind_some]

/-- The next type above is the base type of the one before. -/
theorem above?_succ (n : Nat) (t : TypeDefinition) :
    ix.above? (n + 1) t = (ix.above? n t).bind ix.base? := by
  induction n generalizing t with
  | zero => simp [above?]
  | succ n ih =>
    cases step : ix.base? t with
    | none => simp [above?, step]
    | some u => rw [above?_of_base? _ step, ih, above?_of_base? _ step]

theorem reaches_iff : ix.Reaches t u ↔ ∃ n, ix.above? (n + 1) t = some u := by
  constructor
  · intro h
    induction h with
    | single step => exact ⟨0, by simp [above?, step]⟩
    | tail _ step ih =>
      obtain ⟨n, hn⟩ := ih
      exact ⟨n + 1, by rw [above?_succ, hn, Option.bind_some, step]⟩
  · rintro ⟨n, hn⟩
    induction n generalizing u with
    | zero => exact .single (by simpa [above?] using hn)
    | succ n ih =>
      rw [above?_succ] at hn
      obtain ⟨v, hv, step⟩ := Option.bind_eq_some_iff.mp hn
      exact .tail (ih hv) step

theorem Reaches.mem_types (h : ix.Reaches t u) : u ∈ ix.types := by
  have last : ∃ w, ix.base? w = some u := by
    cases h with
    | single step => exact ⟨_, step⟩
    | tail _ step => exact ⟨_, step⟩
  obtain ⟨w, step⟩ := last
  obtain ⟨base, -, found⟩ := Option.bind_eq_some_iff.mp step
  exact mem_of_find? found

/-! ### The base types -/

theorem ancestors_succ (n : Nat) (t : TypeDefinition) :
    ix.ancestors (n + 1) t.baseType =
      match ix.base? t with
      | none => []
      | some u => u :: ix.ancestors n u.baseType := by
  cases base : t.baseType with
  | none => simp [ancestors, base?, base]
  | some b =>
    cases found : ix.find? b with
    | none => simp [ancestors, base?, base, found]
    | some u => simp [ancestors, base?, base, found]

/-- Ancestors are what stands above, up to their number. -/
theorem getElem?_ancestors (n k : Nat) (t : TypeDefinition) :
    (ix.ancestors n t.baseType)[k]? = if k < n then ix.above? (k + 1) t else none := by
  induction n generalizing k t with
  | zero => simp [ancestors]
  | succ n ih =>
    rw [ancestors_succ]
    cases base : ix.base? t with
    | none => simp [above?, base]
    | some u =>
      cases k with
      | zero => simp [above?, base]
      | succ k =>
        rw [List.getElem?_cons_succ, ih, above?_of_base? _ base]
        simp only [Nat.add_lt_add_iff_right]

theorem getElem?_baseTypes (ix : TypeIndex) (k : Nat) (t : TypeDefinition) :
    (ix.baseTypes t)[k]? = if k < 64 then ix.above? (k + 1) t else none :=
  getElem?_ancestors 64 k t

theorem above?_eq_getElem? {k : Nat} (hk : k < 64) (t : TypeDefinition) :
    ix.above? (k + 1) t = (ix.baseTypes t)[k]? := by
  rw [getElem?_baseTypes, if_pos hk]

theorem length_baseTypes_le (ix : TypeIndex) (t : TypeDefinition) :
    (ix.baseTypes t).length ≤ 64 :=
  ix.length_ancestors_le 64 t.baseType

theorem reaches_of_mem_baseTypes (h : u ∈ ix.baseTypes t) : ix.Reaches t u := by
  obtain ⟨k, hk⟩ := List.mem_iff_getElem?.mp h
  rw [getElem?_baseTypes] at hk
  split at hk
  · exact reaches_iff.mpr ⟨k, hk⟩
  · cases hk

/-! ### Up to the first repetition -/

/-- A list is divided where an item comes for the second time. -/
theorem exists_nodup_front {α : Type} (items : List α) :
    ∃ front rest, items = front ++ rest ∧ front.Nodup ∧ ∀ a ∈ rest.head?, a ∈ front := by
  induction items using List.reverseRecOn with
  | nil => exact ⟨[], [], rfl, .nil, nofun⟩
  | append_singleton items a ih =>
    obtain ⟨front, rest, rfl, distinct, repeated⟩ := ih
    cases rest with
    | cons b rest => exact ⟨front, b :: rest ++ [a], by simp, distinct, repeated⟩
    | nil =>
      by_cases known : a ∈ front
      · exact ⟨front, [a], by simp, distinct, by simpa using known⟩
      · refine ⟨front ++ [a], [], by simp, ?_, nofun⟩
        exact distinct.append (List.nodup_singleton a) (by simpa using known)

/-- Where the line ends or comes back to a type before it is cut, there is nothing new behind. -/
theorem mem_front_of_above? {rest : List TypeDefinition}
    (split : ix.baseTypes t = front ++ rest) (short : front.length < 64)
    (repeated : ∀ u ∈ rest.head?, u ∈ front) {n : Nat} (h : ix.above? (n + 1) t = some u) :
    u ∈ front := by
  have next {k : Nat} {w : TypeDefinition} (hk : k ≤ front.length)
      (hw : ix.above? (k + 1) t = some w) : w ∈ front := by
    rw [above?_eq_getElem? (by omega), split] at hw
    rcases hk.lt_or_eq with inside | rfl
    · rw [List.getElem?_append_left inside] at hw
      exact List.mem_of_getElem? hw
    · rw [List.getElem?_append_right le_rfl, Nat.sub_self, ← List.head?_eq_getElem?] at hw
      exact repeated w hw
  -- The type before is in front, so that the line goes on as behind its place there.
  induction n generalizing u with
  | zero => exact next (Nat.zero_le _) h
  | succ n ih =>
    rw [above?_succ] at h
    obtain ⟨v, hv, step⟩ := Option.bind_eq_some_iff.mp h
    obtain ⟨k, hk⟩ := List.mem_iff_getElem?.mp (ih hv)
    obtain ⟨inside, -⟩ := List.getElem?_eq_some_iff.mp hk
    have again : ix.above? (k + 1) t = some v := by
      rw [above?_eq_getElem? (by omega), split, List.getElem?_append_left inside, hk]
    exact next inside (by rw [above?_succ, again, Option.bind_some, step])

/-- No more types are reached than base types are followed. -/
def ReachesFew (ix : TypeIndex) (t : TypeDefinition) : Prop :=
  {u | ix.Reaches t u}.encard ≤ 64

/-- No more types are reached than there are. -/
theorem encard_reaches_le_size (ix : TypeIndex) (t : TypeDefinition) :
    {u | ix.Reaches t u}.encard ≤ ix.size := by
  have within : {u | ix.Reaches t u} ⊆ (ix.types.toList.toFinset : Set TypeDefinition) := by
    intro u hu
    simpa using Reaches.mem_types hu
  calc {u | ix.Reaches t u}.encard
      ≤ (ix.types.toList.toFinset : Set TypeDefinition).encard := Set.encard_le_encard within
    _ = ix.types.toList.toFinset.card := Set.encard_coe_eq_coe_finsetCard _
    _ ≤ ix.size := by exact_mod_cast ix.types.toList.toFinset_card_le

/-- If the line is cut before it repeats, the types in front are as many as can be reached. -/
theorem mem_front_of_reaches {rest : List TypeDefinition} (few : ix.ReachesFew t)
    (split : ix.baseTypes t = front ++ rest) (distinct : front.Nodup)
    (repeated : ∀ u ∈ rest.head?, u ∈ front) (h : ix.Reaches t u) : u ∈ front := by
  rcases Nat.lt_or_ge front.length 64 with short | long
  · obtain ⟨n, hn⟩ := reaches_iff.mp h
    exact mem_front_of_above? split short repeated hn
  · have within : (front.toFinset : Set TypeDefinition) ⊆ {u | ix.Reaches t u} := by
      intro w hw
      refine reaches_of_mem_baseTypes ?_
      rw [split]
      exact List.mem_append_left _ (by simpa using hw)
    have many : {u | ix.Reaches t u}.encard ≤ (front.toFinset : Set TypeDefinition).encard := by
      rw [Set.encard_coe_eq_coe_finsetCard, List.toFinset_card_of_nodup distinct]
      exact few.trans (by exact_mod_cast long)
    have all := front.toFinset.finite_toSet.eq_of_subset_of_encard_le within many
    have mem : u ∈ (front.toFinset : Set TypeDefinition) := all ▸ h
    simpa using mem

/-! ### Base types and derivation as what is reached -/

/-- The types that are reached from `t`, each of them once and each before those that are reached in
more steps only. -/
structure NearestFirst (ix : TypeIndex) (t : TypeDefinition) (us : List TypeDefinition) :
    Prop where
  nodup : us.Nodup
  mem_iff : ∀ u, u ∈ us ↔ ix.Reaches t u
  nearest : ∀ i u, us[i]? = some u →
    ix.above? (i + 1) t = some u ∧ ∀ n, 0 < n → n ≤ i → ix.above? n t ≠ some u

/-- Base types are the types that are reached, and to derive from a type is to reach one of its
name or to have its name. -/
structure ListsReached (ix : TypeIndex) (t : TypeDefinition) : Prop where
  baseTypes : ∃ front repeated, ix.baseTypes t = front ++ repeated ∧ ix.NearestFirst t front ∧
    ∀ u ∈ repeated, u ∈ front
  mem_iff : ∀ u, u ∈ ix.baseTypes t ↔ ix.Reaches t u
  isSubclass_iff : ∀ name, ix.isSubclass t name = true ↔
    ∃ u, (u = t ∨ ix.Reaches t u) ∧ Text.sameName u.fullName name = true

theorem isSubclass_iff_mem :
    ix.isSubclass t name = true ↔
      ∃ u, (u = t ∨ u ∈ ix.baseTypes t) ∧ Text.sameName u.fullName name = true := by
  simp only [isSubclass, chain, List.any_eq_true, List.mem_cons]

/-- Where different types stand in front and these are all that can be reached, they stand there
nearest first. -/
theorem nearestFirst_front {rest : List TypeDefinition} (split : ix.baseTypes t = front ++ rest)
    (distinct : front.Nodup) (mem_iff : ∀ u, u ∈ front ↔ ix.Reaches t u) :
    ix.NearestFirst t front := by
  have total : front.length ≤ 64 := by
    have bound := ix.length_baseTypes_le t
    rw [split, List.length_append] at bound
    omega
  have place (i : Nat) (hi : i < front.length) : ix.above? (i + 1) t = front[i]? := by
    rw [above?_eq_getElem? (by omega), split, List.getElem?_append_left hi]
  refine ⟨distinct, mem_iff, fun i u hi => ?_⟩
  obtain ⟨inside, -⟩ := List.getElem?_eq_some_iff.mp hi
  refine ⟨by rw [place i inside, hi], fun n positive before here => ?_⟩
  -- The same type would stand at two places in front.
  obtain ⟨k, rfl⟩ := Nat.exists_eq_add_one.mpr positive
  rw [place k (by omega)] at here
  have apart := (List.nodup_iff_getElem?_ne_getElem?.mp distinct) k i (by omega) inside
  exact apart (here.trans hi.symm)

theorem ReachesFew.listsReached (few : ix.ReachesFew t) : ix.ListsReached t := by
  obtain ⟨front, rest, split, distinct, repeated⟩ := exists_nodup_front (ix.baseTypes t)
  have within : front ⊆ ix.baseTypes t := split ▸ List.subset_append_left front rest
  have all {u : TypeDefinition} (h : ix.Reaches t u) : u ∈ front :=
    mem_front_of_reaches few split distinct repeated h
  have listed (u : TypeDefinition) : u ∈ ix.baseTypes t ↔ ix.Reaches t u :=
    ⟨reaches_of_mem_baseTypes, fun h => within (all h)⟩
  have nearest : ix.NearestFirst t front :=
    nearestFirst_front split distinct fun u => ⟨fun h => (listed u).mp (within h), all⟩
  refine ⟨⟨front, rest, split, nearest, fun u hu => all ((listed u).mp ?_)⟩, listed, fun name => ?_⟩
  · rw [split]
    exact List.mem_append_right _ hu
  · simp only [isSubclass_iff_mem, listed]

/-- What a base type derives from, the type derives from too. -/
theorem isSubclass_trans (few : ix.ReachesFew t) (ht : t ∈ ix.types) (hu : u ∈ ix.types)
    (first : ix.isSubclass t u.fullName = true) (second : ix.isSubclass u name = true) :
    ix.isSubclass t name = true := by
  have lists := few.listsReached
  obtain ⟨w, reached, same⟩ := (lists.isSubclass_iff _).mp first
  have mem : w ∈ ix.types := reached.elim (fun h => h ▸ ht) Reaches.mem_types
  obtain rfl : w = u := eq_of_key_eq mem hu (Text.sameName_iff.mp same)
  obtain ⟨v, further, named⟩ := isSubclass_iff_mem.mp second
  refine (lists.isSubclass_iff name).mpr ⟨v, ?_, named⟩
  rcases reached with rfl | reached
  · exact further.imp_right reaches_of_mem_baseTypes
  · rcases further with rfl | further
    · exact .inr reached
    · exact .inr (reached.trans (reaches_of_mem_baseTypes further))

/-- A type derives from itself. -/
theorem isSubclass_self (ix : TypeIndex) (t : TypeDefinition) :
    ix.isSubclass t t.fullName = true :=
  isSubclass_iff_mem.mpr ⟨t, .inl rfl, Text.sameName_self _⟩

/-- The base types of a type from which no more than 64 types are reached are the types that are
reached, in whatever way these run into circles, and it derives from these and from itself. Among
types of the index derivation is transitive, and no more than 64 base types are listed in any
case. -/
theorem isSubclass_is_reachability (ix : TypeIndex) :
    (∀ t, (ix.baseTypes t).length ≤ 64) ∧
      (∀ t, ix.ReachesFew t → ix.ListsReached t) ∧
      (∀ t, ix.isSubclass t t.fullName = true) ∧
      ∀ t ∈ ix.types, ∀ u ∈ ix.types, ix.ReachesFew t → ∀ name,
        ix.isSubclass t u.fullName = true → ix.isSubclass u name = true →
          ix.isSubclass t name = true := by
  refine ⟨ix.length_baseTypes_le, fun t few => few.listsReached, ix.isSubclass_self, ?_⟩
  intro t ht u hu few name first second
  exact isSubclass_trans few ht hu first second

/-! ### A circle of two types -/

/-- A type above which there is a circle. -/
def gridDefinition : TypeDefinition :=
  { space := "Kit", name := "Grid", baseType := some "Kit.List" }

/-- The type by which the circle is entered. -/
def listDefinition : TypeDefinition :=
  { space := "Kit", name := "List", baseType := some "Kit.Table" }

/-- The other type of the circle. -/
def tableDefinition : TypeDefinition :=
  { space := "Kit", name := "Table", baseType := some "Kit.List" }

/-- The index of these types. -/
def circleIndex : TypeIndex := ofList [gridDefinition, listDefinition, tableDefinition]

theorem base?_gridDefinition : circleIndex.base? gridDefinition = some listDefinition := by
  refine Option.bind_eq_some_iff.mpr ⟨"Kit.List", rfl, ?_⟩
  rw [circleIndex, find?_ofList]
  decide +kernel

theorem base?_listDefinition : circleIndex.base? listDefinition = some tableDefinition := by
  refine Option.bind_eq_some_iff.mpr ⟨"Kit.Table", rfl, ?_⟩
  rw [circleIndex, find?_ofList]
  decide +kernel

theorem reachesFew_circleIndex (t : TypeDefinition) : circleIndex.ReachesFew t := by
  have size : circleIndex.size = 3 := by
    rw [circleIndex, size_ofList]
    decide +kernel
  refine (encard_reaches_le_size circleIndex t).trans ?_
  rw [size]
  exact_mod_cast (by decide : 3 ≤ 64)

/-- The type below the circle derives from both types of the circle, from the second one because the
first one does. -/
theorem isSubclass_is_reachability_circle :
    (circleIndex.ReachesFew gridDefinition ∧ circleIndex.ListsReached gridDefinition) ∧
      (gridDefinition ∈ circleIndex.types ∧ listDefinition ∈ circleIndex.types ∧
        circleIndex.isSubclass gridDefinition listDefinition.fullName = true ∧
        circleIndex.isSubclass listDefinition "KIT.TABLE" = true) ∧
      circleIndex.isSubclass gridDefinition "KIT.TABLE" = true := by
  obtain ⟨-, lists, -, trans⟩ := isSubclass_is_reachability circleIndex
  have few := reachesFew_circleIndex
  have found : circleIndex.find? "Kit.Grid" = some gridDefinition := by
    rw [circleIndex, find?_ofList]
    decide +kernel
  have grid_mem : gridDefinition ∈ circleIndex.types := mem_of_find? found
  have list_mem : listDefinition ∈ circleIndex.types :=
    Reaches.mem_types (.single base?_gridDefinition)
  have grid_list : circleIndex.isSubclass gridDefinition listDefinition.fullName = true :=
    ((lists _ (few _)).isSubclass_iff _).mpr
      ⟨listDefinition, .inr (.single base?_gridDefinition), Text.sameName_self _⟩
  have named : Text.sameName tableDefinition.fullName "KIT.TABLE" = true := by
    have full : tableDefinition.fullName = "Kit.Table" := by decide +kernel
    simp [full, Text.sameName_iff, ← String.toList_inj, Text.toList_toLower]
  have list_table : circleIndex.isSubclass listDefinition "KIT.TABLE" = true :=
    ((lists _ (few _)).isSubclass_iff _).mpr
      ⟨tableDefinition, .inr (.single base?_listDefinition), named⟩
  exact ⟨⟨few _, lists _ (few _)⟩, ⟨grid_mem, list_mem, grid_list, list_table⟩,
    trans _ grid_mem _ list_mem (few _) _ grid_list list_table⟩

end TypeIndex

end WebForms
