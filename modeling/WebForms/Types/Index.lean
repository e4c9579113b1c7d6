import Std.Data.HashMap
import WebForms.Types.Definition

/-!
# Type indexes

An index holds type definitions in the order in which their names first appeared. Names are
looked up with letter case ignored, and a later definition takes the place of an earlier one of
the same name.

## Main definitions

* `TypeIndex.add`, `TypeIndex.addAll`, `TypeIndex.merge` — building an index
* `TypeIndex.find?`, `TypeIndex.inNamespace` — looking types up
* `TypeIndex.baseTypes`, `TypeIndex.chain`, `TypeIndex.isSubclass` — the inheritance chain
-/

namespace WebForms

/-- The name under which a type is looked up. -/
def TypeDefinition.key (t : TypeDefinition) : String := t.fullName.toLower

/-- Without definitions there are no places. -/
theorem getElem?_slots_empty_iff {key : String} {i : Nat} :
    ({} : Std.HashMap String Nat)[key]? = some i ↔
      ∃ t, (#[] : Array TypeDefinition)[i]? = some t ∧ t.key = key := by
  simp

/-- Type definitions in order, and for each key the place of the type that has it. -/
structure TypeIndex where
  types : Array TypeDefinition := #[]
  slots : Std.HashMap String Nat := {}
  slots_iff : ∀ {key : String} {i : Nat},
    slots[key]? = some i ↔ ∃ t, types[i]? = some t ∧ t.key = key := by
    exact @getElem?_slots_empty_iff

namespace TypeIndex

instance : Inhabited TypeIndex := ⟨{}⟩

/-- Puts a definition in the place of the one that has the same key. -/
def replace (ix : TypeIndex) (t : TypeDefinition) (slot : Nat)
    (h : ix.slots[t.key]? = some slot) : TypeIndex where
  types := ix.types.setIfInBounds slot t
  slots := ix.slots
  slots_iff {key i} := by
    obtain ⟨old, hold, hkey⟩ := ix.slots_iff.1 h
    rw [ix.slots_iff, Array.getElem?_setIfInBounds]
    by_cases hi : slot = i
    · subst hi
      obtain ⟨hlt, hget⟩ := Array.getElem?_eq_some_iff.1 hold
      simp [hlt, hget, hkey]
    · simp [hi]

/-- Adds a definition with a new key at the end. -/
def push (ix : TypeIndex) (t : TypeDefinition) (h : ix.slots[t.key]? = none) : TypeIndex where
  types := ix.types.push t
  slots := ix.slots.insert t.key ix.types.size
  slots_iff {key i} := by
    rw [Std.HashMap.getElem?_insert, Array.getElem?_push]
    by_cases hk : t.key = key
    · subst hk
      have hnot (i : Nat) (u : TypeDefinition) (hu : ix.types[i]? = some u) :
          u.key ≠ t.key := fun hkey => by
        rw [ix.slots_iff.2 ⟨u, hu, hkey⟩] at h
        cases h
      by_cases hi : i = ix.types.size
      · simp [hi]
      · simpa [hi, Ne.symm hi] using hnot i
    · by_cases hi : i = ix.types.size
      · subst hi
        simp [hk, ix.slots_iff]
      · simp [hk, hi, ix.slots_iff]

/-- Adds a definition, in place of one of the same name if there is one. -/
def add (ix : TypeIndex) (t : TypeDefinition) : TypeIndex :=
  match h : ix.slots[t.key]? with
  | some slot => ix.replace t slot h
  | none => ix.push t h

/-- Adds definitions in turn. -/
def addAll (ix : TypeIndex) (ts : List TypeDefinition) : TypeIndex := ts.foldl add ix

/-- The index of definitions added in turn. -/
def ofList (ts : List TypeDefinition) : TypeIndex := addAll {} ts

/-- Adds the definitions of another index. -/
def merge (ix other : TypeIndex) : TypeIndex := ix.addAll other.types.toList

/-- The number of types. -/
def size (ix : TypeIndex) : Nat := ix.types.size

/-- The type with that full name. -/
def find? (ix : TypeIndex) (fullName : String) : Option TypeDefinition := do
  ix.types[← ix.slots[fullName.toLower]?]?

theorem find?_eq_some_iff {ix : TypeIndex} {name : String} {t : TypeDefinition} :
    ix.find? name = some t ↔ t ∈ ix.types ∧ Text.sameName t.fullName name = true := by
  rw [Text.sameName_iff, Array.mem_iff_getElem?]
  constructor
  · intro h
    obtain ⟨i, hi, ht⟩ := Option.bind_eq_some_iff.1 h
    obtain ⟨u, hu, hkey⟩ := ix.slots_iff.1 hi
    rw [ht] at hu
    exact ⟨⟨i, ht⟩, Option.some.inj hu ▸ hkey⟩
  · rintro ⟨⟨i, hi⟩, hname⟩
    exact Option.bind_eq_some_iff.2 ⟨i, ix.slots_iff.2 ⟨t, hi, hname⟩, hi⟩

/-- The type of that name in a namespace. -/
def findIn? (ix : TypeIndex) (space name : String) : Option TypeDefinition :=
  ix.find? (qualifiedName space name)

/-- The types of a namespace. -/
def inNamespace (ix : TypeIndex) (space : String) : List TypeDefinition :=
  ix.types.toList.filter (Text.sameName ·.space space)

/-- The number of base types that are followed, so that cyclic definitions come to an end. -/
def maxDepth : Nat := 64

/-- At most `n` types, beginning with the one named `base` and going on with base types. -/
def ancestors (ix : TypeIndex) : Nat → Option String → List TypeDefinition
  | 0, _ => []
  | _ + 1, none => []
  | n + 1, some base =>
    match ix.find? base with
    | none => []
    | some t => t :: ix.ancestors n t.baseType

/-- The base types of `t`, nearest first. -/
def baseTypes (ix : TypeIndex) (t : TypeDefinition) : List TypeDefinition :=
  ix.ancestors maxDepth t.baseType

/-- The type and its base types, nearest first. -/
def chain (ix : TypeIndex) (t : TypeDefinition) : List TypeDefinition := t :: ix.baseTypes t

/-- The type or one of its base types has that full name. -/
def isSubclass (ix : TypeIndex) (t : TypeDefinition) (fullName : String) : Bool :=
  (ix.chain t).any (Text.sameName ·.fullName fullName)

theorem length_ancestors_le (ix : TypeIndex) (n : Nat) (base : Option String) :
    (ix.ancestors n base).length ≤ n := by
  induction n generalizing base with
  | zero => simp [ancestors]
  | succ n ih =>
    cases base with
    | none => simp [ancestors]
    | some b =>
      unfold ancestors
      cases h : ix.find? b with
      | none => simp
      | some t => simpa using ih t.baseType

end TypeIndex

end WebForms
