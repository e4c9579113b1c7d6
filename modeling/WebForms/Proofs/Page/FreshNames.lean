import WebForms.Page.CodeBehind
import WebForms.Proofs.Text.LetterCase
import WebForms.Proofs.Types.Inheritance

/-!
# Free names

A new member of the class behind a page needs a name that no member and no field has. The name that
is proposed is taken as it is if it is free, and else with the least number behind it that makes it
so.

Names with different numbers are different in any letter case, since digits are no letters. One of
them is therefore free, whatever the number from which they are counted, as soon as there are more
of them than names in use: the search, which tries as many numbers, does not run out of them.

The search may as well be thought of without a bound. It comes to an end all the same, since each
name that it passes over belongs to another member, and a member counts once, even if the types
above the class run into a circle.

## Main definitions

* `TypeDefinition.Declares` — a member of the type has the name
* `CodeBehind.IsFree` — no member of the class or of a type above it has the name, and no field
* `CodeBehind.IsLeastFree` — the name is free, and with the least number if it needs one
* `CodeBehind.Finds` — the search without a bound, step by step

## Main results

* `CodeBehind.exists_free` — one of enough numbers makes a name free
* `CodeBehind.exists_freshFrom` — the search finds the least one
* `CodeBehind.isFree_freshName` — the name that is found is free
* `CodeBehind.freshName_is_least` — it is the least one, and the search without a bound ends with it
-/

namespace WebForms

/-! ### Numbered names -/

namespace Text

theorem isAlpha_of_isDigit {c : Char} (digit : c.isDigit = true) : c.isAlpha = false := by
  have code : 48 ≤ c.toNat ∧ c.toNat ≤ 57 := by
    simpa [Char.isDigit, UInt32.le_iff_toNat_le] using digit
  have apart : ¬ (65 ≤ c.toNat ∧ c.toNat ≤ 90) ∧ ¬ (97 ≤ c.toNat ∧ c.toNat ≤ 122) := by omega
  simpa [Char.isAlpha, Char.isUpper, Char.isLower, UInt32.le_iff_toNat_le] using apart

/-- Numbers have no letters. -/
theorem toLower_toString (n : Nat) : (toString n).toLower = toString n := by
  refine toLower_eq_self fun c hc => isAlpha_of_isDigit ?_
  rw [Nat.toString_eq_repr, Nat.toList_repr] at hc
  exact Nat.isDigit_of_mem_toDigits (by decide) (by decide) hc

/-- Different numbers behind a name make different names in any letter case. -/
theorem toLower_numbered_inj {base : String} {m n : Nat} :
    (base ++ toString m).toLower = (base ++ toString n).toLower ↔ m = n := by
  rw [toLower_append, toLower_append, toLower_toString, toLower_toString, String.append_right_inj]
  exact ⟨fun h => Nat.repr_injective h, fun h => h ▸ rfl⟩

end Text

/-! ### Names in use -/

/-- A method, property, field or event of the type has the name, whatever its letter case. -/
def TypeDefinition.Declares (t : TypeDefinition) (name : String) : Prop :=
  (∃ m ∈ t.methods, Text.sameName m.name name = true) ∨
    (∃ p ∈ t.properties, Text.sameName p.name name = true) ∨
    (∃ f ∈ t.fields, Text.sameName f.name name = true) ∨
    ∃ e ∈ t.events, Text.sameName e.name name = true

theorem TypeDefinition.any_memberNames_eq_false_iff {t : TypeDefinition} {name : String} :
    t.memberNames.any (Text.sameName · name) = false ↔ ¬ t.Declares name := by
  simp [Declares, memberNames]

namespace CodeBehind

variable {c : CodeBehind} {ix : TypeIndex} {name base : String} {taken : List String}

/-- Neither the class nor any of its base types declares the name, nor does a type that is reached
from it as long as there are no more of these than base types are followed, and no field of the page
has the name. -/
structure IsFree (c : CodeBehind) (ix : TypeIndex) (name : String) : Prop where
  members : ∀ t ∈ ix.chain c.type, ¬ t.Declares name
  reached : ix.ReachesFew c.type → ∀ t, ix.Reaches c.type t → ¬ t.Declares name
  fields : ∀ f ∈ c.fields, Text.sameName f.name name = false

theorem isTaken_eq_false_iff : c.isTaken ix name = false ↔ c.IsFree ix name := by
  have unused : c.isTaken ix name = false ↔ (∀ t ∈ ix.chain c.type, ¬ t.Declares name) ∧
      ∀ f ∈ c.fields, Text.sameName f.name name = false := by
    rw [isTaken, takenNames, List.any_append, Bool.or_eq_false_iff, List.any_flatMap, List.any_map,
      List.any_eq_false, List.any_eq_false]
    simp only [Bool.not_eq_true, TypeDefinition.any_memberNames_eq_false_iff, Function.comp_apply]
  rw [unused]
  constructor
  · rintro ⟨members, fields⟩
    refine ⟨members, fun few t reached => members t ?_, fields⟩
    exact List.mem_cons_of_mem _ ((few.listsReached.mem_iff t).mpr reached)
  · intro free
    exact ⟨free.members, free.fields⟩

/-! ### Counting on -/

/-- Different names that are all in use are no more than the names in use. -/
theorem length_le_of_used {names : List String} (distinct : (names.map String.toLower).Nodup)
    (used : ∀ name ∈ names, taken.any (Text.sameName · name) = true) :
    names.length ≤ taken.length := by
  have within : names.map String.toLower ⊆ taken.map String.toLower := by
    intro lower h
    obtain ⟨name, hn, rfl⟩ := List.mem_map.mp h
    obtain ⟨s, hs, same⟩ := List.any_eq_true.mp (used name hn)
    exact List.mem_map.mpr ⟨s, hs, Text.sameName_iff.mp same⟩
  have few := (List.subperm_of_subset distinct within).length_le
  rwa [List.length_map, List.length_map] at few

/-- Of one number more than there are names in use, one makes the name free. -/
theorem exists_free (taken : List String) (base : String) (n : Nat) :
    ∃ k, (n ≤ k ∧ k ≤ n + taken.length) ∧
      taken.any (Text.sameName · (base ++ toString k)) = false := by
  by_contra none
  -- All these names would be in use, and they are different.
  have distinct : (((List.range' n (taken.length + 1)).map fun k => base ++ toString k).map
      String.toLower).Nodup := by
    rw [List.map_map]
    exact List.Nodup.map (fun _ _ => Text.toLower_numbered_inj.mp) List.nodup_range'
  have few := length_le_of_used distinct fun name h => by
    obtain ⟨k, hk, rfl⟩ := List.mem_map.mp h
    rw [List.mem_range'_1] at hk
    by_contra free
    exact none ⟨k, ⟨hk.1, by omega⟩, by simpa using free⟩
  rw [List.length_map, List.length_range'] at few
  omega

/-- The search passes over the numbers that do not make the name free. -/
theorem freshFrom_eq {tries n k : Nat} (start : n ≤ k) (bound : k ≤ n + tries)
    (used : ∀ j, n ≤ j → j < k → taken.any (Text.sameName · (base ++ toString j)) = true)
    (free : taken.any (Text.sameName · (base ++ toString k)) = false) :
    freshFrom taken base tries n = base ++ toString k := by
  -- With each try the search counts on, and the least number stays within the tries that are left.
  induction tries generalizing n with
  | zero =>
    obtain rfl : n = k := by omega
    rfl
  | succ tries ih =>
    rw [freshFrom]
    split
    next found =>
      have other : n ≠ k := by
        rintro rfl
        rw [free] at found
        cases found
      exact ih (by omega) (by omega) fun j hj => used j (by omega)
    next missing =>
      have here : ¬ n < k := fun before => missing (used n le_rfl before)
      rw [show n = k by omega]

/-- With as many tries as there are names in use, the search finds the least number that makes the
name free. -/
theorem exists_freshFrom (taken : List String) (base : String) (n : Nat) :
    ∃ k, freshFrom taken base taken.length n = base ++ toString k ∧
      (n ≤ k ∧ k ≤ n + taken.length) ∧
      taken.any (Text.sameName · (base ++ toString k)) = false ∧
      ∀ j, n ≤ j → j < k → taken.any (Text.sameName · (base ++ toString j)) = true := by
  have least := Nat.find_spec (exists_free taken base n)
  have used (j : Nat) (start : n ≤ j)
      (before : j < Nat.find (exists_free taken base n)) :
      taken.any (Text.sameName · (base ++ toString j)) = true := by
    by_contra free
    refine Nat.find_min (exists_free taken base n) before ⟨⟨start, ?_⟩, by simpa using free⟩
    exact before.le.trans least.1.2
  exact ⟨_, freshFrom_eq least.1.1 least.1.2 used least.2, least.1, least.2, used⟩

/-! ### The first candidate that is free -/

/-- The names that are tried in turn: the proposed one, and the same with the numbers from one on.
-/
def candidate (base : String) : Nat → String
  | 0 => base
  | n + 1 => base ++ toString (n + 1)

/-- The name is free. It is the proposed one if that is free, and else has the least number, counted
from one, that makes it free. -/
structure IsLeastFree (c : CodeBehind) (ix : TypeIndex) (base name : String) : Prop where
  free : c.IsFree ix name
  unnumbered : c.IsFree ix base → name = base
  numbered : ¬ c.IsFree ix base → ∃ n, 1 ≤ n ∧ name = base ++ toString n ∧
    ∀ m, 1 ≤ m → m < n → ¬ c.IsFree ix (base ++ toString m)

theorem isTaken_eq_true_iff : c.isTaken ix name = true ↔ ¬ c.IsFree ix name := by
  rw [← isTaken_eq_false_iff, Bool.not_eq_false]

/-- The name that is found is the first candidate that is free. -/
theorem exists_freshName_eq (c : CodeBehind) (ix : TypeIndex) (base : String) :
    ∃ k, c.freshName ix base = candidate base k ∧
      c.isTaken ix (candidate base k) = false ∧
      ∀ j < k, c.isTaken ix (candidate base j) = true := by
  by_cases used : c.isTaken ix base = true
  · obtain ⟨k, found, ⟨start, -⟩, free, before⟩ := exists_freshFrom (c.takenNames ix) base 1
    obtain ⟨k, rfl⟩ := Nat.exists_eq_add_one.mpr start
    refine ⟨k + 1, ?_, free, fun j hj => ?_⟩
    · exact (if_pos used).trans found
    · cases j with
      | zero => exact used
      | succ j => exact before (j + 1) (by omega) hj
  · exact ⟨0, if_neg used, by simpa [candidate] using used, nofun⟩

/-- The name that is found is free. -/
theorem isFree_freshName (c : CodeBehind) (ix : TypeIndex) (base : String) :
    c.IsFree ix (c.freshName ix base) := by
  obtain ⟨k, found, free, -⟩ := c.exists_freshName_eq ix base
  rw [found]
  exact isTaken_eq_false_iff.mp free

/-- The first candidate that is free has the least number, if it has one. -/
theorem isLeastFree_candidate {k : Nat} (free : c.isTaken ix (candidate base k) = false)
    (used : ∀ j < k, c.isTaken ix (candidate base j) = true) :
    c.IsLeastFree ix base (candidate base k) := by
  have isFree : c.IsFree ix (candidate base k) := isTaken_eq_false_iff.mp free
  cases k with
  | zero => exact ⟨isFree, fun _ => rfl, fun inUse => absurd isFree inUse⟩
  | succ k =>
    have inUse : ¬ c.IsFree ix base := isTaken_eq_true_iff.mp (used 0 k.succ_pos)
    refine ⟨isFree, fun unused => absurd unused inUse, fun _ => ⟨k + 1, k.succ_pos, rfl, ?_⟩⟩
    intro m start before
    obtain ⟨m, rfl⟩ := Nat.exists_eq_add_one.mpr start
    exact isTaken_eq_true_iff.mp (used (m + 1) before)

/-! ### The search without a bound -/

/-- The names of all members of the class and of the types above it, and of the fields of the page.
Each type comes once, however often it stands in the line of base types. -/
def namesOfMembers (c : CodeBehind) (ix : TypeIndex) : List String :=
  (ix.chain c.type).dedup.flatMap TypeDefinition.memberNames ++ c.fields.map (·.name)

/-- The number of members and fields. -/
def memberCount (c : CodeBehind) (ix : TypeIndex) : Nat := (c.namesOfMembers ix).length

/-- The search that has come to the candidate of number `n` tests `steps` names from there on and
ends with `name`. Nothing bounds it. -/
inductive Finds (c : CodeBehind) (ix : TypeIndex) (base : String) : Nat → Nat → String → Prop
  | here {n : Nat} (free : c.isTaken ix (candidate base n) = false) :
      c.Finds ix base n 1 (candidate base n)
  | further {n steps : Nat} {name : String} (used : c.isTaken ix (candidate base n) = true)
      (rest : c.Finds ix base (n + 1) steps name) : c.Finds ix base n (steps + 1) name

/-- Different candidates are different in any letter case. -/
theorem toLower_candidate_inj {m n : Nat} :
    (candidate base m).toLower = (candidate base n).toLower ↔ m = n := by
  have apart (k : Nat) : base.toLower ≠ (base ++ toString (k + 1)).toLower := by
    rw [Text.toLower_append, Text.toLower_toString]
    intro same
    -- A number has at least one digit.
    have digits : toString (k + 1) = "" := String.append_eq_left_iff.mp same.symm
    simp at digits
  cases m with
  | zero =>
    cases n with
    | zero => simp
    | succ n => simpa [candidate] using apart n
  | succ m =>
    cases n with
    | zero => simpa [candidate] using (apart m).symm
    | succ n => exact Text.toLower_numbered_inj

/-- A name is in use if a member has it, for whatever place in the line its type is counted. -/
theorem isTaken_eq_any (c : CodeBehind) (ix : TypeIndex) (name : String) :
    c.isTaken ix name = (c.namesOfMembers ix).any (Text.sameName · name) := by
  rw [Bool.eq_iff_iff, isTaken, List.any_eq_true, List.any_eq_true]
  simp only [takenNames, namesOfMembers, List.mem_append, List.mem_flatMap, List.mem_dedup]

/-- There are no more candidates in use than members. -/
theorem le_memberCount {k : Nat} (used : ∀ j < k, c.isTaken ix (candidate base j) = true) :
    k ≤ c.memberCount ix := by
  have distinct : (((List.range k).map (candidate base)).map String.toLower).Nodup := by
    rw [List.map_map]
    exact List.Nodup.map (fun _ _ => toLower_candidate_inj.mp) List.nodup_range
  have few := length_le_of_used distinct fun name h => by
    obtain ⟨j, hj, rfl⟩ := List.mem_map.mp h
    rw [← isTaken_eq_any]
    exact used j (List.mem_range.mp hj)
  rwa [List.length_map, List.length_range] at few

/-- The search passes over the candidates that are in use. -/
theorem finds_of_least {k n : Nat} (start : n ≤ k)
    (free : c.isTaken ix (candidate base k) = false)
    (used : ∀ j, n ≤ j → j < k → c.isTaken ix (candidate base j) = true) :
    c.Finds ix base n (k - n + 1) (candidate base k) := by
  induction start using Nat.decreasingInduction with
  | self =>
    rw [Nat.sub_self]
    exact .here free
  | of_succ n before ih =>
    rw [show k - n = k - (n + 1) + 1 by omega]
    exact .further (used n le_rfl before) (ih fun j hj => used j (by omega))

/-- It ends in one way only. -/
theorem Finds.unique {n steps steps' : Nat} {name' : String} (h : c.Finds ix base n steps name)
    (h' : c.Finds ix base n steps' name') : steps = steps' ∧ name = name' := by
  induction h generalizing steps' with
  | here free =>
    cases h' with
    | here => exact ⟨rfl, rfl⟩
    | further used => rw [free] at used; cases used
  | further used _ ih =>
    cases h' with
    | here free => rw [used] at free; cases free
    | further _ rest =>
      obtain ⟨rfl, rfl⟩ := ih rest
      exact ⟨rfl, rfl⟩

/-- The search without a bound comes to an end, always with the name that is found, and tests one
name more than there are members at most. The name is the proposed one if that is free, and else the
one with the least number. -/
theorem freshName_is_least (c : CodeBehind) (ix : TypeIndex) (base : String) :
    c.IsLeastFree ix base (c.freshName ix base) ∧
      (∃ steps, c.Finds ix base 0 steps (c.freshName ix base)) ∧
      ∀ steps name, c.Finds ix base 0 steps name →
        name = c.freshName ix base ∧ steps ≤ c.memberCount ix + 1 := by
  obtain ⟨k, found, free, used⟩ := c.exists_freshName_eq ix base
  have finds := finds_of_least (Nat.zero_le k) free fun j _ => used j
  rw [found]
  refine ⟨isLeastFree_candidate free used, ⟨_, finds⟩, fun steps name h => ?_⟩
  obtain ⟨rfl, rfl⟩ := h.unique finds
  exact ⟨rfl, Nat.succ_le_succ (le_memberCount used)⟩

end CodeBehind

end WebForms
