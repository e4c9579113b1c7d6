import Mathlib.Data.List.Induction
import WebForms.Markup.AttributeSet
import WebForms.Proofs.Text.DistinctNames

/-!
# Attributes that are written more than once

The same attribute may be written again and again, each time in another letter case. What the first
writing of a name fixes is its place among the others and its spelling; what the last one fixes is
the value. Nothing else of what was written can be told from the set: names and values, looked up
in whatever spelling, say all about it, and so the list of writings determines it.

## Main definitions

* `AttributeSet.LastGiven` — the value that was given to a name last
* `AttributeSet.Records` — the set has the first spellings and the last values of what was written

## Main results

* `AttributeSet.get?_insert`, `AttributeSet.names_insert` — what one more attribute changes
* `AttributeSet.ext_of_distinct` — names and values say all about a set
* `AttributeSet.records_iff` — the set that records what was written is the one built by insertions
-/

namespace WebForms

namespace AttributeSet

variable {s t : AttributeSet} {es written : List (String × String)} {e : String × String}
  {name value key : String}

/-! ### One attribute more -/

theorem find?_insertEntry (name value key : String) (es : List (String × String)) :
    ((insertEntry name value es).find? fun e => Text.sameName e.1 key).map (·.2) =
      if Text.sameName name key then some value
      else (es.find? fun e => Text.sameName e.1 key).map (·.2) := by
  induction es with
  | nil =>
    rw [insertEntry, List.find?_singleton]
    cases Text.sameName name key <;> rfl
  | cons e es ih =>
    rw [insertEntry]
    by_cases same : Text.sameName e.1 name = true
    · -- The entry that is changed answers to the spellings of the new attribute, and no other does.
      have answers : Text.sameName e.1 key = Text.sameName name key := by
        rw [Text.sameName, Text.sameName, Text.sameName_iff.mp same]
      rw [if_pos same, List.find?_cons, List.find?_cons, answers]
      cases Text.sameName name key <;> rfl
    · rw [if_neg same, List.find?_cons, List.find?_cons]
      cases here : Text.sameName e.1 key with
      | false => exact ih
      | true =>
        have other : Text.sameName name key = false := by
          rw [Bool.eq_false_iff]
          intro asked
          apply same
          rw [Text.sameName_iff] at asked here ⊢
          exact here.trans asked.symm
        rw [other]
        rfl

/-- Under the name of the new attribute its value is found, under other names what was found
before. -/
theorem get?_insert (s : AttributeSet) (name value key : String) :
    (s.insert name value).get? key =
      if Text.sameName name key then some value else s.get? key :=
  find?_insertEntry name value key s.entries

theorem map_fst_insertEntry (name value : String) (es : List (String × String)) :
    (insertEntry name value es).map (·.1) = Text.keep id (es.map (·.1)) name := by
  induction es with
  | nil => rfl
  | cons e es ih =>
    by_cases same : Text.sameName e.1 name = true
    · rw [insertEntry, if_pos same, List.map_cons, List.map_cons, Text.keep_cons]
      exact (if_pos same).symm
    · rw [insertEntry, if_neg same, List.map_cons, List.map_cons, Text.keep_cons, ih]
      exact (if_neg same).symm

/-- A name stays as it was first written, and one that is new comes behind the others. -/
theorem names_insert (s : AttributeSet) (name value : String) :
    (s.insert name value).names = Text.keep id s.names name :=
  map_fst_insertEntry name value s.entries

/-! ### All attributes that were written -/

theorem ofList_concat (written : List (String × String)) (name value : String) :
    ofList (written ++ [(name, value)]) = (ofList written).insert name value :=
  List.foldl_concat _ _ _ _

/-- The names are the first ones in their spelling, in the order of their first writing. -/
theorem names_ofList (written : List (String × String)) :
    (ofList written).names = Text.distinctBy id (written.map (·.1)) := by
  rw [← Text.foldl_keep]
  induction written using List.reverseRecOn with
  | nil => rfl
  | append_singleton written e ih =>
    rw [ofList_concat, names_insert, ih, List.map_append, List.map_singleton, List.foldl_concat]

/-- Under a name in any spelling, what was written last is found. -/
theorem get?_ofList (written : List (String × String)) (name : String) :
    (ofList written).get? name =
      (written.reverse.find? fun e => Text.sameName e.1 name).map (·.2) := by
  induction written using List.reverseRecOn with
  | nil => rfl
  | append_singleton written e ih =>
    rw [ofList_concat, get?_insert, ih, List.reverse_concat, List.find?_cons]
    cases Text.sameName e.1 name <;> rfl

/-- Of all writings of the name, in whatever spelling, the last one gave it the value. -/
def LastGiven (written : List (String × String)) (name value : String) : Prop :=
  ∃ front spelling back, written = front ++ (spelling, value) :: back ∧
    Text.sameName spelling name = true ∧ ∀ e ∈ back, Text.sameName e.1 name = false

theorem get?_ofList_eq_some_iff :
    (ofList written).get? name = some value ↔ LastGiven written name value := by
  rw [get?_ofList, Option.map_eq_some_iff]
  simp only [List.find?_eq_some_iff_append, LastGiven]
  constructor
  · rintro ⟨⟨spelling, _⟩, ⟨same, back, front, split, others⟩, rfl⟩
    refine ⟨front.reverse, spelling, back.reverse, ?_, same, fun e he => ?_⟩
    · rw [← List.reverse_inj, split]
      simp
    · simpa using others e (List.mem_reverse.mp he)
  · rintro ⟨front, spelling, back, rfl, same, others⟩
    refine ⟨(spelling, value), ⟨same, back.reverse, front.reverse, by simp, fun e he => ?_⟩, rfl⟩
    simpa using others e (List.mem_reverse.mp he)

theorem get?_ofList_eq_none_iff :
    (ofList written).get? name = none ↔ ∀ e ∈ written, Text.sameName e.1 name = false := by
  rw [get?_ofList, Option.map_eq_none_iff, List.find?_eq_none]
  simp only [List.mem_reverse, Bool.not_eq_true]

/-! ### Names and values -/

/-- Among different names, an entry is found under its own. -/
theorem get?_of_mem (distinct : s.names.Pairwise fun m n => Text.sameName m n = false)
    (h : e ∈ s.entries) : s.get? e.1 = some e.2 := by
  obtain ⟨front, back, split⟩ := List.append_of_mem h
  have apart : ∀ d ∈ front, Text.sameName d.1 e.1 = false := by
    intro d hd
    rw [names, List.pairwise_map, split, List.pairwise_append] at distinct
    exact distinct.2.2 d hd e List.mem_cons_self
  have passed : (front.find? fun d => Text.sameName d.1 e.1) = none :=
    List.find?_eq_none.mpr fun d hd => Bool.not_eq_true _ ▸ apart d hd
  rw [get?, split, List.find?_append, passed, Option.none_or, List.find?_cons, Text.sameName_self]
  rfl

theorem map_some_entries (distinct : s.names.Pairwise fun m n => Text.sameName m n = false) :
    s.entries.map some = s.names.map fun name => (s.get? name).map (name, ·) := by
  rw [names, List.map_map]
  refine List.map_congr_left fun e he => ?_
  rw [Function.comp_apply, get?_of_mem distinct he]
  rfl

/-- Two sets with the same different names, under which the same values are found, are the same. -/
theorem ext_of_distinct (distinct : s.names.Pairwise fun m n => Text.sameName m n = false)
    (names : s.names = t.names) (values : ∀ name, s.get? name = t.get? name) : s = t := by
  have entries : s.entries = t.entries := by
    refine List.map_injective_iff.mpr (Option.some_injective _) ?_
    rw [map_some_entries distinct, map_some_entries (names ▸ distinct), names]
    simp only [values]
  cases s
  cases t
  cases entries
  rfl

/-- The set has the names that were written, each once in its first spelling and in the order of
their first writing, and under any spelling of a name the value that was given to it last. -/
structure Records (written : List (String × String)) (s : AttributeSet) : Prop where
  distinct : s.names.Pairwise fun m n => Text.sameName m n = false
  firsts : Text.FirstsOf id (written.map (·.1)) s.names
  found : ∀ name value, s.get? name = some value ↔ LastGiven written name value
  missing : ∀ name, s.get? name = none ↔ ∀ e ∈ written, Text.sameName e.1 name = false
  present : ∀ name, s.contains name = true ↔ ∃ e ∈ written, Text.sameName e.1 name = true

theorem records_ofList (written : List (String × String)) : (ofList written).Records written where
  distinct := by
    rw [names_ofList]
    exact Text.pairwise_distinctBy
  firsts := by
    rw [names_ofList]
    exact Text.firstsOf_distinctBy id _
  found _ _ := get?_ofList_eq_some_iff
  missing _ := get?_ofList_eq_none_iff
  present name := by
    rw [contains, ← Option.ne_none_iff_isSome, ne_eq, get?_ofList_eq_none_iff]
    simp

/-- Whatever attributes are inserted in turn, the set has their first spellings in the order of
their first writing, and their last values; and no other set has these. -/
theorem records_iff (written : List (String × String)) (s : AttributeSet) :
    s.Records written ↔ s = ofList written := by
  constructor
  · intro h
    have built := records_ofList written
    apply ext_of_distinct h.distinct (h.firsts.eq built.firsts)
    intro name
    ext value
    rw [h.found, built.found]
  · rintro rfl
    exact records_ofList written

/-- The second identifier replaces the value of the first and nothing else of it. -/
example : (ofList [("ID", "Save"), ("runat", "server"), ("id", "Send")]).entries =
    [("ID", "Send"), ("runat", "server")] := by
  cbv

end AttributeSet

end WebForms
