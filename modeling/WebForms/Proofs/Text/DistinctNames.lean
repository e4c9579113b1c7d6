import Mathlib.Data.List.Induction
import Mathlib.Data.List.Pairwise
import Mathlib.Data.List.Sort
import WebForms.Text.Case

/-!
# Items of distinct names

Of the items of a list those are kept whose name does not stand in front of them, whatever its
letter case. Going through the list an item more is kept or left out, and what has been kept
stays: the kept items are in order, one for each name, and a beginning of the list decides about
its own names. Their places alone determine them, and so they are stated without a word on how
they are found.

## Main definitions

* `Text.NewIn` — none of the items has the name
* `Text.keep` — an item is put behind those that are kept, if its name is new
* `Text.GivesFirst` — a place gives rise to the first item of a name
* `Text.FirstAt` — the item at a place is the first one of its name
* `Text.FirstsOf` — a list of the items at these places, in order

## Main results

* `Text.find?_distinctBy` — what is kept is the only item of its name
* `Text.mem_distinctBy_iff` — what is kept is the first item of its name
* `Text.foldl_keep` — the items that are kept, found one after the other
* `Text.exists_places_distinctBy` — the places from which the items that are kept come
* `Text.firstsOf_iff` — the items that are kept are the first ones of their names
-/

namespace WebForms.Text

variable {α : Type} {name : α → String} {seen items front back kept kept' : List α} {a b : α} {i : Nat}

/-- No item has the name of `a`. -/
def NewIn (name : α → String) (items : List α) (a : α) : Prop :=
  ∀ b ∈ items, sameName (name b) (name a) = false

instance (name : α → String) (items : List α) (a : α) : Decidable (NewIn name items a) :=
  inferInstanceAs (Decidable (∀ b ∈ items, sameName (name b) (name a) = false))

@[simp] theorem newIn_append_iff :
    NewIn name (front ++ back) a ↔ NewIn name front a ∧ NewIn name back a :=
  List.forall_mem_append

@[simp] theorem newIn_cons_iff :
    NewIn name (b :: items) a ↔ sameName (name b) (name a) = false ∧ NewIn name items a :=
  List.forall_mem_cons

theorem NewIn.congr (h : NewIn name items a) (same : sameName (name a) (name b) = true) :
    NewIn name items b := by
  intro c hc
  rw [← h c hc, sameName, sameName, sameName_iff.mp same]

/-! ### One item more -/

theorem distinctFrom_cons_of_new (h : NewIn name seen a) (items : List α) :
    distinctFrom name seen (a :: items) = a :: distinctFrom name (a :: seen) items := by
  rw [distinctFrom, if_neg]
  simpa [NewIn] using h

theorem distinctFrom_cons_of_not_new (h : ¬ NewIn name seen a) (items : List α) :
    distinctFrom name seen (a :: items) = distinctFrom name seen items := by
  rw [distinctFrom, if_pos]
  simpa [NewIn] using h

/-- The last item is kept if its name is new. -/
theorem distinctFrom_concat (name : α → String) (seen items : List α) (a : α) :
    distinctFrom name seen (items ++ [a]) =
      if NewIn name (seen ++ items) a then distinctFrom name seen items ++ [a]
      else distinctFrom name seen items := by
  induction items generalizing seen with
  | nil =>
    rw [List.append_nil, List.nil_append]
    split
    next new => rw [distinctFrom_cons_of_new new, distinctFrom, distinctFrom, List.nil_append]
    next known => rw [distinctFrom_cons_of_not_new known]
  | cons c items ih =>
    by_cases new : NewIn name seen c
    · have same : NewIn name (c :: seen ++ items) a ↔ NewIn name (seen ++ c :: items) a := by
        simp only [List.cons_append, newIn_cons_iff, newIn_append_iff, and_left_comm]
      rw [List.cons_append, distinctFrom_cons_of_new new, distinctFrom_cons_of_new new, ih]
      simp only [same]
      split <;> rfl
    · -- As `c` is left out, an item with the name of `c` has been seen.
      have same : NewIn name (seen ++ items) a ↔ NewIn name (seen ++ c :: items) a := by
        have apart (h : NewIn name seen a) : sameName (name c) (name a) = false := by
          by_contra same
          rw [Bool.not_eq_false, sameName_comm] at same
          exact new (h.congr same)
        simp only [newIn_append_iff, newIn_cons_iff]
        exact ⟨fun h => ⟨h.1, apart h.1, h.2⟩, fun h => ⟨h.1, h.2.2⟩⟩
      rw [List.cons_append, distinctFrom_cons_of_not_new new, distinctFrom_cons_of_not_new new, ih]
      simp only [same]

theorem distinctBy_concat (name : α → String) (items : List α) (a : α) :
    distinctBy name (items ++ [a]) =
      if NewIn name items a then distinctBy name items ++ [a] else distinctBy name items :=
  distinctFrom_concat name [] items a

theorem mem_of_mem_distinctBy (h : a ∈ distinctBy name items) : a ∈ items :=
  (distinctFrom_sublist name [] items).subset h

/-- What is kept of a beginning is kept. -/
theorem distinctFrom_prefix_append (name : α → String) (seen front back : List α) :
    distinctFrom name seen front <+: distinctFrom name seen (front ++ back) := by
  induction back using List.reverseRecOn with
  | nil => simpa only [List.append_nil] using List.prefix_refl _
  | append_singleton back b ih =>
    rw [← List.append_assoc, distinctFrom_concat]
    split
    · exact ih.trans (List.prefix_append _ _)
    · exact ih

/-- What is kept has a name that has not been seen. -/
theorem newIn_of_mem_distinctFrom (h : a ∈ distinctFrom name seen items) : NewIn name seen a := by
  induction items using List.reverseRecOn with
  | nil => cases h
  | append_singleton items b ih =>
    rw [distinctFrom_concat] at h
    split at h
    next new =>
      rcases List.mem_append.mp h with h | last
      · exact ih h
      · rw [List.mem_singleton.mp last]
        exact (newIn_append_iff.mp new).1
    next => exact ih h

/-- Items of different names are kept. -/
theorem pairwise_distinctFrom :
    (distinctFrom name seen items).Pairwise fun a b => sameName (name a) (name b) = false := by
  induction items using List.reverseRecOn with
  | nil => exact .nil
  | append_singleton items a ih =>
    rw [distinctFrom_concat]
    split
    next new =>
      refine List.pairwise_append.mpr ⟨ih, List.pairwise_singleton _ _, fun b hb c hc => ?_⟩
      rw [List.mem_singleton.mp hc]
      exact (newIn_append_iff.mp new).2 b ((distinctFrom_sublist name seen items).subset hb)
    next => exact ih

theorem pairwise_distinctBy :
    (distinctBy name items).Pairwise fun a b => sameName (name a) (name b) = false :=
  pairwise_distinctFrom

/-- Of a name there is one item at most. -/
theorem eq_of_mem_distinctBy (ha : a ∈ distinctBy name items) (hb : b ∈ distinctBy name items)
    (same : sameName (name a) (name b) = true) : a = b := by
  by_contra other
  have symmetric : Std.Symm fun a b => sameName (name a) (name b) = false :=
    ⟨fun a b apart => (sameName_comm (name b) (name a)).trans apart⟩
  have apart : sameName (name a) (name b) = false := pairwise_distinctBy.forall ha hb other
  rw [same] at apart
  cases apart

/-- What is kept is found under its name. -/
theorem find?_distinctBy (ha : a ∈ distinctBy name items) :
    (distinctBy name items).find? (fun b => sameName (name b) (name a)) = some a := by
  cases found : (distinctBy name items).find? (fun b => sameName (name b) (name a)) with
  | none => exact absurd (sameName_self _) (List.find?_eq_none.mp found a ha)
  | some b =>
    have same : sameName (name b) (name a) = true :=
      List.find?_some (p := fun b => sameName (name b) (name a)) found
    rw [eq_of_mem_distinctBy (List.mem_of_find?_eq_some found) ha same]

/-- One of each name is kept. -/
theorem exists_mem_distinctBy (h : a ∈ items) :
    ∃ b ∈ distinctBy name items, sameName (name b) (name a) = true :=
  @exists_mem_distinctFrom α name [] items a h

/-- An item further on is kept only if its name is new. -/
theorem mem_or_newIn_of_mem_distinctBy (h : b ∈ distinctBy name (front ++ back)) :
    b ∈ distinctBy name front ∨ NewIn name front b := by
  induction back using List.reverseRecOn with
  | nil => exact .inl (by simpa using h)
  | append_singleton back c ih =>
    rw [← List.append_assoc, distinctBy_concat] at h
    split at h
    next new =>
      rcases List.mem_append.mp h with h | last
      · exact ih h
      · rw [List.mem_singleton.mp last]
        exact .inr (newIn_append_iff.mp new).1
    next => exact ih h

/-! ### One name -/

/-- Of each name, the first item is kept. -/
theorem find?_distinctBy_eq (name : α → String) (items : List α) (n : String) :
    (distinctBy name items).find? (fun b => sameName (name b) n) =
      items.find? fun b => sameName (name b) n := by
  induction items using List.reverseRecOn with
  | nil => rfl
  | append_singleton items a ih =>
    rw [distinctBy_concat, List.find?_append]
    split
    next new => rw [List.find?_append, ih]
    next known =>
      -- An item that is left out has the name of one in front of it, which is found first.
      rw [ih]
      cases found : items.find? fun b => sameName (name b) n with
      | some b => rfl
      | none =>
        have apart (same : sameName (name a) n = true) : False := by
          refine known fun b hb => ?_
          have other := List.find?_eq_none.mp found b hb
          rw [Bool.not_eq_true] at other
          rw [← other, sameName, sameName, sameName_iff.mp same]
        rw [List.find?_singleton, if_neg apart]
        rfl

theorem mem_distinctBy_iff :
    a ∈ distinctBy name items ↔ items.find? (fun b => sameName (name b) (name a)) = some a := by
  rw [← find?_distinctBy_eq]
  constructor
  · exact find?_distinctBy
  · exact List.mem_of_find?_eq_some

/-! ### Items that are made of others -/

theorem distinctFrom_map {β : Type} (f : β → α) (seen items : List β) :
    distinctFrom name (seen.map f) (items.map f) =
      (distinctFrom (fun b => name (f b)) seen items).map f := by
  induction items generalizing seen with
  | nil => rfl
  | cons b items ih =>
    rw [List.map_cons, distinctFrom, distinctFrom, List.any_map]
    simp only [Function.comp_def]
    split
    · exact ih seen
    · rw [List.map_cons, ← ih (b :: seen), List.map_cons]

/-- Items that are made of others have the names of these. -/
theorem distinctBy_map {β : Type} (name : α → String) (f : β → α) (items : List β) :
    distinctBy name (items.map f) = (distinctBy (fun b => name (f b)) items).map f :=
  distinctFrom_map f [] items

/-! ### Going through the list -/

/-- An item is put behind those that are kept, unless one of these has its name. -/
def keep (name : α → String) (kept : List α) (a : α) : List α :=
  if NewIn name kept a then kept ++ [a] else kept

/-- An item whose name stands in front of all others is left out, and any other passes by. -/
theorem keep_cons (name : α → String) (b : α) (kept : List α) (a : α) :
    keep name (b :: kept) a =
      if sameName (name b) (name a) then b :: kept else b :: keep name kept a := by
  cases same : sameName (name b) (name a) with
  | true =>
    have known : ¬ NewIn name (b :: kept) a := by
      intro new
      rw [(newIn_cons_iff.mp new).1] at same
      cases same
    rw [keep, if_neg known, if_pos rfl]
  | false =>
    have new_iff : NewIn name (b :: kept) a ↔ NewIn name kept a := by
      rw [newIn_cons_iff, and_iff_right same]
    rw [if_neg Bool.false_ne_true, keep, keep]
    by_cases new : NewIn name kept a
    · rw [if_pos new, if_pos (new_iff.mpr new), List.cons_append]
    · rw [if_neg new, if_neg (mt new_iff.mp new)]

/-- A name that is new among the items that are kept is new among all. -/
theorem newIn_distinctBy_iff : NewIn name (distinctBy name items) a ↔ NewIn name items a := by
  constructor
  · intro new b hb
    obtain ⟨c, hc, same⟩ : ∃ c ∈ distinctBy name items, sameName (name c) (name b) = true :=
      exists_mem_distinctBy hb
    rw [← new c hc, sameName, sameName, sameName_iff.mp same]
  · intro new b hb
    exact new b (mem_of_mem_distinctBy hb)

/-- It is enough to look at what has been kept so far. -/
theorem foldl_keep (name : α → String) (items : List α) :
    items.foldl (keep name) [] = distinctBy name items := by
  induction items using List.reverseRecOn with
  | nil => rfl
  | append_singleton items a ih =>
    rw [List.foldl_concat, ih, distinctBy_concat, keep]
    simp only [newIn_distinctBy_iff]

/-! ### The first items of their names -/

section

variable {β : Type} {give : β → Option α} {sources more : List β} {b : β}

/-- What stands at that place gives rise to `a`, and nothing in front of it to an item of its
name. -/
def GivesFirst (name : α → String) (give : β → Option α) (sources : List β) (i : Nat) (a : α) :
    Prop :=
  sources[i]?.bind give = some a ∧ NewIn name ((sources.take i).filterMap give) a

theorem GivesFirst.lt_length (h : GivesFirst name give sources i a) : i < sources.length := by
  obtain ⟨b, here, -⟩ := Option.bind_eq_some_iff.mp h.1
  exact (List.getElem?_eq_some_iff.mp here).choose

/-- What comes behind makes no difference. -/
theorem givesFirst_append_iff (inside : i < sources.length) :
    GivesFirst name give (sources ++ more) i a ↔ GivesFirst name give sources i a := by
  rw [GivesFirst, GivesFirst, List.getElem?_append_left inside,
    List.take_append_of_le_length inside.le]

theorem givesFirst_length_iff :
    GivesFirst name give (sources ++ [b]) sources.length a ↔
      give b = some a ∧ NewIn name (sources.filterMap give) a := by
  rw [GivesFirst, List.getElem?_append_right le_rfl, List.take_left, Nat.sub_self]
  rfl

theorem givesFirst_concat_iff :
    GivesFirst name give (sources ++ [b]) i a ↔
      GivesFirst name give sources i a ∨
        i = sources.length ∧ give b = some a ∧ NewIn name (sources.filterMap give) a := by
  rcases Nat.lt_trichotomy i sources.length with inside | rfl | outside
  · rw [givesFirst_append_iff inside, or_iff_left fun h => absurd h.1 inside.ne]
  · rw [givesFirst_length_iff, or_iff_right fun h => absurd h.lt_length (lt_irrefl _),
      and_iff_right rfl]
  · have short (h : GivesFirst name give sources i a) : False :=
      absurd h.lt_length outside.le.not_gt
    have long (h : GivesFirst name give (sources ++ [b]) i a) : False := by
      have bound := h.lt_length
      rw [List.length_append, List.length_singleton] at bound
      omega
    exact ⟨fun h => (long h).elim, fun h => h.elim (fun h => (short h).elim) (by omega)⟩

/-- What is kept of the items that a list gives rise to comes from the places that give rise to the
first items of their names, in order. -/
theorem exists_places_distinctBy (name : α → String) (give : β → Option α) (sources : List β) :
    ∃ places : List Nat, places.Pairwise (· < ·) ∧
      (∀ i, i ∈ places ↔ ∃ a, GivesFirst name give sources i a) ∧
      List.Forall₂ (GivesFirst name give sources) places
        (distinctBy name (sources.filterMap give)) := by
  -- The last place is one of them if it gives rise to an item of a new name.
  induction sources using List.reverseRecOn with
  | nil =>
    have none (i : Nat) (a : α) : ¬ GivesFirst name give [] i a :=
      fun h => absurd h.lt_length (Nat.not_lt_zero i)
    refine ⟨[], .nil, fun i => iff_of_false List.not_mem_nil ?_, .nil⟩
    rintro ⟨a, h⟩
    exact none i a h
  | append_singleton sources b ih =>
    obtain ⟨places, sorted, firsts, kept⟩ := ih
    have inside : ∀ i ∈ places, i < sources.length := by
      intro i hi
      obtain ⟨a, h⟩ := (firsts i).mp hi
      exact h.lt_length
    have still : List.Forall₂ (GivesFirst name give (sources ++ [b])) places
        (distinctBy name (sources.filterMap give)) :=
      kept.imp fun i a h => (givesFirst_append_iff h.lt_length).mpr h
    simp only [givesFirst_concat_iff, exists_or, ← firsts]
    rw [List.filterMap_append]
    cases given : give b with
    | none =>
      refine ⟨places, sorted, fun i => ?_, ?_⟩
      · simp
      · simpa [given] using still
    | some a =>
      rw [List.filterMap_cons_some given, List.filterMap_nil, distinctBy_concat]
      by_cases new : NewIn name (sources.filterMap give) a
      · rw [if_pos new]
        refine ⟨places ++ [sources.length], ?_, fun i => ?_, ?_⟩
        · refine List.pairwise_append.mpr
            ⟨sorted, List.pairwise_singleton _ _, fun i hi j hj => ?_⟩
          rw [List.mem_singleton.mp hj]
          exact inside i hi
        · rw [List.mem_append, List.mem_singleton]
          simp [new]
        · refine List.rel_append still (.cons ?_ .nil)
          exact givesFirst_length_iff.mpr ⟨given, new⟩
      · rw [if_neg new]
        refine ⟨places, sorted, fun i => ?_, still⟩
        refine (or_iff_left ?_).symm
        rintro ⟨a', -, same, fresh⟩
        obtain rfl := Option.some.inj same
        exact new fresh

end

/-- The item at that place is the first one of its name. -/
def FirstAt (name : α → String) (items : List α) (i : Nat) : Prop :=
  ∃ a, items[i]? = some a ∧ NewIn name (items.take i) a

/-- The first items of all names, in order. -/
def FirstsOf (name : α → String) (items kept : List α) : Prop :=
  ∃ places : List Nat, places.Pairwise (· < ·) ∧ (∀ i, i ∈ places ↔ FirstAt name items i) ∧
    kept.map some = places.map (items[·]?)

/-- An item gives rise to itself. -/
theorem givesFirst_some_iff :
    GivesFirst name some items i a ↔ items[i]? = some a ∧ NewIn name (items.take i) a := by
  rw [GivesFirst, List.filterMap_some, Option.bind_fun_some]

theorem firstsOf_distinctBy (name : α → String) (items : List α) :
    FirstsOf name items (distinctBy name items) := by
  obtain ⟨places, sorted, firsts, kept⟩ := exists_places_distinctBy name some items
  rw [List.filterMap_some] at kept
  simp only [givesFirst_some_iff] at firsts
  refine ⟨places, sorted, firsts, ?_⟩
  clear firsts sorted
  generalize distinctBy name items = kept' at kept
  induction kept with
  | nil => rfl
  | cons h _ ih => rw [List.map_cons, List.map_cons, ih, (givesFirst_some_iff.mp h).1]

/-- There is one list of the first items. -/
theorem FirstsOf.eq (h : FirstsOf name items kept) (h' : FirstsOf name items kept') :
    kept = kept' := by
  obtain ⟨places, sorted, firsts, here⟩ := h
  obtain ⟨places', sorted', firsts', here'⟩ := h'
  have same : places = places' :=
    sorted.eq_of_mem_iff sorted' fun i => (firsts i).trans (firsts' i).symm
  refine List.map_injective_iff.mpr (Option.some_injective α) ?_
  rw [here, here', same]

/-- The items that are kept are the first ones of their names. -/
theorem firstsOf_iff : FirstsOf name items kept ↔ kept = distinctBy name items := by
  constructor
  · intro h
    exact h.eq (firstsOf_distinctBy name items)
  · rintro rfl
    exact firstsOf_distinctBy name items

end WebForms.Text
