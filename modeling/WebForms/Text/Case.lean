import WebForms.Text.CharClass

/-!
# Letter case and surrounding space

Names of tags, attributes, types and members are compared with the case of the letters A to Z
ignored and every other character taken as it is. Comparison goes through the lower-cased form,
which is also the key under which names are indexed.

## Main definitions

* `sameName` — equality up to ASCII letter case
* `distinctBy` — the items whose names are new up to letter case
* `trim` — a text without the white space around it
-/

namespace WebForms.Text

/-- The two names are equal up to the case of ASCII letters. -/
def sameName (s t : String) : Bool :=
  s.toLower == t.toLower

theorem sameName_iff {s t : String} : sameName s t = true ↔ s.toLower = t.toLower := by
  simp [sameName]

@[simp] theorem sameName_self (s : String) : sameName s s = true := by
  simp [sameName]

theorem sameName_comm (s t : String) : sameName s t = sameName t s := by
  rw [Bool.eq_iff_iff, sameName_iff, sameName_iff]
  exact eq_comm

/-- The items whose names differ, up to letter case, from those of all items in `seen` and of all
earlier items. -/
def distinctFrom {α : Type} (name : α → String) (seen : List α) : List α → List α
  | [] => []
  | a :: as =>
    if seen.any fun b => sameName (name b) (name a) then distinctFrom name seen as
    else a :: distinctFrom name (a :: seen) as

/-- The items without those whose name agrees with an earlier one up to letter case. -/
def distinctBy {α : Type} (name : α → String) (items : List α) : List α :=
  distinctFrom name [] items

theorem distinctFrom_sublist {α : Type} (name : α → String) (seen items : List α) :
    (distinctFrom name seen items).Sublist items := by
  induction items generalizing seen with
  | nil => exact .slnil
  | cons a items ih =>
    unfold distinctFrom
    split
    · exact (ih seen).cons a
    · exact (ih (a :: seen)).cons_cons a

/-- An item is left out only if another one has its name. -/
theorem exists_mem_distinctFrom {α : Type} {name : α → String} {seen items : List α} {a : α}
    (h : a ∈ items) :
    ∃ b ∈ seen ++ distinctFrom name seen items, sameName (name b) (name a) = true := by
  induction items generalizing seen with
  | nil => cases h
  | cons c items ih =>
    unfold distinctFrom
    split
    next found =>
      rcases List.mem_cons.1 h with rfl | h
      · obtain ⟨b, hb, same⟩ := List.any_eq_true.1 found
        exact ⟨b, List.mem_append_left _ hb, same⟩
      · exact ih h
    next =>
      rcases List.mem_cons.1 h with rfl | h
      · exact ⟨a, List.mem_append_right _ List.mem_cons_self, sameName_self _⟩
      · -- What has been seen by then is the same, in another order.
        obtain ⟨b, hb, same⟩ := @ih (c :: seen) h
        refine ⟨b, ?_, same⟩
        simp only [List.mem_append, List.mem_cons] at hb ⊢
        exact hb.elim (fun hb => hb.elim (.inr ∘ .inl) .inl) (.inr ∘ .inr)

/-- The characters without leading and trailing white space. -/
def trimChars (cs : List Char) : List Char :=
  ((cs.dropWhile isBlank).reverse.dropWhile isBlank).reverse

/-- The text without leading and trailing white space. -/
def trim (s : String) : String :=
  String.ofList (trimChars s.toList)

/-- The trimmed text, when anything is left of it. -/
def trimmed? (s : String) : Option String :=
  let t := trim s
  if t.isEmpty then none else some t

end WebForms.Text
