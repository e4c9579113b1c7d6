import Mathlib.Data.List.TakeWhile
import WebForms.Text.Case

/-!
# White space around a text

A text is trimmed from both ends. What is taken away is white space, and what is left depends on
nothing else.

## Main results

* `Text.exists_eq_append_trimChars` — a text as what is left of it, with white space around it
* `Text.trimChars_append`, `Text.isEmpty_trimChars` — what is left of a text without white space
  inside, and of white space alone
* `Text.trimmed?_eq_some_iff` — what is left of a text, if anything is
-/

namespace WebForms.Text

/-- Around a text without the white space at its ends there was only white space. -/
theorem exists_eq_append_trimChars (cs : List Char) :
    ∃ before behind, cs = before ++ trimChars cs ++ behind ∧
      ∀ c ∈ before ++ behind, isBlank c := by
  have front := List.takeWhile_append_dropWhile (p := isBlank) (l := cs)
  have back := List.takeWhile_append_dropWhile (p := isBlank) (l := (cs.dropWhile isBlank).reverse)
  refine ⟨cs.takeWhile isBlank, ((cs.dropWhile isBlank).reverse.takeWhile isBlank).reverse, ?_, ?_⟩
  · have rest := congrArg List.reverse back
    rw [List.reverse_append, List.reverse_reverse] at rest
    rw [trimChars, List.append_assoc, rest, front]
  · intro c hc
    rcases List.mem_append.mp hc with hc | hc
    · exact List.mem_takeWhile_imp hc
    · exact List.mem_takeWhile_imp (List.mem_reverse.mp hc)

/-- Without the white space at its ends, a text without any inside is that inside. -/
theorem trimChars_append {before cs behind : List Char} (blank : ∀ c ∈ before ++ behind, isBlank c)
    (solid : ∀ c ∈ cs, isBlank c = false) (some' : cs ≠ []) :
    trimChars (before ++ cs ++ behind) = cs := by
  have keep {ds es : List Char} (solid : ∀ c ∈ ds, isBlank c = false) (some' : ds ≠ []) :
      (ds ++ es).dropWhile isBlank = ds ++ es := by
    cases ds with
    | nil => exact absurd rfl some'
    | cons d ds => exact List.dropWhile_cons_of_neg (by simp [solid d])
  have front : (before ++ cs ++ behind).dropWhile isBlank = cs ++ behind := by
    rw [List.append_assoc, List.dropWhile_append_of_pos
      fun c hc => blank c (List.mem_append_left _ hc)]
    exact keep solid some'
  have back : (cs ++ behind).reverse.dropWhile isBlank = cs.reverse := by
    rw [List.reverse_append, List.dropWhile_append_of_pos
      fun c hc => blank c (List.mem_append_right _ (List.mem_reverse.mp hc))]
    have solid' : ∀ c ∈ cs.reverse, isBlank c = false :=
      fun c hc => solid c (List.mem_reverse.mp hc)
    have kept : (cs.reverse ++ []).dropWhile isBlank = cs.reverse ++ [] :=
      keep solid' (by simpa using some')
    simpa using kept
  rw [trimChars, front, back, List.reverse_reverse]

/-- Nothing is left of a text if and only if it is white space. -/
theorem isEmpty_trimChars (cs : List Char) : (trimChars cs).isEmpty = cs.all isBlank := by
  rw [Bool.eq_iff_iff, List.isEmpty_iff, List.all_eq_true]
  constructor
  · intro empty
    obtain ⟨before, behind, split, blank⟩ := exists_eq_append_trimChars cs
    rwa [split, empty, List.append_nil]
  · intro blank
    rw [trimChars, List.dropWhile_eq_nil_iff.mpr blank]
    rfl

theorem trimmed?_eq_some_iff {s t : String} : trimmed? s = some t ↔ trim s = t ∧ t ≠ "" := by
  unfold trimmed?
  by_cases empty : (trim s).isEmpty = true
  · rw [if_pos empty]
    refine iff_of_false nofun ?_
    rintro ⟨rfl, nonempty⟩
    exact nonempty (String.isEmpty_iff.mp empty)
  · rw [if_neg empty, Option.some.injEq]
    refine (and_iff_left_of_imp ?_).symm
    rintro rfl blank
    exact empty (String.isEmpty_iff.mpr blank)

end WebForms.Text
