import Mathlib
import WebForms.Markup.Scanner.Step

/-!
# Lower-casing texts

Lower-casing changes the letters A to Z and nothing else. It leaves alone every property that does
not tell a letter from the same letter in the other case, and it passes through whatever takes
texts apart or puts them together without looking at letters.

## Main results

* `Text.apply_toLower` — what does not depend on the case of letters is kept by lower-casing
* `Text.toLower_eq_iff` — a character that is no letter is recognised after lower-casing
* `Text.sameName_toLower` — names agree when their lower-cased forms do
-/

namespace WebForms

namespace Text

/-! ### Characters -/

/-- What takes the same value on both cases of each letter is not changed by lower-casing. -/
theorem apply_toLower {α : Type} (f : Char → α)
    (letters : ∀ n < 26, f (Char.ofNat (97 + n)) = f (Char.ofNat (65 + n))) (c : Char) :
    f c.toLower = f c := by
  by_cases upper : c.isUpper
  · have code : 65 ≤ c.toNat ∧ c.toNat ≤ 90 := by
      simpa [Char.isUpper, UInt32.le_iff_toNat_le] using upper
    -- The lower case of a letter is 32 codes on.
    have letter := letters (c.toNat - 65) (by omega)
    rw [show 97 + (c.toNat - 65) = c.toNat + 32 by omega,
      show 65 + (c.toNat - 65) = c.toNat by omega, Char.ofNat_toNat] at letter
    rwa [Char.toLower_eq_of_isUpper upper]
  · rw [Char.toLower_eq_of_not_isUpper upper]

/-- A character that is no letter is recognised after lower-casing. -/
@[simp] theorem toLower_eq_iff {c d : Char} (h : d.isAlpha = false) : c.toLower = d ↔ c = d := by
  by_cases upper : c.isUpper
  · have letter : c.isAlpha := by simp [Char.isAlpha, upper]
    have lower : c.toLower.isAlpha := by simpa using letter
    constructor
    · rintro rfl
      exact absurd h (by simp [lower])
    · rintro rfl
      exact absurd h (by simp [letter])
  · rw [Char.toLower_eq_of_not_isUpper upper]

theorem map_toLower_eq_iff {cs ds : List Char} (h : ∀ d ∈ ds, d.isAlpha = false) :
    cs.map Char.toLower = ds ↔ cs = ds := by
  induction ds generalizing cs with
  | nil => exact List.map_eq_nil_iff
  | cons d ds ih =>
    cases cs with
    | nil => simp
    | cons c cs =>
      obtain ⟨hd, hds⟩ := List.forall_mem_cons.mp h
      rw [List.map_cons, List.cons.injEq, List.cons.injEq, toLower_eq_iff hd, ih hds]

@[simp] theorem isBlank_toLower (c : Char) : isBlank c.toLower = isBlank c :=
  apply_toLower isBlank (by decide) c

/-! ### Texts -/

variable (s t : String)

theorem toList_toLower : s.toLower.toList = s.toList.map Char.toLower :=
  String.toList_map

@[simp] theorem toLower_ofList (cs : List Char) :
    (String.ofList cs).toLower = String.ofList (cs.map Char.toLower) := by
  simp [← String.toList_inj, toList_toLower]

@[simp] theorem toLower_empty : "".toLower = "" := by
  simp [← String.toList_inj, toList_toLower]

@[simp] theorem toLower_append : (s ++ t).toLower = s.toLower ++ t.toLower := by
  simp [← String.toList_inj, toList_toLower]

@[simp] theorem toLower_push (c : Char) : (s.push c).toLower = s.toLower.push c.toLower := by
  simp [← String.toList_inj, toList_toLower]

@[simp] theorem toLower_singleton (c : Char) :
    (String.singleton c).toLower = String.singleton c.toLower := by
  simp [← String.toList_inj, toList_toLower]

@[simp] theorem toLower_toLower : s.toLower.toLower = s.toLower := by
  simp [← String.toList_inj, toList_toLower, Function.comp_def]

@[simp] theorem isEmpty_toLower : s.toLower.isEmpty = s.isEmpty := by
  rw [Bool.eq_iff_iff, String.isEmpty_iff, String.isEmpty_iff, ← String.toList_eq_nil_iff,
    ← String.toList_eq_nil_iff, toList_toLower, List.map_eq_nil_iff]

@[simp] theorem toLower_dropEnd (n : Nat) :
    (s.dropEnd n).copy.toLower = (s.toLower.dropEnd n).copy := by
  simp [← String.toList_inj, toList_toLower, String.toList_copy_dropEnd, List.map_take]

/-- A text without letters is left as it is. -/
theorem toLower_eq_self {s : String} (h : ∀ c ∈ s.toList, c.isAlpha = false) : s.toLower = s := by
  rw [← String.toList_inj, toList_toLower, map_toLower_eq_iff h]

/-- An end without letters is found after lower-casing. -/
theorem endsWith_toLower {closing : String} (h : ∀ c ∈ closing.toList, c.isAlpha = false) :
    s.toLower.endsWith closing = s.endsWith closing := by
  rw [Bool.eq_iff_iff, String.endsWith_eq_endsWith_toSlice, String.endsWith_eq_endsWith_toSlice,
    String.Slice.endsWith_string_iff, String.Slice.endsWith_string_iff, String.copy_toSlice,
    String.copy_toSlice, toList_toLower, List.suffix_map_iff]
  simp only [eq_comm (a := closing.toList), map_toLower_eq_iff h, exists_eq_right]

@[simp] theorem sameName_toLower : sameName s.toLower t.toLower = sameName s t := by
  simp [sameName]

/-! ### Taking texts apart -/

@[simp] theorem trimChars_map_toLower (cs : List Char) :
    trimChars (cs.map Char.toLower) = (trimChars cs).map Char.toLower := by
  have blank : isBlank ∘ Char.toLower = isBlank := funext isBlank_toLower
  simp only [trimChars, List.dropWhile_map, blank, ← List.map_reverse]

/-- A text is split at the same place after lower-casing. -/
theorem splitFirst?_map_toLower {p : Char → Bool} (h : ∀ c, p c.toLower = p c) (cs : List Char) :
    splitFirst? p (cs.map Char.toLower) =
      (splitFirst? p cs).map fun (l, r) => (l.map Char.toLower, r.map Char.toLower) := by
  induction cs with
  | nil => rfl
  | cons c cs ih =>
    simp only [List.map_cons, splitFirst?, h, ih]
    split
    · rfl
    · simp [Option.map_map, Function.comp_def]

/-- What stands in front of a separator is lower-cased with the text. -/
theorem toLower_firstSegment {p : Char → Bool} (h : ∀ c, p c.toLower = p c) (s : String) :
    (firstSegment p s).toLower = firstSegment p s.toLower := by
  have kept : (fun c => !p c) ∘ Char.toLower = fun c => !p c := by
    funext c
    rw [Function.comp_apply, h]
  rw [firstSegment, firstSegment, toLower_ofList, toList_toLower, List.takeWhile_map, kept]

end Text

open Text

@[simp] theorem isNameStart_toLower (c : Char) : isNameStart c.toLower = isNameStart c :=
  apply_toLower isNameStart (by decide) c

@[simp] theorem isNameChar_toLower (c : Char) : isNameChar c.toLower = isNameChar c :=
  apply_toLower isNameChar (by decide) c

@[simp] theorem BlockKind.ofMarker?_toLower (c : Char) : ofMarker? c.toLower = ofMarker? c :=
  apply_toLower ofMarker? (by decide) c

@[simp] theorem utf8Size_toLower (c : Char) : c.toLower.utf8Size = c.utf8Size :=
  apply_toLower Char.utf8Size (by decide) c

@[simp] theorem utf16Size_toLower (c : Char) : utf16Size c.toLower = utf16Size c :=
  apply_toLower utf16Size (by decide) c

/-- Both cases of a letter take up the same room. -/
@[simp] theorem Position.advance_toLower (p : Position) (c : Char) :
    p.advance c.toLower = p.advance c := by
  simp (disch := decide) only [advance, toLower_eq_iff, utf16Size_toLower]

end WebForms
