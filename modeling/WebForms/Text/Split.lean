/-!
# Splitting at separators

Names, paths and types are taken apart at their first or last separator.

## Main definitions

* `splitFirst?`, `splitLast?` — the parts in front of and behind the first, the last separator
* `splitAll` — the parts between all separators
* `firstSegment`, `lastSegment` — the part before the first, after the last separator, or all
-/

namespace WebForms.Text

/-- The parts of `cs` around its first character that satisfies `p`. -/
def splitFirst? (p : Char → Bool) : List Char → Option (List Char × List Char)
  | [] => none
  | c :: cs => if p c then some ([], cs) else (splitFirst? p cs).map fun (l, r) => (c :: l, r)

/-- The parts and the separator between them are the text. -/
theorem eq_append_of_splitFirst? {p : Char → Bool} {cs l r : List Char}
    (h : splitFirst? p cs = some (l, r)) : ∃ c, p c = true ∧ cs = l ++ c :: r := by
  induction cs generalizing l with
  | nil => exact nomatch h
  | cons c cs ih =>
    rw [splitFirst?] at h
    split at h
    next separates =>
      obtain ⟨rfl, rfl⟩ := Prod.mk.inj (Option.some.inj h)
      exact ⟨c, separates, rfl⟩
    next =>
      obtain ⟨⟨l', r'⟩, hrest, heq⟩ := Option.map_eq_some_iff.mp h
      obtain ⟨rfl, rfl⟩ := Prod.mk.inj heq
      obtain ⟨d, separates, rfl⟩ := ih hrest
      exact ⟨d, separates, rfl⟩

/-- The parts of `cs` around its last character that satisfies `p`. -/
def splitLast? (p : Char → Bool) (cs : List Char) : Option (List Char × List Char) :=
  (splitFirst? p cs.reverse).map fun (r, l) => (l.reverse, r.reverse)

/-- The parts of `cs` between its characters that satisfy `p`; there is always one. -/
def splitAll (p : Char → Bool) : List Char → List (List Char)
  | [] => [[]]
  | c :: cs =>
    if p c then [] :: splitAll p cs
    else match splitAll p cs with
      | [] => [[c]]
      | s :: ss => (c :: s) :: ss

/-- What stands in front of the first separator, or all of the text. -/
def firstSegment (p : Char → Bool) (s : String) : String :=
  String.ofList (s.toList.takeWhile (!p ·))

/-- What stands behind the last separator, or all of the text. -/
def lastSegment (p : Char → Bool) (s : String) : String :=
  String.ofList (s.toList.reverse.takeWhile (!p ·)).reverse

end WebForms.Text
