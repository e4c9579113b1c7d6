import Mathlib.Data.List.Induction
import WebForms.Code.Access

/-!
# Counting parentheses backwards

The arguments of a call are passed over backwards, from the parenthesis that closes them to the one
that opens them. Parentheses that come in pairs cancel out in either direction, so that the first
one that is left over is the one that opens the arguments. The groups that a text leaves open when
it is read forwards are those that it takes away from the ones that have been entered when it is
read backwards.

## Main definitions

* `openGroups?`, `Paired` — the groups that a text leaves open

## Main results

* `pastGroup?_eq_some_iff` — the parenthesis that opens a group
-/

namespace WebForms

/-- The number of open groups behind a character, when there are `depth` in front of it; none if the
character would close one more. -/
def groupsBehind? : Nat → Char → Option Nat
  | depth, '(' => some (depth + 1)
  | 0, ')' => none
  | depth + 1, ')' => some depth
  | depth, _ => some depth

/-- The number of groups that a text leaves open; none if it closes one that it has not opened. -/
def openGroups? (cs : List Char) : Option Nat := cs.foldlM groupsBehind? 0

/-- The parentheses of the text come in pairs, however they are nested. -/
def Paired (cs : List Char) : Prop := openGroups? cs = some 0

instance : DecidablePred Paired := fun _ => inferInstanceAs (Decidable (_ = _))

section

variable {cs rest rs : List Char} {c : Char} {depth : Nat}

/-! ### Forwards -/

theorem groupsBehind?_other (opens : c ≠ '(') (closes : c ≠ ')') (depth : Nat) :
    groupsBehind? depth c = some depth := by
  rw [groupsBehind?]
  · exact opens
  · exact fun _ => closes
  · exact fun _ _ => closes

theorem openGroups?_concat (cs : List Char) (c : Char) :
    openGroups? (cs ++ [c]) = (openGroups? cs).bind (groupsBehind? · c) := by
  simp [openGroups?, List.foldlM_append]

/-! ### Backwards -/

theorem pastGroup?_other (opens : c ≠ '(') (closes : c ≠ ')') (depth : Nat) (rs : List Char) :
    pastGroup? depth (c :: rs) = pastGroup? depth rs := by
  rw [pastGroup?]
  · exact closes
  · exact fun _ => opens
  · exact fun _ _ => opens

/-- Backwards, the groups that a text leaves open take away as many that have been entered. -/
theorem pastGroup?_reverse_append (h : openGroups? cs = some depth) (outer : Nat) (rs : List Char) :
    pastGroup? (depth + outer) (cs.reverse ++ rs) = pastGroup? outer rs := by
  -- From the end of the text, where the search begins.
  induction cs using List.reverseRecOn generalizing depth outer with
  | nil =>
    obtain rfl : 0 = depth := Option.some.inj h
    rw [Nat.zero_add, List.reverse_nil, List.nil_append]
  | append_singleton cs c ih =>
    rw [openGroups?_concat] at h
    obtain ⟨before, inside, step⟩ := Option.bind_eq_some_iff.mp h
    rw [List.reverse_append, List.reverse_singleton, List.singleton_append, List.cons_append]
    by_cases opens : c = '('
    · subst opens
      obtain rfl := Option.some.inj step
      rw [Nat.add_right_comm, pastGroup?, ih inside]
    by_cases closes : c = ')'
    · subst closes
      cases before with
      | zero => cases step
      | succ before =>
        obtain rfl := Option.some.inj step
        rw [pastGroup?, Nat.add_right_comm, ih inside]
    · rw [groupsBehind?_other opens closes] at step
      obtain rfl := Option.some.inj step
      rw [pastGroup?_other opens closes, ih inside]

/-- The parenthesis that is found stands in front of a text that leaves open the groups that have
been entered. -/
theorem exists_openGroups_of_pastGroup? (h : pastGroup? depth rs = some rest) :
    ∃ cs, rs = cs.reverse ++ '(' :: rest ∧ openGroups? cs = some depth := by
  induction rs generalizing depth with
  | nil =>
    rw [pastGroup?] at h
    cases h
  | cons c rs ih =>
    by_cases closes : c = ')'
    · subst closes
      rw [pastGroup?] at h
      obtain ⟨cs, rfl, inside⟩ := ih h
      exact ⟨cs ++ [')'], by simp, by rw [openGroups?_concat, inside]; rfl⟩
    by_cases opens : c = '('
    · subst opens
      cases depth with
      | zero =>
        rw [pastGroup?] at h
        obtain rfl := Option.some.inj h
        exact ⟨[], rfl, rfl⟩
      | succ depth =>
        rw [pastGroup?] at h
        obtain ⟨cs, rfl, inside⟩ := ih h
        exact ⟨cs ++ ['('], by simp, by rw [openGroups?_concat, inside]; rfl⟩
    · rw [pastGroup?_other opens closes] at h
      obtain ⟨cs, rfl, inside⟩ := ih h
      refine ⟨cs ++ [c], by simp, ?_⟩
      rw [openGroups?_concat, inside, Option.bind_some, groupsBehind?_other opens closes]

/-- A parenthesis is found to open the present group if and only if the text behind it leaves open
as many groups as have been entered. -/
theorem pastGroup?_eq_some_iff :
    pastGroup? depth rs = some rest ↔
      ∃ cs, rs = cs.reverse ++ '(' :: rest ∧ openGroups? cs = some depth := by
  constructor
  · exact exists_openGroups_of_pastGroup?
  · rintro ⟨cs, rfl, inside⟩
    rw [← Nat.add_zero depth, pastGroup?_reverse_append inside, pastGroup?]

end

end WebForms
