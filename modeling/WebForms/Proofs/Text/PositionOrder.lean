import Mathlib.Order.Lattice
import WebForms.Text.Position

/-!
# The order of positions

Positions are compared line first, which makes them a linear order. Reading a character moves a
position to a later one.

## Main definitions

* `Position.instLinearOrder` — the order of positions is linear

## Main results

* `Position.lt_advance` — reading moves on
-/

namespace WebForms.Position

variable {p q r : Position}

private theorem le_antisymm_aux (h : p ≤ q) (h' : q ≤ p) : p = q := by
  obtain ⟨line, column⟩ := p
  obtain ⟨line', column'⟩ := q
  simp only [le_iff] at h h'
  obtain rfl : line = line' := by omega
  obtain rfl : column = column' := by omega
  rfl

instance instLinearOrder : LinearOrder Position where
  le_refl p := le_iff.mpr (.inr ⟨rfl, Nat.le_refl _⟩)
  le_trans p q r h h' := by
    rw [le_iff] at h h' ⊢
    omega
  le_antisymm _ _ := le_antisymm_aux
  le_total p q := by
    rw [le_iff, le_iff]
    omega
  lt_iff_le_not_ge p q := by
    rw [lt_iff, le_iff, le_iff]
    omega
  toDecidableLE := inferInstance
  toDecidableLT := inferInstance
  toDecidableEq := inferInstance

theorem default_le (p : Position) : ({} : Position) ≤ p := by
  rw [le_iff]
  simp only
  omega

theorem utf16Size_pos (c : Char) : 0 < utf16Size c := by
  unfold utf16Size
  split <;> decide

/-- Reading a character moves on. -/
theorem lt_advance (p : Position) (c : Char) : p < p.advance c := by
  have width := utf16Size_pos c
  unfold advance
  split
  · rw [lt_iff]
    exact .inl (Nat.lt_succ_self _)
  · rw [lt_iff]
    exact .inr ⟨rfl, Nat.lt_add_of_pos_right width⟩

theorem le_advance (p : Position) (c : Char) : p ≤ p.advance c :=
  le_of_lt (lt_advance p c)

/-- The later of two positions is their maximum. -/
theorem max_eq (p q : Position) : p.max q = Max.max p q :=
  rfl

end WebForms.Position
