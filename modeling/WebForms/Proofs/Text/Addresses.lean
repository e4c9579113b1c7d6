import WebForms.Proofs.Text.LineBreaks
import WebForms.Proofs.Text.Slices

/-!
# Lines and columns as addresses

A document that is being edited is addressed by line and column, a text on disk by byte offset. The
address of an offset leads back to the offset, wherever it is: at the end of a line, between the
two characters of a line break, behind the last line. In the other direction an address may be
spelled in several ways, since a column behind the break of a line is the start of the next one and
a column inside a surrogate pair is the start of its character, but a later address never leads to
an earlier place.

## Main results

* `index?_positionAt` — the address of an offset leads back to it
* `index?_le_index?` — addresses and the places to which they lead are in the same order
-/

namespace WebForms.Text

variable {l cs : List Char} {ls : List (List Char)} {p q : Position} {column column' i j : Nat}

/-! ### From an offset and back -/

/-- Behind its first characters, a line has the column of their width. -/
theorem columnIndex?_unitLength_take (l : List Char) (i : Nat) :
    columnIndex? l (unitLength (l.take i)) = some (min i l.length) := by
  induction l generalizing i with
  | nil => simp [columnIndex?]
  | cons c l ih =>
    cases i with
    | zero => simp [columnIndex?]
    | succ i =>
      rw [List.take_succ_cons, unitLength_cons, columnIndex?_cons, ih, Option.map_some,
        List.length_cons, Nat.succ_min_succ]

/-- The address of an index is at or behind the first line, and leads back to the index. -/
theorem indexIn?_positionIn (line : Nat) (nonempty : ls ≠ []) (inside : i ≤ ls.flatten.length) :
    ∃ further, (positionIn line ls i).line = line + further ∧
      indexIn? ls further (positionIn line ls i).column = some i := by
  -- Lines in front of the index are taken off one by one.
  fun_induction positionIn line ls i with
  | case1 => exact absurd rfl nonempty
  | case2 line l i =>
    rw [List.flatten_singleton] at inside
    refine ⟨0, rfl, ?_⟩
    rw [indexIn?, columnIndex?_unitLength_take, Nat.min_eq_left inside]
  | case3 line l l' ls i within =>
    refine ⟨0, rfl, ?_⟩
    rw [indexIn?, columnIndex?_unitLength_take, Nat.min_eq_left (Nat.le_of_lt within)]
  | case4 line l l' ls i behind ih =>
    have rest : i - l.length ≤ (l' :: ls).flatten.length := by
      rw [List.flatten_cons, List.length_append] at inside
      omega
    obtain ⟨further, at', found⟩ := ih (List.cons_ne_nil l' ls) rest
    refine ⟨further + 1, by rw [at']; omega, ?_⟩
    rw [indexIn?, found, Option.map_some, Nat.add_sub_cancel' (Nat.le_of_not_lt behind)]

/-- The address of the place behind some first characters leads back to it. -/
theorem index?_positionAt (before behind : List Char) :
    index? (before ++ behind) (positionAt (before ++ behind) (byteLength before)) =
      some before.length := by
  obtain ⟨l, ls, some'⟩ := exists_lines_eq (before ++ behind)
  have nonempty : lines (before ++ behind) ≠ [] := some' ▸ List.cons_ne_nil l ls
  have inside : before.length ≤ (lines (before ++ behind)).flatten.length := by
    rw [flatten_lines, List.length_append]
    exact Nat.le_add_right _ _
  obtain ⟨further, at', found⟩ := indexIn?_positionIn 0 nonempty inside
  rw [index?, positionAt, takeBytes_byteLength_append, at', Nat.zero_add, found]

/-! ### The order of addresses -/

/-- A column further on in a line does not lead to an earlier character. -/
theorem columnIndex?_le_columnIndex? (hi : columnIndex? l column = some i)
    (hj : columnIndex? l column' = some j) (le : column ≤ column') : i ≤ j := by
  induction l generalizing column column' i j with
  | nil =>
    have start := columnIndex?_le hi
    exact start.trans (Nat.zero_le j)
  | cons c l ih =>
    by_cases fits : utf16Size c ≤ column
    · -- Both columns are behind the first character.
      obtain ⟨n, rfl⟩ := Nat.exists_eq_add_of_le fits
      obtain ⟨m, rfl⟩ := Nat.exists_eq_add_of_le (fits.trans le)
      rw [columnIndex?_cons, Option.map_eq_some_iff] at hi hj
      obtain ⟨i, hi, rfl⟩ := hi
      obtain ⟨j, hj, rfl⟩ := hj
      exact Nat.succ_le_succ (ih hi hj (Nat.le_of_add_le_add_left le))
    · cases column with
      | zero =>
        obtain rfl := Option.some.inj hi
        exact Nat.zero_le j
      | succ n =>
        rw [columnIndex?, if_neg fits] at hi
        obtain rfl := Option.some.inj hi
        exact Nat.zero_le j

theorem indexIn?_le_indexIn? (hi : indexIn? ls p.line p.column = some i)
    (hj : indexIn? ls q.line q.column = some j) (le : p ≤ q) : i ≤ j := by
  obtain ⟨line, column⟩ := p
  obtain ⟨line', column'⟩ := q
  rw [Position.le_iff] at le
  simp only at hi hj le
  induction ls generalizing line line' i j with
  | nil =>
    have start := indexIn?_le hi
    exact start.trans (Nat.zero_le j)
  | cons l ls ih =>
    cases line with
    | zero =>
      cases line' with
      | zero => exact columnIndex?_le_columnIndex? hi hj (by omega)
      | succ line' =>
        -- A line ends where the next one begins, at the latest.
        obtain ⟨j, -, rfl⟩ := Option.map_eq_some_iff.mp hj
        exact (columnIndex?_le hi).trans (Nat.le_add_right _ _)
    | succ line =>
      cases line' with
      | zero => omega
      | succ line' =>
        obtain ⟨i, hi', rfl⟩ := Option.map_eq_some_iff.mp hi
        obtain ⟨j, hj', rfl⟩ := Option.map_eq_some_iff.mp hj
        exact Nat.add_le_add_left (ih line hi' line' hj' (by omega)) _

/-- Of two addresses in a text, the later one does not lead to an earlier place. -/
theorem index?_le_index? (hi : index? cs p = some i) (hj : index? cs q = some j) (le : p ≤ q) :
    i ≤ j :=
  indexIn?_le_indexIn? hi hj le

end WebForms.Text
