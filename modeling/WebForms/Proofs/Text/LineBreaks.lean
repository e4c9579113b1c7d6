import Mathlib.Data.List.Chain
import WebForms.Proofs.Document.Edits
import WebForms.Proofs.Text.Places

/-!
# Two ways to count lines

Markup counts a line for every line feed, while a document that is being edited has a new line
behind every Unicode line break. A place in a text has the same index for both as long as nothing
but line feeds breaks lines, with or without a carriage return in front of them. Any other break
makes the counts differ behind it, unless nothing follows: where the text ends, a column may point
behind the break of the last line.

## Main definitions

* `FeedsOnly` — a text in which line feeds alone break lines

## Main results

* `index?_place` — in such a text, a document finds every place
* `index?_place_self_iff` — in any other text, it does not find the end
-/

namespace WebForms.Text

/-- Every line break in the text is a line feed, or a carriage return in front of one. This need not
hold of the last character, behind which no line is. -/
def FeedsOnly (cs : List Char) : Prop :=
  cs.IsChain fun c d => isLineBreak c → c = '\n' ∨ c = '\r' ∧ d = '\n'

instance (cs : List Char) : Decidable (FeedsOnly cs) :=
  inferInstanceAs (Decidable (cs.IsChain _))

variable {c : Char} {cs before : List Char} {line column i : Nat}

/-! ### The first character of a text -/

@[simp] theorem index?_origin (cs : List Char) : index? cs {} = some 0 := by
  unfold index?
  cases lines cs with
  | nil => rfl
  | cons l ls => cases l <;> rfl

/-- A carriage return and a line feed are one break. -/
theorem index?_pair_succ :
    index? ('\r' :: '\n' :: cs) ⟨line + 1, column⟩ = (index? cs ⟨line, column⟩).map (2 + ·) :=
  rfl

theorem index?_pair_zero :
    index? ('\r' :: '\n' :: cs) ⟨0, column⟩ = columnIndex? ['\r', '\n'] column :=
  rfl

section

variable (single : ∀ ds, c = '\r' → cs = '\n' :: ds → False)
include single

theorem lines_cons :
    lines (c :: cs) = if isLineBreak c then [c] :: lines cs else consFirst c (lines cs) := by
  rw [lines]
  exact single

theorem index?_break_succ (breaks : isLineBreak c) :
    index? (c :: cs) ⟨line + 1, column⟩ = (index? cs ⟨line, column⟩).map (1 + ·) := by
  rw [index?, lines_cons single, if_pos breaks]
  rfl

theorem index?_break_zero (breaks : isLineBreak c) :
    index? (c :: cs) ⟨0, column⟩ = columnIndex? [c] column := by
  rw [index?, lines_cons single, if_pos breaks]
  rfl

end

/-- Behind a character, columns are counted from its end. -/
theorem columnIndex?_cons (c : Char) (l : List Char) (column : Nat) :
    columnIndex? (c :: l) (utf16Size c + column) = (columnIndex? l column).map (· + 1) := by
  have width := Position.utf16Size_pos c
  obtain ⟨n, hn⟩ : ∃ n, utf16Size c + column = n + 1 := ⟨utf16Size c + column - 1, by omega⟩
  -- The column lies behind the first character, so the count goes on there.
  rw [hn, columnIndex?, ← hn, if_pos (by omega), Nat.add_sub_cancel_left]

/-- There is always a line. -/
theorem exists_lines_eq (cs : List Char) : ∃ l ls, lines cs = l :: ls := by
  fun_induction lines cs with
  | case1 | case2 | case3 => exact ⟨_, _, rfl⟩
  | case4 c cs single goesOn ih =>
    obtain ⟨l, ls, eq⟩ := ih
    exact ⟨c :: l, ls, by rw [eq]; rfl⟩

section

variable (goesOn : ¬ isLineBreak c)
include goesOn

theorem exists_lines_cons_eq (cs : List Char) :
    ∃ l ls, lines cs = l :: ls ∧ lines (c :: cs) = (c :: l) :: ls := by
  obtain ⟨l, ls, eq⟩ := exists_lines_eq cs
  -- A carriage return would break the line, so the character begins no pair.
  have single (ds : List Char) (isReturn : c = '\r') (_ : cs = '\n' :: ds) : False := by
    subst isReturn
    exact goesOn (by decide)
  refine ⟨l, ls, eq, ?_⟩
  rw [lines_cons single, if_neg goesOn, eq]
  rfl

theorem index?_cons_succ :
    index? (c :: cs) ⟨line + 1, column⟩ = (index? cs ⟨line + 1, column⟩).map (1 + ·) := by
  obtain ⟨l, ls, eq, eq'⟩ := exists_lines_cons_eq goesOn cs
  simp only [index?, eq, eq', indexIn?, Option.map_map, List.length_cons]
  congr 1
  funext i
  simp only [Function.comp_apply]
  omega

/-- In the first line, columns are counted from the first character. -/
theorem index?_cons_zero :
    index? (c :: cs) ⟨0, utf16Size c + column⟩ = (index? cs ⟨0, column⟩).map (1 + ·) := by
  obtain ⟨l, ls, eq, eq'⟩ := exists_lines_cons_eq goesOn cs
  simp only [index?, eq, eq', indexIn?, columnIndex?_cons, Nat.add_comm 1]

/-- A place in the first line that is not the first one lies behind the first character. -/
theorem exists_of_index?_cons_zero (h : index? (c :: cs) ⟨0, column⟩ = some (1 + i)) :
    ∃ column' ≤ column, index? cs ⟨0, column'⟩ = some i := by
  by_cases fits : utf16Size c ≤ column
  · obtain ⟨column', rfl⟩ := Nat.exists_eq_add_of_le fits
    rw [index?_cons_zero goesOn, Option.map_eq_some_iff] at h
    obtain ⟨j, hj, same⟩ := h
    obtain rfl := Nat.add_left_cancel same
    exact ⟨column', Nat.le_add_left _ _, hj⟩
  · -- A column inside the first character stands for its start.
    obtain ⟨l, ls, -, eq⟩ := exists_lines_cons_eq goesOn cs
    rw [index?, eq] at h
    cases column with
    | zero =>
      have origin := Option.some.inj h
      omega
    | succ column =>
      rw [indexIn?, columnIndex?, if_neg fits] at h
      have origin := Option.some.inj h
      omega

end

/-! ### Places -/

theorem feedsOnly_pair_iff : FeedsOnly ('\r' :: '\n' :: cs) ↔ FeedsOnly cs := by
  simp [FeedsOnly, List.isChain_cons]

/-- Without a break in front, the first line is longer, or nothing changes. -/
theorem feedsOnly_cons_iff (goesOn : ¬ isLineBreak c) : FeedsOnly (c :: cs) ↔ FeedsOnly cs := by
  simp [FeedsOnly, List.isChain_cons, goesOn]

theorem feedsOnly_feed_iff : FeedsOnly ('\n' :: cs) ↔ FeedsOnly cs := by
  simp [FeedsOnly, List.isChain_cons]

/-- Any other break may only be the last character of a text. -/
theorem feedsOnly_break_iff (single : ∀ ds, c = '\r' → cs = '\n' :: ds → False)
    (breaks : isLineBreak c) (other : c ≠ '\n') : FeedsOnly (c :: cs) ↔ cs = [] := by
  cases cs with
  | nil => simp [FeedsOnly]
  | cons d ds =>
    have split : ¬ (c = '\r' ∧ d = '\n') := by
      rintro ⟨rfl, rfl⟩
      exact single ds rfl rfl
    simp [FeedsOnly, List.isChain_cons_cons, breaks, other, split]

theorem place_pair (cs : List Char) :
    place ('\r' :: '\n' :: cs) = ⟨(place cs).line + 1, (place cs).column⟩ := by
  have further : (place ('\r' :: '\n' :: cs)).line ≠ 0 := by
    rw [place_cons_of_ne (by decide), place_cons_feed]
    exact Nat.succ_ne_zero _
  rw [place_cons_of_line_ne_zero (by decide) further, place_cons_feed]

/-- Behind a character that breaks no line, a place is found one character further on. -/
theorem index?_place_cons (goesOn : ¬ isLineBreak c) (before : List Char) :
    index? (c :: cs) (place (c :: before)) = (index? cs (place before)).map (1 + ·) := by
  have other : c ≠ '\n' := by
    rintro rfl
    exact goesOn (by decide)
  rw [place_cons_of_ne other]
  obtain ⟨line, column⟩ := place before
  cases line with
  | zero => exact index?_cons_zero goesOn
  | succ line => exact index?_cons_succ goesOn

/-- The place behind the last break is in the line that this break ends. -/
theorem index?_place_break (breaks : isLineBreak c) (other : c ≠ '\n') :
    index? [c] (place [c]) = some 1 := by
  have width : place [c] = ⟨0, utf16Size c + 0⟩ := by
    rw [place_cons_of_ne other]
    rfl
  have single (ds : List Char) (_ : c = '\r') : [] ≠ '\n' :: ds := nofun
  rw [width, index?_break_zero single breaks, columnIndex?_cons]
  rfl

/-- In a text where only line feeds break lines, a document finds every place. -/
theorem index?_place (h : FeedsOnly (before ++ cs)) :
    index? (before ++ cs) (place before) = some before.length := by
  generalize whole : before ++ cs = text at h ⊢
  -- Lines are taken off in front: a pair, another break, or a character that goes on.
  induction text using lines.induct generalizing before with
  | case1 =>
    obtain ⟨rfl, rfl⟩ := List.append_eq_nil_iff.mp whole
    rfl
  | case2 text ih =>
    obtain ⟨rfl, rfl⟩ | ⟨front, rfl, feed⟩ := List.append_eq_cons_iff.mp whole
    · exact index?_origin _
    obtain ⟨rfl, rfl⟩ | ⟨front, rfl, rfl⟩ := List.append_eq_cons_iff.mp feed.symm
    · -- The place between the characters of the pair is in the line that they end.
      rfl
    · rw [place_pair, index?_pair_succ, ih rfl (feedsOnly_pair_iff.mp h), Option.map_some,
        List.length_cons, List.length_cons, Nat.add_comm 2]
  | case3 c text single breaks ih =>
    obtain ⟨rfl, rfl⟩ | ⟨front, rfl, rfl⟩ := List.append_eq_cons_iff.mp whole
    · exact index?_origin _
    by_cases feed : c = '\n'
    · subst feed
      rw [place_cons_feed, index?_break_succ single breaks, ih rfl (feedsOnly_feed_iff.mp h)]
      simp [Nat.add_comm]
    · -- Nothing follows the break, so the place behind it is still in its line.
      have nothing := (feedsOnly_break_iff single breaks feed).mp h
      obtain ⟨rfl, rfl⟩ := List.append_eq_nil_iff.mp nothing
      exact index?_place_break breaks feed
  | case4 c text single goesOn ih =>
    obtain ⟨rfl, rfl⟩ | ⟨front, rfl, rfl⟩ := List.append_eq_cons_iff.mp whole
    · exact index?_origin _
    rw [index?_place_cons goesOn, ih rfl ((feedsOnly_cons_iff goesOn).mp h)]
    simp [Nat.add_comm]

private theorem of_map_add {found : Option Nat} {k m n : Nat} (h : found.map (k + ·) = some m)
    (size : m = k + n) : found = some n := by
  obtain ⟨i, rfl, same⟩ := Option.map_eq_some_iff.mp h
  rw [Nat.add_left_cancel (same.trans size)]

/-- In a line that is not the last one a document does not find the end, unless its column is
beyond that of the end. -/
theorem index?_ne_length (hline : line < (place cs).line) (hcolumn : column ≤ (place cs).column) :
    index? cs ⟨line, column⟩ ≠ some cs.length := by
  intro found
  -- Where characters are taken off the place moves back in its line, so all columns up to that of
  -- the end are needed.
  induction cs using lines.induct generalizing line column with
  | case1 => exact absurd hline (Nat.not_lt_zero _)
  | case2 cs ih =>
    rw [place_pair] at hline hcolumn
    cases line with
    | zero =>
      -- The first line ends the text only if nothing follows, but then the end is in column zero.
      have short := columnIndex?_le (index?_pair_zero.symm.trans found)
      obtain rfl : cs = [] := by simpa using short
      obtain rfl := Nat.le_zero.mp hcolumn
      exact absurd found (by decide)
    | succ line =>
      rw [index?_pair_succ] at found
      exact ih (Nat.lt_of_succ_lt_succ hline) hcolumn (of_map_add found (Nat.add_comm _ 2))
  | case3 c cs single breaks ih =>
    cases line with
    | zero =>
      have short := columnIndex?_le ((index?_break_zero single breaks).symm.trans found)
      obtain rfl : cs = [] := by simpa using short
      by_cases feed : c = '\n'
      · subst feed
        obtain rfl := Nat.le_zero.mp hcolumn
        exact absurd found (by decide)
      · rw [place_cons_of_ne feed] at hline
        exact absurd hline (Nat.not_lt_zero _)
    | succ line =>
      rw [index?_break_succ single breaks] at found
      have behind := of_map_add found (Nat.add_comm _ 1)
      by_cases feed : c = '\n'
      · subst feed
        rw [place_cons_feed] at hline hcolumn
        exact ih (Nat.lt_of_succ_lt_succ hline) hcolumn behind
      · have same := place_cons_of_line_ne_zero feed (Nat.ne_zero_of_lt hline)
        rw [same] at hline hcolumn
        exact ih (Nat.lt_of_succ_lt hline) hcolumn behind
  | case4 c cs single goesOn ih =>
    have other : c ≠ '\n' := by
      rintro rfl
      exact goesOn (by decide)
    have same := place_cons_of_line_ne_zero other (Nat.ne_zero_of_lt hline)
    rw [same] at hline hcolumn
    cases line with
    | zero =>
      rw [List.length_cons, Nat.add_comm] at found
      obtain ⟨column', le, found⟩ := exists_of_index?_cons_zero goesOn found
      exact ih hline (le.trans hcolumn) found
    | succ line =>
      rw [index?_cons_succ goesOn] at found
      exact ih hline hcolumn (of_map_add found (Nat.add_comm _ 1))

/-- A document finds the end of a text if and only if only line feeds break lines. -/
theorem index?_place_self_iff : index? cs (place cs) = some cs.length ↔ FeedsOnly cs := by
  constructor
  · intro found
    -- From the front the text is shortened up to the first break that is no line feed.
    induction cs using lines.induct with
    | case1 => exact .nil
    | case2 cs ih =>
      rw [place_pair, index?_pair_succ] at found
      exact feedsOnly_pair_iff.mpr (ih (of_map_add found (Nat.add_comm _ 2)))
    | case3 c cs single breaks ih =>
      by_cases feed : c = '\n'
      · subst feed
        rw [place_cons_feed, index?_break_succ single breaks] at found
        exact feedsOnly_feed_iff.mpr (ih (of_map_add found (Nat.add_comm _ 1)))
      · refine (feedsOnly_break_iff single breaks feed).mpr ?_
        rw [place_cons_of_ne feed] at found
        split at found
        next first =>
          -- A line of one character has no room for more.
          have short := columnIndex?_le ((index?_break_zero single breaks).symm.trans found)
          simpa using short
        next further =>
          -- The break has made the document count a line more.
          obtain ⟨line, last⟩ : ∃ line, (place cs).line = line + 1 :=
            Nat.exists_eq_succ_of_ne_zero further
          have same : place cs = ⟨line + 1, (place cs).column⟩ := by rw [← last]
          rw [same, index?_break_succ single breaks] at found
          have before : line < (place cs).line := by omega
          exact absurd (of_map_add found (Nat.add_comm _ 1)) (index?_ne_length before le_rfl)
    | case4 c cs single goesOn ih =>
      rw [index?_place_cons goesOn] at found
      exact (feedsOnly_cons_iff goesOn).mpr (ih (of_map_add found (Nat.add_comm _ 1)))
  · intro h
    have found : index? (cs ++ []) (place cs) = some cs.length :=
      index?_place (by rwa [List.append_nil])
    rwa [List.append_nil] at found

end WebForms.Text
