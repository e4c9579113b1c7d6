import Mathlib.Data.List.Induction
import WebForms.Page.Facts
import WebForms.Proofs.Text.PositionOrder

/-!
# Places in a text

A position means a place in a text when it is reached by reading some of the first characters. Such
a position names these characters: different ones end at different positions, and the offset of the
position is their size. Two places, one behind the other, divide the text in three.

## Main definitions

* `Text.place`, `Text.IsPlace` — the position behind a text, the positions in a text
* `Span.Divides` — a span as the text in front of it, the text that it covers and the text behind it

## Main results

* `Text.offsetOf?_place` — the offset of a place
* `Span.Divides.slice?_eq` — the text that a span covers
-/

namespace WebForms

namespace Position

variable {p q : Position} {c : Char} {cs : List Char}

theorem le_advanceAll (p : Position) (cs : List Char) : p ≤ p.advanceAll cs := by
  induction cs generalizing p with
  | nil => exact le_rfl
  | cons c cs ih => exact le_trans (p.le_advance c) (ih (p.advance c))

theorem lt_advanceAll (p : Position) (h : cs ≠ []) : p < p.advanceAll cs := by
  obtain ⟨c, ds, rfl⟩ := List.exists_cons_of_ne_nil h
  exact lt_of_lt_of_le (p.lt_advance c) (le_advanceAll _ ds)

end Position

namespace Text

variable {text cs ds before : List Char} {p q : Position} {c : Char}

/-- The position behind a text that begins at the origin. -/
def place (cs : List Char) : Position := ({} : Position).advanceAll cs

theorem place_append (cs ds : List Char) : place (cs ++ ds) = (place cs).advanceAll ds :=
  Position.advanceAll_append {} cs ds

theorem place_concat (cs : List Char) (c : Char) : place (cs ++ [c]) = (place cs).advance c :=
  place_append cs [c]

theorem place_le_append (cs ds : List Char) : place cs ≤ place (cs ++ ds) := by
  rw [place_append]
  exact Position.le_advanceAll _ ds

theorem place_lt_append (h : ds ≠ []) : place cs < place (cs ++ ds) := by
  rw [place_append]
  exact Position.lt_advanceAll _ h

/-- Of two texts with which a third begins, the one whose place is not behind that of the other is
the beginning of it. -/
theorem prefix_of_place_le (hcs : cs <+: text) (hds : ds <+: text) (le : place cs ≤ place ds) :
    cs <+: ds := by
  obtain within | ⟨excess, rfl⟩ := List.prefix_or_prefix_of_prefix hcs hds
  · exact within
  · cases excess with
    | nil => exact ⟨[], by simp⟩
    | cons d rest => exact absurd (place_lt_append (List.cons_ne_nil d rest)) (not_lt_of_ge le)

/-- Different texts with which a third begins end at different places. -/
theorem eq_of_place_eq (hcs : cs <+: text) (hds : ds <+: text) (same : place cs = place ds) :
    cs = ds := by
  have first := prefix_of_place_le hcs hds same.le
  have second := prefix_of_place_le hds hcs same.ge
  exact first.eq_of_length (le_antisymm first.length_le second.length_le)

/-- Where a line begins makes no difference to the lines behind it. -/
private theorem advanceAll_eq (line column : Nat) (cs : List Char) :
    (⟨line, column⟩ : Position).advanceAll cs =
      if (place cs).line = 0 then ⟨line, column + (place cs).column⟩
      else ⟨line + (place cs).line, (place cs).column⟩ := by
  -- From the end, since the column depends on the last line only.
  induction cs using List.reverseRecOn with
  | nil => rfl
  | append_singleton cs c ih =>
    rw [Position.advanceAll_append, ih, place_concat]
    by_cases first : (place cs).line = 0
    · by_cases feed : c = '\n' <;> simp [Position.advance, first, feed, Nat.add_assoc]
    · by_cases feed : c = '\n' <;> simp [Position.advance, first, feed, Nat.add_assoc]

/-- A line feed in front of a text makes one more line. -/
theorem place_cons_feed (cs : List Char) :
    place ('\n' :: cs) = ⟨(place cs).line + 1, (place cs).column⟩ := by
  have shifted := advanceAll_eq 1 0 cs
  change (⟨1, 0⟩ : Position).advanceAll cs = _
  rw [shifted]
  split
  next first => simp [first]
  next => simp [Nat.add_comm]

/-- Any other character in front of a text makes its first line longer. -/
theorem place_cons_of_ne (h : c ≠ '\n') (cs : List Char) :
    place (c :: cs) =
      if (place cs).line = 0 then ⟨0, utf16Size c + (place cs).column⟩ else place cs := by
  have shifted := advanceAll_eq 0 (utf16Size c) cs
  have stepped : place (c :: cs) = (⟨0, utf16Size c⟩ : Position).advanceAll cs := by
    simp [place, Position.advance, h]
  rw [stepped, shifted]
  split
  · rfl
  · simp

/-- Behind the first line, a longer first line makes no difference. -/
theorem place_cons_of_line_ne_zero (h : c ≠ '\n') (further : (place (c :: cs)).line ≠ 0) :
    place (c :: cs) = place cs := by
  rw [place_cons_of_ne h] at further ⊢
  split at further
  · exact absurd rfl further
  next first => rw [if_neg first]

/-! ### Positions in a text -/

/-- The position is reached by reading the first characters of `cs`. -/
def IsPlace (cs : List Char) (p : Position) : Prop :=
  ∃ before, before <+: cs ∧ p = place before

theorem isPlace_origin (cs : List Char) : IsPlace cs {} :=
  ⟨[], List.nil_prefix, rfl⟩

theorem isPlace_end (cs : List Char) : IsPlace cs (place cs) :=
  ⟨cs, List.prefix_rfl, rfl⟩

theorem IsPlace.of_inside (h : IsPlace cs p) (inside : cs <+: text) : IsPlace text p := by
  obtain ⟨before, front, rfl⟩ := h
  exact ⟨before, front.trans inside, rfl⟩

theorem IsPlace.append (h : IsPlace cs p) (ds : List Char) : IsPlace (cs ++ ds) p :=
  h.of_inside (List.prefix_append cs ds)

theorem IsPlace.le (h : IsPlace cs p) : p ≤ place cs := by
  obtain ⟨before, ⟨behind, rfl⟩, rfl⟩ := h
  exact place_le_append before behind

/-! ### Offsets -/

/-- In a line, the column behind some characters has their size as its offset. -/
theorem columnOffset_unitLength (offset : Nat) (h : '\n' ∉ before) (behind : List Char) :
    columnOffset offset (unitLength before) (before ++ behind) = offset + byteLength before := by
  induction before generalizing offset with
  | nil => cases behind <;> rfl
  | cons c cs ih =>
    obtain ⟨other, rest⟩ := List.ne_and_not_mem_of_not_mem_cons h
    have width := Position.utf16Size_pos c
    -- No character is without width, so the count does not stop early.
    have goesOn : ¬ (unitLength (c :: cs) = 0 ∨ c = '\n') := by
      rw [unitLength_cons]
      exact not_or.mpr ⟨by omega, Ne.symm other⟩
    rw [List.cons_append, columnOffset, if_neg goesOn, unitLength_cons, Nat.add_sub_cancel_left,
      ih _ rest, byteLength_cons, Nat.add_assoc]

/-- In its first line, a text ends at the column of its width. -/
theorem column_place_of_line_eq_zero (h : (place cs).line = 0) :
    '\n' ∉ cs ∧ (place cs).column = unitLength cs := by
  induction cs with
  | nil => exact ⟨List.not_mem_nil, rfl⟩
  | cons c cs ih =>
    by_cases feed : c = '\n'
    · subst feed
      rw [place_cons_feed] at h
      exact absurd h (Nat.succ_ne_zero _)
    · rw [place_cons_of_ne feed] at h ⊢
      by_cases first : (place cs).line = 0
      · obtain ⟨none, width⟩ := ih first
        rw [if_pos first]
        refine ⟨List.not_mem_cons_of_ne_of_not_mem (Ne.symm feed) none, ?_⟩
        rw [unitLength_cons, width]
      · rw [if_neg first] at h
        exact absurd h first

/-- The offset of a place is the size of the text in front of it. -/
theorem offsetFrom?_place (offset : Nat) (before behind : List Char) :
    offsetFrom? offset (place before).line (place before).column (before ++ behind) =
      some (offset + byteLength before) := by
  induction before generalizing offset with
  | nil => cases behind <;> rfl
  | cons c cs ih =>
    by_cases feed : c = '\n'
    · subst feed
      rw [place_cons_feed, List.cons_append, offsetFrom?, if_pos rfl, ih, byteLength_cons,
        Nat.add_assoc]
    · by_cases first : (place (c :: cs)).line = 0
      · -- In the first line the offset is found by counting columns.
        obtain ⟨none, width⟩ := column_place_of_line_eq_zero first
        rw [first, width, offsetFrom?, columnOffset_unitLength offset none]
      · -- Behind the first line, neither line nor column depends on the character.
        have same := place_cons_of_line_ne_zero feed first
        rw [same] at first ⊢
        obtain ⟨line, further⟩ := Nat.exists_eq_succ_of_ne_zero first
        have rest := ih (offset + c.utf8Size)
        rw [further] at rest ⊢
        rw [List.cons_append, offsetFrom?, if_neg feed, rest, byteLength_cons, Nat.add_assoc]

/-- The offset of a place is the size of the text in front of it. -/
theorem offsetOf?_place (before behind : List Char) :
    offsetOf? (before ++ behind) (place before) = some (byteLength before) := by
  rw [offsetOf?, offsetFrom?_place, Nat.zero_add]

@[simp] theorem takeBytes_byteLength_append (cs ds : List Char) :
    takeBytes (byteLength cs) (cs ++ ds) = cs := by
  induction cs with
  | nil =>
    cases ds with
    | nil => rfl
    | cons d ds => simp [takeBytes, Nat.not_le_of_lt d.utf8Size_pos]
  | cons c cs ih => simp [takeBytes, ih]

@[simp] theorem dropBytes_byteLength_append (cs ds : List Char) :
    dropBytes (byteLength cs) (cs ++ ds) = ds := by
  induction cs with
  | nil =>
    cases ds with
    | nil => rfl
    | cons d ds => simp [dropBytes, Nat.not_le_of_lt d.utf8Size_pos]
  | cons c cs ih => simp [dropBytes, ih]

/-- The beginnings of a text differ in size. -/
theorem eq_of_byteLength_eq (hcs : cs <+: text) (hds : ds <+: text)
    (same : byteLength cs = byteLength ds) : cs = ds := by
  obtain ⟨behind, rfl⟩ := hcs
  obtain ⟨behind', split⟩ := hds
  calc
    cs = takeBytes (byteLength cs) (cs ++ behind) := (takeBytes_byteLength_append cs behind).symm
    _ = takeBytes (byteLength ds) (ds ++ behind') := by rw [same, split]
    _ = ds := takeBytes_byteLength_append ds behind'

end Text

open Text

/-- The span covers `body`, with `before` in front of it and `behind` behind it. -/
structure Span.Divides (span : Span) (text before body behind : List Char) : Prop where
  split : text = before ++ body ++ behind
  start : span.start = place before
  stop : span.stop = place (before ++ body)

namespace Span.Divides

variable {span : Span} {text before body behind : List Char}

theorem isPlace_start (h : span.Divides text before body behind) : IsPlace text span.start :=
  ⟨before, ⟨body ++ behind, by rw [← List.append_assoc, h.split]⟩, h.start⟩

theorem isPlace_stop (h : span.Divides text before body behind) : IsPlace text span.stop :=
  ⟨before ++ body, ⟨behind, h.split.symm⟩, h.stop⟩

/-- Two places of a text, one behind the other, divide it. -/
theorem exists_of_isPlace {p q : Position} (hp : IsPlace text p) (hq : IsPlace text q)
    (le : p ≤ q) : ∃ before body behind, (⟨p, q⟩ : Span).Divides text before body behind := by
  obtain ⟨front, inside, rfl⟩ := hp
  obtain ⟨upTo, ⟨behind, split⟩, rfl⟩ := hq
  obtain ⟨body, rfl⟩ := prefix_of_place_le inside ⟨behind, split⟩ le
  exact ⟨front, body, behind, split.symm, rfl, rfl⟩

/-- The text that the span covers can be cut out. -/
theorem slice?_eq (h : span.Divides text before body behind) :
    PageFacts.slice? text span = some body := by
  obtain ⟨rfl, start, stop⟩ := h
  have first : offsetOf? (before ++ body ++ behind) span.start = some (byteLength before) := by
    rw [start, List.append_assoc, offsetOf?_place]
  have last : offsetOf? (before ++ body ++ behind) span.stop =
      some (byteLength (before ++ body)) := by
    rw [stop, offsetOf?_place]
  simp only [PageFacts.slice?, first, last, bind, Option.bind, pure]
  rw [byteLength_append, Nat.add_sub_cancel_left, List.append_assoc, dropBytes_byteLength_append,
    takeBytes_byteLength_append]

end Span.Divides

end WebForms
