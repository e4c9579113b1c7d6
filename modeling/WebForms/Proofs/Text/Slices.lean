import Mathlib.Data.Nat.Find
import WebForms.Proofs.Text.Places

/-!
# Cuts at byte offsets

A text is cut at byte offsets, and a cut can fail: its bounds may be reversed, beyond the end or
inside a character. Numbers that count lengths and groups can fail too, by falling below zero. Both
are faults here, while a search that finds nothing is none. An offset is sound because of where it
comes from, which is some text in front of it; the lemmas about searches say which text that is.

## Main definitions

* `TextFault`, `Checked` — a cut or a subtraction that fails, and results that depend on some
* `Text.slice`, `Text.truncate`, `Text.less`, `Text.dropLast` — cuts and subtraction with a check
* `Text.charOffsets` — the characters of a text with their offsets
* `Text.firstOffset?`, `Text.lastOffset?`, `Text.lastOffsetOf?` — the offsets that searches find

## Main results

* `Text.slice_eq_ok_iff` — a cut succeeds if and only if it divides the text in three
-/

namespace WebForms

/-- What can go wrong with an offset. -/
inductive TextFault where
  /-- The bounds are reversed, or one is beyond the end of the text or inside a character. -/
  | badCut (start stop : Nat)
  /-- A number has become less than nothing. -/
  | belowZero (n k : Nat)
  deriving DecidableEq, Repr

/-- A result that depends on cuts and subtractions. -/
abbrev Checked := Except TextFault

namespace Checked

variable {α β : Type}

@[simp] theorem ok_bind (a : α) (f : α → Checked β) : ((.ok a : Checked α) >>= f) = f a := rfl

@[simp] theorem pure_eq_ok (a : α) : (pure a : Checked α) = .ok a := rfl

end Checked

namespace Text

variable {text mid back cs ds pattern : List Char} {n start stop : Nat}

/-! ### Cuts -/

/-- The offset is in front of a character of the text or at its end. -/
def IsBoundary (cs : List Char) (n : Nat) : Prop := byteLength (takeBytes n cs) = n

instance : DecidablePred (IsBoundary cs) := fun _ => inferInstanceAs (Decidable (_ = _))

/-- The text between two offsets. -/
def slice (cs : List Char) (start stop : Nat) : Checked (List Char) :=
  if start ≤ stop ∧ IsBoundary cs start ∧ IsBoundary cs stop then
    .ok (takeBytes (stop - start) (dropBytes start cs))
  else .error (.badCut start stop)

/-- The text up to an offset; all of it when the offset is beyond its end. -/
def truncate (cs : List Char) (n : Nat) : Checked (List Char) :=
  if byteLength cs ≤ n then .ok cs else slice cs 0 n

/-- The difference of two numbers that are not negative. -/
def less (n k : Nat) : Checked Nat := if k ≤ n then .ok (n - k) else .error (.belowZero n k)

/-- The text without its last `k` bytes. -/
def dropLast (cs : List Char) (k : Nat) : Checked (List Char) := do
  truncate cs (← less (byteLength cs) k)

theorem isBoundary_iff :
    IsBoundary cs n ↔ ∃ front back, cs = front ++ back ∧ byteLength front = n := by
  constructor
  · intro boundary
    exact ⟨_, _, (takeBytes_append_dropBytes n cs).symm, boundary⟩
  · rintro ⟨front, back, rfl, rfl⟩
    rw [IsBoundary, takeBytes_byteLength_append]

theorem isBoundary_append (front back : List Char) :
    IsBoundary (front ++ back) (byteLength front) :=
  isBoundary_iff.mpr ⟨front, back, rfl, rfl⟩

@[simp] theorem slice_append (front mid back : List Char) :
    slice (front ++ mid ++ back) (byteLength front) (byteLength (front ++ mid)) = .ok mid := by
  have first := isBoundary_append front (mid ++ back)
  have last := isBoundary_append (front ++ mid) back
  rw [← List.append_assoc] at first
  rw [slice, if_pos ⟨by simp, first, last⟩, byteLength_append, Nat.add_sub_cancel_left,
    List.append_assoc, dropBytes_byteLength_append, takeBytes_byteLength_append]

/-- The text up to a boundary. -/
@[simp] theorem slice_zero_append (front back : List Char) :
    slice (front ++ back) 0 (byteLength front) = .ok front :=
  slice_append [] front back

/-- The text from a boundary on. -/
@[simp] theorem slice_append_byteLength (front back : List Char) :
    slice (front ++ back) (byteLength front) (byteLength (front ++ back)) = .ok back := by
  simpa using slice_append front back []

@[simp] theorem slice_zero_take (cs : List Char) (i : Nat) :
    slice cs 0 (byteLength (cs.take i)) = .ok (cs.take i) := by
  have cut := slice_zero_append (cs.take i) (cs.drop i)
  rwa [List.take_append_drop] at cut

@[simp] theorem slice_byteLength_take (cs : List Char) (i : Nat) :
    slice cs (byteLength (cs.take i)) (byteLength cs) = .ok (cs.drop i) := by
  have cut := slice_append_byteLength (cs.take i) (cs.drop i)
  rwa [List.take_append_drop] at cut

@[simp] theorem takeBytes_byteLength_take (cs : List Char) (i : Nat) :
    takeBytes (byteLength (cs.take i)) cs = cs.take i := by
  have taken := takeBytes_byteLength_append (cs.take i) (cs.drop i)
  rwa [List.take_append_drop] at taken

/-- Of two beginnings of a text, the one that is not larger is the beginning of the other. -/
theorem prefix_of_byteLength_le (hcs : cs <+: text) (hds : ds <+: text)
    (le : byteLength cs ≤ byteLength ds) : cs <+: ds := by
  obtain within | ⟨excess, rfl⟩ := List.prefix_or_prefix_of_prefix hcs hds
  · exact within
  · have same : byteLength (ds ++ excess) = byteLength ds :=
      Nat.le_antisymm le (by simp)
    exact ⟨[], by rw [List.append_nil, eq_of_byteLength_eq hcs hds same]⟩

/-- Whole characters that fit are taken. -/
theorem takeBytes_append_of_le (fits : byteLength cs ≤ n) :
    takeBytes n (cs ++ ds) = cs ++ takeBytes (n - byteLength cs) ds := by
  induction cs generalizing n with
  | nil => rfl
  | cons c cs ih =>
    rw [byteLength_cons] at fits
    rw [List.cons_append, takeBytes, if_pos (by omega), ih (by omega), byteLength_cons,
      Nat.sub_add_eq, List.cons_append]

/-- A cut succeeds if and only if it divides the text in three. -/
theorem slice_eq_ok_iff :
    slice text start stop = .ok mid ↔
      ∃ front back, text = front ++ mid ++ back ∧ start = byteLength front ∧
        stop = byteLength (front ++ mid) := by
  constructor
  · intro cut
    rw [slice] at cut
    split_ifs at cut with bounds
    obtain ⟨le, first, last⟩ := bounds
    obtain ⟨front, behind, split, rfl⟩ := isBoundary_iff.mp first
    obtain ⟨upTo, back, split', rfl⟩ := isBoundary_iff.mp last
    obtain ⟨body, rfl⟩ := prefix_of_byteLength_le ⟨behind, split.symm⟩ ⟨back, split'.symm⟩ le
    have covered : mid = body := by
      have cut' := slice_append front body back
      rw [← split', slice, if_pos ⟨le, first, last⟩] at cut'
      exact Except.ok.inj (cut.symm.trans cut')
    exact ⟨front, back, covered ▸ split', rfl, covered ▸ rfl⟩
  · rintro ⟨front, back, rfl, rfl, rfl⟩
    exact slice_append front mid back

/-- An offset inside a character and reversed bounds are faults. -/
example : slice ['\u00e9', 'x'] 1 3 = .error (.badCut 1 3) ∧
    slice ['\u00e9', 'x'] 2 0 = .error (.badCut 2 0) :=
  ⟨rfl, rfl⟩

@[simp] theorem less_add (n k : Nat) : less (n + k) k = .ok n := by
  rw [less, if_pos (Nat.le_add_left k n), Nat.add_sub_cancel]

theorem truncate_append (front back : List Char) :
    truncate (front ++ back) (byteLength front) = .ok front := by
  unfold truncate
  split_ifs with short
  · have nothing : front = front ++ back :=
      eq_of_byteLength_eq ⟨back, rfl⟩ List.prefix_rfl (Nat.le_antisymm (by simp) short)
    rw [← nothing]
  · exact slice_zero_append front back

/-- A text loses what it ends with. -/
@[simp] theorem dropLast_append (front back : List Char) :
    dropLast (front ++ back) (byteLength back) = .ok front := by
  rw [dropLast, byteLength_append, less_add, Checked.ok_bind, truncate_append]

/-- Sizes are counted as the strings themselves count them. -/
theorem byteLength_toList (s : String) : byteLength s.toList = s.utf8ByteSize := by
  obtain ⟨cs, rfl⟩ : ∃ cs, s = String.ofList cs := ⟨s.toList, String.ofList_toList.symm⟩
  rw [String.toList_ofList]
  induction cs with
  | nil => rfl
  | cons c cs ih => simp [ih, String.ofList_cons]

/-! ### Searches -/

/-- The characters of a text that begins at the offset `start`, with their offsets. -/
def charOffsets (start : Nat) : List Char → List (Nat × Char)
  | [] => []
  | c :: cs => (start, c) :: charOffsets (start + c.utf8Size) cs

/-- The characters of a text from its end on, with their offsets; `rs` is the text in reverse. -/
def offsetsBefore : List Char → List (Nat × Char)
  | [] => []
  | c :: rs => (byteLength rs, c) :: offsetsBefore rs

/-- The offset of the first character for which `p` holds. -/
def firstOffset? (p : Char → Bool) (cs : List Char) : Option Nat :=
  ((charOffsets 0 cs).find? (p ·.2)).map (·.1)

/-- The offset of the last character for which `p` holds. -/
def lastOffset? (p : Char → Bool) (cs : List Char) : Option Nat :=
  ((charOffsets 0 cs).reverse.find? (p ·.2)).map (·.1)

/-- The offset at which `pattern` occurs for the last time. -/
def lastOffsetOf? (pattern : List Char) : List Char → Option Nat
  | [] => if pattern.isEmpty then some 0 else none
  | c :: cs =>
    match lastOffsetOf? pattern cs with
    | some n => some (c.utf8Size + n)
    | none => if pattern.isPrefixOf (c :: cs) then some 0 else none

@[simp] theorem byteLength_reverse (cs : List Char) : byteLength cs.reverse = byteLength cs := by
  induction cs with
  | nil => rfl
  | cons c cs ih => simp [ih, Nat.add_comm]

theorem charOffsets_append (start : Nat) (cs ds : List Char) :
    charOffsets start (cs ++ ds) =
      charOffsets start cs ++ charOffsets (start + byteLength cs) ds := by
  induction cs generalizing start with
  | nil => rfl
  | cons c cs ih => simp [charOffsets, ih, Nat.add_assoc]

theorem reverse_charOffsets (rs : List Char) :
    (charOffsets 0 rs.reverse).reverse = offsetsBefore rs := by
  induction rs with
  | nil => rfl
  | cons c rs ih => simp [charOffsets_append, charOffsets, offsetsBefore, ih]

/-- The offset of a character is the size of what stands in front of it. -/
theorem firstOffset?_eq (p : Char → Bool) (cs : List Char) :
    firstOffset? p cs = (cs.findIdx? p).map fun i => byteLength (cs.take i) := by
  have from' : ∀ start, ((charOffsets start cs).find? (p ·.2)).map (·.1) =
      (cs.findIdx? p).map fun i => start + byteLength (cs.take i) := by
    induction cs with
    | nil => exact fun _ => rfl
    | cons c cs ih =>
      intro start
      cases hit : p c with
      | true => simp [charOffsets, List.findIdx?_cons, hit]
      | false =>
        simp [charOffsets, List.findIdx?_cons, hit, ih, Function.comp_def, Nat.add_assoc]
  rw [firstOffset?, from' 0]
  simp only [Nat.zero_add]

theorem lastOffset?_reverse (p : Char → Bool) (rs : List Char) :
    lastOffset? p rs.reverse = ((offsetsBefore rs).find? (p ·.2)).map (·.1) := by
  rw [lastOffset?, reverse_charOffsets]

/-- What is found in the end of a text is found in the text. -/
theorem lastOffsetOf?_append (front : List Char) (found : lastOffsetOf? pattern back = some n) :
    lastOffsetOf? pattern (front ++ back) = some (byteLength front + n) := by
  induction front with
  | nil => simpa using found
  | cons c cs ih => simp [lastOffsetOf?, ih, Nat.add_assoc]

end Text

end WebForms
