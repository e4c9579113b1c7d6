import WebForms.Proofs.Scanner.Sources
import WebForms.Proofs.Text.Slices

/-!
# Cuts while markup is scanned

Three steps of the scanner cut a text: a comment and a server comment lose the dashes in front of
the angle bracket that ends them, and the latest characters of raw text are cut behind the opening
of a closing tag. Here the cuts are made by offset and with a check, and every step goes as before.
The dashes are there since the text of the comment ends with them. The opening of the tag is in
front of the angle bracket, since that is the latest character and no part of an opening.

## Main definitions

* `Scanner.stepChecked` — a step with its cuts checked
* `Scanner.advanceAllChecked`, `Scanner.readAllChecked`, `Scanner.readToChecked` — the run, up to
  the end or to an offset

## Main results

* `Scanner.stepChecked_eq`, `Scanner.advanceAllChecked_eq`, `Scanner.readToChecked_eq` — no cut
  fails
-/

namespace WebForms

namespace Scanner

open Text

variable {t : Scanner} {c : Char}

/-! ### Steps with a check -/

/-- A character of a comment that an angle bracket ends after `closing`, which takes `width`
bytes. -/
def inCommentChecked (t : Scanner) (closing : String) (width : Nat) (c : Char) :
    Checked Scanner :=
  match t.pending with
  | .comment kind text start :: ps =>
    if c = '>' ∧ text.endsWith closing then do
      let kept ← dropLast text.toList width
      return { t with pending := .comment kind (String.ofList kept) start :: ps }.endPlain
        (t.position.advance c)
    else return { t with pending := .comment kind (text.push c) start :: ps }
  | _ => return t.goAstray

/-- The characters with which a closing tag opens. -/
def tagOpening : List Char := ['<', '/']

/-- The text that is kept of raw text, when its latest character is an angle bracket, ends with
the closing tag of `e`. -/
def tailClosesChecked (t : Scanner) (e : OpenTag) : Checked Bool :=
  let tail := t.rawTail.reverse
  match lastOffsetOf? tagOpening tail with
  | none => return false
  | some slash => do
    -- The opening takes two bytes, and the angle bracket at the end one.
    let name ← slice tail (slash + 2) (← less (byteLength tail) 1)
    return sameName (String.ofList (trimChars name)) e.name.localName

/-- A character of raw text that opens no server block. -/
def inRawCharChecked (t : Scanner) (c : Char) : Checked Scanner :=
  let t := { t with rawTail := (c :: t.rawTail).take rawTailLength }
  if c = '<' then return { t with pendingLt := some t.position, rawLt := some t.position }
  else if c = '>' then
    match t.openElements with
    | [] => return { t.goAstray with state := .free }
    | e :: _ => do
      if ← t.tailClosesChecked e then return t.endRawText e (t.position.advance c) else return t
  else return t

/-- A character of raw text. -/
def inRawTextChecked (t : Scanner) (c : Char) : Checked Scanner :=
  match t.pendingLt with
  | none => t.inRawCharChecked c
  | some lt =>
    let t := { t with pendingLt := none }
    if c = '%' then
      return { t with resume := .rawText :: t.resume }.beginBlock lt (t.position.advance c)
    else t.inRawCharChecked c

/-- The effect of a character in the present state. -/
def stepChecked (t : Scanner) (c : Char) : Checked Scanner :=
  match t.state with
  | .comment => t.inCommentChecked "--" 2 c
  | .serverComment => t.inCommentChecked "--%" 3 c
  | .rawText => t.inRawTextChecked c
  | _ => return t.step c

/-- Reads one character and moves on. -/
def advanceChecked (t : Scanner) (c : Char) : Checked Scanner := do
  return { ← t.stepChecked c with
    lastChar := some c
    position := t.position.advance c
    offset := t.offset + c.utf8Size }

/-- Reads the characters in turn. -/
def advanceAllChecked (t : Scanner) (cs : List Char) : Checked Scanner :=
  cs.foldlM advanceChecked t

/-- The scanner after reading the text `s`. -/
def readAllChecked (s : String) : Checked Scanner := ({} : Scanner).advanceAllChecked s.toList

/-- The scanner after reading `s` up to the last boundary that is not behind `offset`. -/
def readToChecked (s : String) (offset : Nat) : Checked Scanner := do
  let cs := s.toList
  let stop := Nat.findGreatest (IsBoundary cs) (min offset (byteLength cs))
  ({} : Scanner).advanceAllChecked (← slice cs 0 stop)

/-! ### No cut fails -/

theorem inCommentChecked_eq {closing : String} {width : Nat}
    (size : byteLength closing.toList = width) (t : Scanner) (c : Char) :
    t.inCommentChecked closing width c = .ok (t.inComment closing c) := by
  subst size
  unfold inCommentChecked inComment
  cases t.pending with
  | nil => rfl
  | cons p ps =>
    cases p with
    | comment kind text start =>
      simp only
      split_ifs with ends
      · have divided := toList_eq_of_endsWith ends.2
        have kept : dropLast text.toList (byteLength closing.toList) =
            .ok (text.dropEnd closing.length).copy.toList := by
          rw [divided, dropLast_append]
        rw [kept, Checked.ok_bind, String.ofList_toList]
        rfl
      · rfl
    | _ => rfl

/-! ### The closing tag of raw text -/

section

variable {rs name : List Char}

/-- An opening at the front of a text is found last if there is none behind. -/
theorem lastOffsetOf?_tagOpening_cons (nothing : lastOffsetOf? tagOpening name = none) :
    lastOffsetOf? tagOpening (c :: name) =
      if c = '<' ∧ name.head? = some '/' then some 0 else none := by
  have here : tagOpening.isPrefixOf (c :: name) = decide (c = '<' ∧ name.head? = some '/') := by
    rw [Bool.eq_iff_iff, decide_eq_true_eq]
    cases name with
    | nil => simp [tagOpening, List.isPrefixOf]
    | cons d ds =>
      simp only [tagOpening, List.isPrefixOf, Bool.and_true, Bool.and_eq_true, beq_iff_eq,
        List.head?_cons, Option.some.injEq]
      constructor <;> exact fun ⟨first, second⟩ => ⟨first.symm, second.symm⟩
  simp only [lastOffsetOf?, nothing, here, decide_eq_true_eq]

/-- The last opening of a closing tag is the one with which the search for the name ends. -/
theorem lastOffsetOf?_tagOpening (behind : List Char)
    (nothing : lastOffsetOf? tagOpening (name ++ behind) = none)
    (apart : rs.head? = some '<' → (name ++ behind).head? ≠ some '/') :
    match closingName? name rs with
    | none => lastOffsetOf? tagOpening (rs.reverse ++ name ++ behind) = none
    | some found => ∃ front, rs.reverse ++ name = front ++ tagOpening ++ found ∧
        lastOffsetOf? tagOpening (rs.reverse ++ name ++ behind) = some (byteLength front) := by
  fun_induction closingName? name rs with
  | case1 name rest =>
    refine ⟨rest.reverse, by simp [tagOpening], ?_⟩
    have slash : lastOffsetOf? tagOpening ('/' :: (name ++ behind)) = none := by
      rw [lastOffsetOf?_tagOpening_cons nothing, if_neg (by simp)]
    have last : lastOffsetOf? tagOpening (tagOpening ++ (name ++ behind)) = some 0 := by
      exact (lastOffsetOf?_tagOpening_cons slash).trans (if_pos ⟨rfl, rfl⟩)
    simpa [tagOpening] using lastOffsetOf?_append rest.reverse last
  | case2 name c rs other ih =>
    -- A character joins the name: no opening begins with it, since the name does not go on with a
    -- slash, and none begins in front of it, since that is where the search would have ended.
    have next : lastOffsetOf? tagOpening (c :: name ++ behind) = none := by
      rw [List.cons_append, lastOffsetOf?_tagOpening_cons nothing]
      refine if_neg ?_
      rintro ⟨angle, slash⟩
      exact apart (angle ▸ rfl) slash
    have apart' : rs.head? = some '<' → (c :: name ++ behind).head? ≠ some '/' := by
      intro angle slash
      obtain ⟨rest, rfl⟩ := List.head?_eq_some_iff.mp angle
      exact other rest (Option.some.inj slash) rfl
    simpa using ih next apart'
  | case3 name => simpa using nothing

/-- The cut behind the last opening succeeds, since the angle bracket at the end of the text is no
part of one. -/
theorem tailClosesChecked_eq (angle : t.rawTail = '>' :: rs) (e : OpenTag) :
    t.tailClosesChecked e = .ok (t.tailCloses e) := by
  have search := @lastOffsetOf?_tagOpening rs [] ['>'] (by decide) (by simp)
  unfold tailClosesChecked tailCloses
  simp only [angle, List.tail_cons, List.reverse_cons, List.append_nil] at search ⊢
  cases found : closingName? [] rs with
  | none =>
    rw [found] at search
    simp only [search]
    rfl
  | some name =>
    rw [found] at search
    obtain ⟨front, split, offset⟩ := search
    have size : byteLength (rs.reverse ++ ['>']) = byteLength rs.reverse + 1 := by
      rw [byteLength_append]
      rfl
    have cut : slice (rs.reverse ++ ['>']) (byteLength front + 2) (byteLength rs.reverse) =
        .ok name := by
      have divided := slice_append (front ++ tagOpening) name ['>']
      rwa [← split, byteLength_append] at divided
    simp only [offset, size, less_add, Checked.ok_bind, cut]
    rfl

end

theorem inRawCharChecked_eq (t : Scanner) (c : Char) :
    t.inRawCharChecked c = .ok (t.inRawChar c) := by
  unfold inRawCharChecked inRawChar
  generalize kept : ({ t with rawTail := (c :: t.rawTail).take rawTailLength } : Scanner) = u
  simp only
  split_ifs with opening closing
  · rfl
  · subst closing
    -- Of the characters that are kept the latest is never dropped.
    have angle : u.rawTail = '>' :: t.rawTail.take (rawTailLength - 1) := by
      rw [← kept]
      rfl
    cases u.openElements with
    | nil => rfl
    | cons e es =>
      simp only [tailClosesChecked_eq angle, Checked.ok_bind]
      split <;> rfl
  · rfl

theorem inRawTextChecked_eq (t : Scanner) (c : Char) :
    t.inRawTextChecked c = .ok (t.inRawText c) := by
  unfold inRawTextChecked inRawText
  cases t.pendingLt with
  | none => exact inRawCharChecked_eq t c
  | some lt =>
    simp only
    split_ifs
    · rfl
    · exact inRawCharChecked_eq _ c

/-! ### Runs -/

/-- A step goes as before: none of its cuts fails. -/
theorem stepChecked_eq (t : Scanner) (c : Char) : t.stepChecked c = .ok (t.step c) := by
  unfold stepChecked step
  cases t.state with
  | comment => exact inCommentChecked_eq (by decide) t c
  | serverComment => exact inCommentChecked_eq (by decide) t c
  | rawText => exact inRawTextChecked_eq t c
  | _ => rfl

theorem advanceChecked_eq (t : Scanner) (c : Char) :
    t.advanceChecked c = .ok (t.advance c) := by
  rw [advanceChecked, stepChecked_eq]
  rfl

/-- A run goes as before. -/
theorem advanceAllChecked_eq (t : Scanner) (cs : List Char) :
    t.advanceAllChecked cs = .ok (t.advanceAll cs) := by
  have steps : advanceChecked = fun t c => pure (t.advance c) := by
    funext t c
    exact advanceChecked_eq t c
  rw [advanceAllChecked, steps, List.foldlM_pure]
  rfl

theorem readAllChecked_eq (s : String) : readAllChecked s = .ok (readAll s) :=
  advanceAllChecked_eq {} s.toList

/-- The last boundary up to an offset is where the text is cut. -/
theorem findGreatest_isBoundary (cs : List Char) (offset : Nat) :
    Nat.findGreatest (IsBoundary cs) (min offset (byteLength cs)) =
      byteLength (takeBytes offset cs) := by
  have whole := takeBytes_append_dropBytes offset cs
  have upTo : byteLength (takeBytes offset cs) ≤ min offset (byteLength cs) := by
    refine Nat.le_min.mpr ⟨byteLength_takeBytes_le offset cs, ?_⟩
    have sizes := congrArg byteLength whole
    rw [byteLength_append] at sizes
    omega
  refine Nat.findGreatest_eq_iff.mpr ⟨upTo, fun _ => isBoundary_iff.mpr ⟨_, _, whole.symm, rfl⟩, ?_⟩
  -- What is in front of a boundary further on would fit too, and would have been taken.
  intro n behind le boundary
  obtain ⟨front, back, rfl, rfl⟩ := isBoundary_iff.mp boundary
  rw [takeBytes_append_of_le (Nat.le_trans le (Nat.min_le_left ..)), byteLength_append] at behind
  omega

/-- Reading up to any offset goes as before. -/
theorem readToChecked_eq (s : String) (offset : Nat) :
    readToChecked s offset = .ok (readTo s offset) := by
  have cut : slice s.toList 0 (byteLength (takeBytes offset s.toList)) =
      .ok (takeBytes offset s.toList) := by
    have divided := slice_zero_append (takeBytes offset s.toList) (dropBytes offset s.toList)
    rwa [takeBytes_append_dropBytes] at divided
  simp only [readToChecked, findGreatest_isBoundary, cut, Checked.ok_bind]
  exact advanceAllChecked_eq {} _

end Scanner

end WebForms
