import WebForms.Code.Insertion
import WebForms.Proofs.Text.Slices
import WebForms.Proofs.Text.Trimming

/-!
# Cuts while a handler is placed

The place for a new handler is found in three searches, each starting where the one before has
ended: the declaration of the class, the end of its body, and the start of the line in which that
end stands. The searches give offsets, and the text is cut there. Here the cuts are made with a
check, and so is the count of open braces: since it starts at an opening brace and ends with the
brace that closes it, there is always one to take away. The offsets are those of the characters at
the indices that the searches by index find.

## Main definitions

* `closingBraceFrom`, `Language.classEndChecked` — the end of the body of a class
* `lineStartChecked` — the start of a blank line in front of a place
* `Language.insertionOffsetChecked`, `HandlerProposal.insertionChecked` — the place and the edit

## Main results

* `Language.insertionOffsetChecked_eq`, `HandlerProposal.insertionChecked_eq` — no cut fails
-/

namespace WebForms

open Text

/-- The offset of the brace that closes the last open group, when characters are met with their
offsets and `depth` groups are open. -/
def closingBraceFrom (depth : Nat) : List (Nat × Char) → Checked (Option Nat)
  | [] => return none
  | (i, c) :: ps =>
    if c = '\x7b' then closingBraceFrom (depth + 1) ps
    else if c = '\x7d' then do
      let depth ← less depth 1
      if depth = 0 then return some i else closingBraceFrom depth ps
    else closingBraceFrom depth ps

/-- The offset of the start of the line in which an offset lies, if only white space stands
between, else the offset itself. -/
def lineStartChecked (cs : List Char) (offset : Nat) : Checked Nat := do
  let start := ((lastOffset? (· == '\n') (← slice cs 0 offset)).map (· + 1)).getD 0
  let between ← slice cs start offset
  return if (trimChars between).isEmpty then start else offset

namespace Language

/-- The offset at which the body of a class ends whose declaration ends at the offset `start`. -/
def classEndChecked (cs : List Char) (start : Nat) : Language → Checked (Option Nat)
  | cSharp => do
    let behind ← slice cs start (byteLength cs)
    let some skipped := firstOffset? (· == '\x7b') behind | return none
    let body ← slice cs (start + skipped) (byteLength cs)
    return (← closingBraceFrom 0 (charOffsets 0 body)).map (start + skipped + ·)
  | visualBasic => do
    -- A search for a pattern may start anywhere up to the end of the text, but not behind it.
    let _ ← less (byteLength cs) start
    return (endLineFrom? (takeBytes start cs).length 0 true cs).map fun i => byteLength (cs.take i)

/-- The offset at which a new member of a class is written. -/
def insertionOffsetChecked (l : Language) (source className : String) : Checked (Option Nat) := do
  let cs := source.toList
  let some declared := declarationEnd? l.classSyntax (unqualifiedName className).toList cs
    | return none
  let some stop ← l.classEndChecked cs (byteLength (cs.take declared)) | return none
  return some (← lineStartChecked cs stop)

end Language

/-- The edit that writes a handler into the source of its class. -/
def HandlerProposal.insertionChecked (h : HandlerProposal) (l : Language) (source : String) :
    Checked (Option TextInsertion) := do
  return (← l.insertionOffsetChecked source h.className).map fun offset =>
    { position := positionAt source.toList offset, text := h.stub l }

/-! ### Indices that are found -/

section

variable {cs : List Char} {depth index start i : Nat} {atLine : Bool}

theorem closingBrace?_bounds (h : closingBrace? depth index cs = some i) :
    index ≤ i ∧ i < index + cs.length := by
  fun_induction closingBrace? depth index cs with
  | case1 => exact nomatch h
  | case3 index cs => simp_all
  | case2 depth index cs ih | case4 index cs depth ih | case5 depth index c cs _ _ ih =>
    have bounds := ih h
    rw [List.length_cons]
    omega

theorem lt_length_of_bodyEnd? (h : bodyEnd? cs start = some i) : i < cs.length := by
  obtain ⟨skipped, found, closed⟩ := Option.bind_eq_some_iff.mp h
  have bounds := closingBrace?_bounds closed
  rw [List.length_drop] at bounds
  omega

theorem endLineFrom?_lt (h : endLineFrom? start index atLine cs = some i) :
    i < index + cs.length := by
  fun_induction endLineFrom? start index atLine cs with
  | case1 => exact nomatch h
  | case2 => simp_all
  | case3 index atLine c cs _ ih =>
    have bound := ih h
    rw [List.length_cons]
    omega

theorem Language.lt_length_of_classEnd? {l : Language} (h : l.classEnd? cs start = some i) :
    i < cs.length := by
  cases l with
  | cSharp => exact lt_length_of_bodyEnd? h
  | visualBasic => simpa using endLineFrom?_lt h

/-! ### The line of a place -/

/-- The offset behind the last line feed in front of a place. -/
theorem lineStart_reverse (rs : List Char) :
    ((lastOffset? (· == '\n') rs.reverse).map (· + 1)).getD 0 =
      byteLength (rs.dropWhile (· != '\n')) := by
  rw [lastOffset?_reverse]
  induction rs with
  | nil => rfl
  | cons c rs ih =>
    by_cases feed : c = '\n'
    · subst feed
      simp [offsetsBefore, Nat.add_comm]
      rfl
    · simpa [offsetsBefore, feed] using ih

/-- A line is cut off in front of a place, and it is the line that is looked at by index. -/
theorem lineStartChecked_eq (inside : i ≤ cs.length) :
    lineStartChecked cs (byteLength (cs.take i)) =
      .ok (byteLength (cs.take (blankLineStart cs i))) := by
  unfold lineStartChecked blankLineStart
  generalize hline : (cs.take i).reverse.takeWhile (· != '\n') = line
  generalize hrest : (cs.take i).reverse.dropWhile (· != '\n') = rest
  have front : cs.take i = rest.reverse ++ line.reverse := by
    rw [← List.reverse_append, ← hline, ← hrest, List.takeWhile_append_dropWhile,
      List.reverse_reverse]
  have split : cs = rest.reverse ++ line.reverse ++ cs.drop i := by
    rw [← front, List.take_append_drop]
  have between : slice cs (byteLength rest) (byteLength (cs.take i)) = .ok line.reverse := by
    have cut := slice_append rest.reverse line.reverse (cs.drop i)
    rwa [← split, ← front, byteLength_reverse] at cut
  rw [slice_zero_take, Checked.ok_bind, ← (cs.take i).reverse_reverse, lineStart_reverse, hrest,
    List.reverse_reverse]
  simp only
  rw [between, Checked.ok_bind, isEmpty_trimChars, List.all_reverse]
  split_ifs with blank
  · -- Inside the text, the line is as long as the indices say.
    have size := congrArg List.length front
    simp only [List.length_take, List.length_append, List.length_reverse] at size
    have start : cs.take (i - line.length) = rest.reverse := by
      rw [split, List.append_assoc]
      exact List.take_left' (by rw [List.length_reverse]; omega)
    rw [start, byteLength_reverse]
    rfl
  · rfl

/-! ### The end of a class -/

/-- The offset of an index does not depend on where the count begins. -/
theorem map_take_cons {found : Option Nat} (behind : ∀ i, found = some i → index < i) (start : Nat)
    (c : Char) (cs : List Char) :
    (found.map fun i => start + c.utf8Size + byteLength (cs.take (i - (index + 1)))) =
      found.map fun i => start + byteLength ((c :: cs).take (i - index)) := by
  refine Option.map_congr fun i hi => ?_
  have next : i - index = i - (index + 1) + 1 := by
    have := behind i hi
    omega
  rw [next, List.take_succ_cons, byteLength_cons, Nat.add_assoc]

/-- The scan by offset is inside one group more than the scan by index, which begins behind the
brace that opens it. -/
theorem closingBraceFrom_charOffsets (depth start index : Nat) (cs : List Char) :
    closingBraceFrom (depth + 1) (charOffsets start cs) =
      .ok ((closingBrace? depth index cs).map fun i =>
        start + byteLength (cs.take (i - index))) := by
  -- By index the last brace is met at depth zero, by offset at depth one, so that there is one to
  -- take away.
  fun_induction closingBrace? depth index cs generalizing start with
  | case1 => rfl
  | case2 depth index cs ih =>
    rw [charOffsets, closingBraceFrom, if_pos rfl, ih,
      map_take_cons fun i hi => (closingBrace?_bounds hi).1]
  | case3 index cs =>
    rw [charOffsets, closingBraceFrom, if_neg (by decide), if_pos rfl, less_add]
    simp
  | case4 index cs depth ih =>
    rw [charOffsets, closingBraceFrom, if_neg (by decide), if_pos rfl, less_add, Checked.ok_bind,
      if_neg (Nat.succ_ne_zero depth), ih, map_take_cons fun i hi => (closingBrace?_bounds hi).1]
  | case5 depth index c cs opening closing ih =>
    rw [charOffsets, closingBraceFrom, if_neg opening, if_neg closing, ih,
      map_take_cons fun i hi => (closingBrace?_bounds hi).1]

/-- The body begins with the first brace behind the declaration. -/
theorem bodyEnd?_eq {skipped : Nat}
    (found : (cs.drop start).findIdx? (· == '\x7b') = some skipped) :
    ∃ tail, cs.drop (start + skipped) = '\x7b' :: tail ∧
      bodyEnd? cs start = closingBrace? 0 (start + skipped + 1) tail := by
  obtain ⟨within, brace, -⟩ := List.findIdx?_eq_some_iff_getElem.mp found
  refine ⟨cs.drop (start + skipped + 1), ?_, ?_⟩
  · rw [← List.drop_drop, List.drop_eq_getElem_cons within, eq_of_beq brace, List.drop_drop,
      Nat.add_assoc]
  · rw [bodyEnd?, found]
    rfl

theorem Language.classEndChecked_eq (l : Language) (inside : start ≤ cs.length) :
    l.classEndChecked cs (byteLength (cs.take start)) =
      .ok ((l.classEnd? cs start).map fun i => byteLength (cs.take i)) := by
  cases l with
  | cSharp =>
    simp only [classEndChecked, classEnd?, slice_byteLength_take, Checked.ok_bind,
      firstOffset?_eq]
    cases found : (cs.drop start).findIdx? (· == '\x7b') with
    | none => simp [bodyEnd?, found]
    | some skipped =>
      obtain ⟨tail, body, closed⟩ := bodyEnd?_eq found
      have first : byteLength (cs.take start) + byteLength ((cs.drop start).take skipped) =
          byteLength (cs.take (start + skipped)) := by
        rw [← byteLength_append, ← List.take_add]
      simp only [Option.map_some, first, slice_byteLength_take, Checked.ok_bind, body, closed]
      have behind i (hi : closingBrace? 0 (start + skipped + 1) tail = some i) :
          start + skipped < i := (closingBrace?_bounds hi).1
      rw [charOffsets, closingBraceFrom, if_pos rfl,
        closingBraceFrom_charOffsets 0 _ (start + skipped + 1), map_take_cons behind]
      simp only [Checked.ok_bind, Checked.pure_eq_ok, Option.map_map]
      refine congrArg _ (Option.map_congr fun i hi => ?_)
      have whole : start + skipped + (i - (start + skipped)) = i := by
        have := behind i hi
        omega
      rw [Function.comp_apply, Nat.zero_add, ← body, ← byteLength_append, ← List.take_add, whole]
  | visualBasic =>
    have upTo : less (byteLength cs) (byteLength (cs.take start)) =
        .ok (byteLength (cs.drop start)) := by
      have rest := less_add (byteLength (cs.drop start)) (byteLength (cs.take start))
      rwa [Nat.add_comm, ← byteLength_append, List.take_append_drop] at rest
    have index : (takeBytes (byteLength (cs.take start)) cs).length = start := by
      rw [takeBytes_byteLength_take, List.length_take, Nat.min_eq_left inside]
    simp only [classEndChecked, classEnd?, upTo, Checked.ok_bind, index]
    rfl

theorem declarationLength?_le {d : ClassSyntax} {name : List Char} {previous : Option Char}
    {length : Nat} (h : declarationLength? d name previous cs = some length) :
    length ≤ cs.length := by
  unfold declarationLength? at h
  split at h
  · exact nomatch h
  · obtain ⟨rest, -, found⟩ := Option.bind_eq_some_iff.mp h
    obtain ⟨k, -, found⟩ := List.exists_of_findSome?_eq_some found
    obtain ⟨after, -, found⟩ := Option.bind_eq_some_iff.mp found
    simp only at found
    split_ifs at found
    obtain rfl := Option.some.inj found
    exact Nat.sub_le ..

theorem declarationEndFrom?_le {d : ClassSyntax} {name : List Char} {previous : Option Char}
    (h : declarationEndFrom? d name previous index cs = some i) : i ≤ index + cs.length := by
  fun_induction declarationEndFrom? d name previous index cs with
  | case1 => exact nomatch h
  | case2 previous index c cs length found =>
    have within := declarationLength?_le found
    obtain rfl := Option.some.inj h
    omega
  | case3 previous index c cs _ ih =>
    have within := ih h
    rw [List.length_cons]
    omega

end

theorem Language.insertionOffsetChecked_eq (l : Language) (source className : String) :
    l.insertionOffsetChecked source className = .ok (l.insertionOffset? source className) := by
  simp only [insertionOffsetChecked, insertionOffset?, insertionIndex?]
  generalize source.toList = cs
  cases declared : declarationEnd? l.classSyntax (unqualifiedName className).toList cs with
  | none => rfl
  | some stop =>
    have within : stop ≤ cs.length := by simpa using declarationEndFrom?_le declared
    simp only [classEndChecked_eq l within, Checked.ok_bind]
    cases ended : l.classEnd? cs stop with
    | none => simp [ended]
    | some i =>
      have inside := Nat.le_of_lt (lt_length_of_classEnd? ended)
      simp [ended, lineStartChecked_eq inside]

theorem HandlerProposal.insertionChecked_eq (h : HandlerProposal) (l : Language) (source : String) :
    h.insertionChecked l source = .ok (h.insertion? l source) := by
  rw [insertionChecked, l.insertionOffsetChecked_eq]
  rfl

end WebForms
