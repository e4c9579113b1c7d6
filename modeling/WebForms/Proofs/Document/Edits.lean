import WebForms.Document

/-!
# Edits as splices

A change that addresses a range cuts the text there and puts its own text in the gap. Here this is
said without indices: the text consists of what stands in front of the range, what is cut out and
what stands behind it, and the range has to address the two seams. The edits of a document are
exactly the sequences of splices, each of the text that the one before has left.

## Main definitions

* `Spliced`, `SplicedAll` — the text after a change, after changes in turn

## Main results

* `applyChanges_eq_ok_iff` — edits are splices
* `Snapshot.apply_of_spliced`, `Snapshot.apply_of_not_spliced` — the next version of a document
-/

namespace WebForms

namespace Text

/-! ### Indices -/

theorem flatten_consFirst (c : Char) (ls : List (List Char)) :
    (consFirst c ls).flatten = c :: ls.flatten := by
  cases ls <;> rfl

/-- The lines put together are the text. -/
theorem flatten_lines (cs : List Char) : (lines cs).flatten = cs := by
  fun_induction lines cs with
  | case1 => rfl
  | case2 cs ih => simp [ih]
  | case3 c cs other isBreak ih => simp [ih]
  | case4 c cs other goesOn ih => rw [flatten_consFirst, ih]

/-- A column stands in its line or at its end. -/
theorem columnIndex?_le {l : List Char} {column i : Nat} (h : columnIndex? l column = some i) :
    i ≤ l.length := by
  fun_induction columnIndex? l column generalizing i with
  | case1 =>
    obtain rfl := Option.some.inj h
    exact Nat.zero_le _
  | case2 => exact nomatch h
  | case3 n c cs fits ih =>
    obtain ⟨j, hj, rfl⟩ := Option.map_eq_some_iff.mp h
    exact Nat.succ_le_succ (ih hj)
  | case4 n c cs wide =>
    obtain rfl := Option.some.inj h
    exact Nat.zero_le _

theorem indexIn?_le {ls : List (List Char)} {line column i : Nat}
    (h : indexIn? ls line column = some i) : i ≤ ls.flatten.length := by
  fun_induction indexIn? ls line column generalizing i with
  | case1 =>
    obtain rfl := Option.some.inj h
    exact Nat.zero_le _
  | case2 => exact nomatch h
  | case3 column l ls =>
    have inLine := columnIndex?_le h
    rw [List.flatten_cons, List.length_append]
    omega
  | case4 column l ls line ih =>
    obtain ⟨j, hj, rfl⟩ := Option.map_eq_some_iff.mp h
    have behind := ih hj
    rw [List.flatten_cons, List.length_append]
    omega

/-- A position stands in the text or at its end. -/
theorem index?_le {cs : List Char} {p : Position} {i : Nat} (h : index? cs p = some i) :
    i ≤ cs.length := by
  have bound := indexIn?_le h
  rwa [flatten_lines] at bound

end Text

/-! ### Splices -/

/-- The text `after` is what the change makes of `cs`. -/
inductive Spliced (cs : List Char) : TextChange → List Char → Prop
  /-- All of the text is replaced. -/
  | whole (text : String) : Spliced cs { text } text.toList
  /-- What stands between the ends of the range is replaced. -/
  | range {front cut back : List Char} (range : Span) (text : String)
      (split : cs = front ++ cut ++ back) (start : Text.index? cs range.start = some front.length)
      (stop : Text.index? cs range.stop = some (front ++ cut).length) :
      Spliced cs { range := some range, text } (front ++ text.toList ++ back)

/-- The last text is what the changes make of the first one, each of what is left by the one
before. -/
inductive SplicedAll : List Char → List TextChange → List Char → Prop
  | nil (cs : List Char) : SplicedAll cs [] cs
  | cons {cs between after : List Char} {change : TextChange} {changes : List TextChange}
      (first : Spliced cs change between) (rest : SplicedAll between changes after) :
      SplicedAll cs (change :: changes) after

variable {cs ds : List Char} {change : TextChange} {changes : List TextChange}

/-- A range that can be addressed divides the text. -/
theorem Spliced.of_index {range : Span} {text : String} {i j : Nat}
    (start : Text.index? cs range.start = some i) (stop : Text.index? cs range.stop = some j)
    (le : i ≤ j) :
    Spliced cs { range := some range, text } (cs.take i ++ text.toList ++ cs.drop j) := by
  -- The range lies in the text, so no part is cut short.
  have bound := Text.index?_le stop
  have front : (cs.take i).length = i := List.length_take_of_le (Nat.le_trans le bound)
  let cut := (cs.take j).drop i
  have seam : cs.take i ++ cut = cs.take j := by
    have inner : (cs.take j).take i = cs.take i := by rw [List.take_take, Nat.min_eq_left le]
    rw [← inner, List.take_append_drop]
  have split : cs = cs.take i ++ cut ++ cs.drop j := by rw [seam, List.take_append_drop]
  refine .range range text split ?_ ?_
  · rw [front, start]
  · rw [seam, List.length_take_of_le bound, stop]

/-- A change of a range cuts out what stands between the indices of its ends. -/
theorem applyChange_range_eq_ok_iff {range : Span} {text : String} :
    applyChange cs { range := some range, text } = .ok ds ↔
      ∃ i j, Text.index? cs range.start = some i ∧ Text.index? cs range.stop = some j ∧ i ≤ j ∧
        ds = cs.take i ++ text.toList ++ cs.drop j := by
  unfold applyChange
  cases hi : Text.index? cs range.start with
  | none => simp [indexOf, hi, bind, Except.bind]
  | some i =>
    cases hj : Text.index? cs range.stop with
    | none => simp [indexOf, hi, hj, bind, Except.bind]
    | some j =>
      by_cases le : i ≤ j
      · have forward : ¬ j < i := Nat.not_lt_of_le le
        simp [indexOf, hi, hj, forward, le, bind, Except.bind, pure, Except.pure, eq_comm]
      · have reversed : j < i := Nat.lt_of_not_le le
        simp [indexOf, hi, hj, reversed, le, bind, Except.bind, throw, throwThe,
          MonadExceptOf.throw]

/-- A change that can be applied is a splice, and the other way round. -/
theorem applyChange_eq_ok_iff : applyChange cs change = .ok ds ↔ Spliced cs change ds := by
  constructor
  · intro h
    obtain ⟨range, text⟩ := change
    cases range with
    | none =>
      obtain rfl := Except.ok.inj h
      exact .whole text
    | some range =>
      obtain ⟨i, j, start, stop, le, rfl⟩ := applyChange_range_eq_ok_iff.mp h
      exact .of_index start stop le
  · intro h
    cases h with
    | whole text => rfl
    | @range front cut back range text split start stop =>
      -- The seams are where the parts of the text begin and end.
      refine applyChange_range_eq_ok_iff.mpr ⟨_, _, start, stop, ?_, ?_⟩
      · simp
      · subst split
        rw [List.drop_left, List.append_assoc front cut, List.take_left]

theorem applyChanges_cons (cs : List Char) (change : TextChange) (changes : List TextChange) :
    applyChanges cs (change :: changes) = (applyChange cs change).bind (applyChanges · changes) :=
  List.foldlM_cons

/-- Changes that can be applied in turn are splices, and the other way round. -/
theorem applyChanges_eq_ok_iff : applyChanges cs changes = .ok ds ↔ SplicedAll cs changes ds := by
  induction changes generalizing cs with
  | nil =>
    constructor
    · intro h
      obtain rfl := Except.ok.inj h
      exact .nil cs
    · intro h
      cases h
      rfl
  | cons change changes ih =>
    rw [applyChanges_cons]
    constructor
    · intro h
      cases hfirst : applyChange cs change with
      | error fault =>
        rw [hfirst] at h
        exact nomatch h
      | ok between =>
        rw [hfirst] at h
        exact .cons (applyChange_eq_ok_iff.mp hfirst) (ih.mp h)
    · intro h
      cases h with
      | cons first rest =>
        rw [applyChange_eq_ok_iff.mpr first]
        exact ih.mpr rest

/-- Splices in turn are splices. -/
theorem SplicedAll.append {es : List Char} {as bs : List TextChange} (h : SplicedAll cs as ds)
    (h' : SplicedAll ds bs es) : SplicedAll cs (as ++ bs) es := by
  rw [← applyChanges_eq_ok_iff] at h h' ⊢
  rw [applyChanges_append, h]
  exact h'

/-! ### The next version -/

theorem exists_outOfBounds_of_indexOf {p : Position} {fault : DocumentFault}
    (h : indexOf cs p = .error fault) : ∃ q, fault = .outOfBounds q := by
  unfold indexOf at h
  split at h
  · exact nomatch h
  · exact ⟨p, (Except.error.inj h).symm⟩

/-- A change fails only when its range cannot be addressed. -/
theorem exists_outOfBounds_of_applyChange {fault : DocumentFault}
    (h : applyChange cs change = .error fault) : ∃ q, fault = .outOfBounds q := by
  unfold applyChange at h
  cases hrange : change.range with
  | none =>
    rw [hrange] at h
    exact nomatch h
  | some range =>
    rw [hrange] at h
    cases hi : indexOf cs range.start with
    | error fault' =>
      simp only [hi, bind, Except.bind, Except.error.injEq] at h
      exact exists_outOfBounds_of_indexOf (h ▸ hi)
    | ok i =>
      cases hj : indexOf cs range.stop with
      | error fault' =>
        simp only [hi, hj, bind, Except.bind, Except.error.injEq] at h
        exact exists_outOfBounds_of_indexOf (h ▸ hj)
      | ok j =>
        by_cases reversed : j < i
        · simp only [hi, hj, reversed, bind, Except.bind, throw, throwThe, MonadExceptOf.throw,
            if_true, Except.error.injEq] at h
          exact ⟨range.stop, h.symm⟩
        · simp [hi, hj, reversed, bind, Except.bind, pure, Except.pure] at h

theorem exists_outOfBounds_of_applyChanges {fault : DocumentFault}
    (h : applyChanges cs changes = .error fault) : ∃ q, fault = .outOfBounds q := by
  induction changes generalizing cs with
  | nil => exact nomatch h
  | cons change changes ih =>
    rw [applyChanges_cons] at h
    cases hfirst : applyChange cs change with
    | error fault' =>
      rw [hfirst] at h
      obtain rfl := Except.error.inj h
      exact exists_outOfBounds_of_applyChange hfirst
    | ok between =>
      rw [hfirst] at h
      exact ih h

namespace Snapshot

variable {s : Snapshot} {version : Int}

/-- An edit for a version that is not later is stale, whatever it says. -/
theorem apply_of_le (changes : List TextChange) (le : version ≤ s.version) :
    s.apply changes version = .error (.staleVersion s.version version) := by
  unfold apply
  rw [if_pos le]
  rfl

/-- An edit for a later version leads to the text that its splices leave. -/
theorem apply_of_spliced (lt : s.version < version)
    (spliced : SplicedAll s.text.toList changes ds) :
    s.apply changes version = .ok (make s.uri version (String.ofList ds)) := by
  unfold apply
  rw [if_neg (Int.not_le.mpr lt), applyChanges_eq_ok_iff.mpr spliced]
  rfl

/-- Without splices, an edit for a later version does not fit the text. -/
theorem apply_of_not_spliced (lt : s.version < version)
    (spoiled : ∀ text, ¬ SplicedAll s.text.toList changes text) :
    ∃ q, s.apply changes version = .error (.outOfBounds q) := by
  cases applied : applyChanges s.text.toList changes with
  | ok text => exact absurd (applyChanges_eq_ok_iff.mp applied) (spoiled text)
  | error fault =>
    obtain ⟨q, rfl⟩ := exists_outOfBounds_of_applyChanges applied
    refine ⟨q, ?_⟩
    unfold apply
    rw [if_neg (Int.not_le.mpr lt), applied]
    rfl

end Snapshot

end WebForms
