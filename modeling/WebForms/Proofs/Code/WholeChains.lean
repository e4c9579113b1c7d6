import WebForms.Proofs.Code.AccessChains
import WebForms.Proofs.Text.DistinctNames
import WebForms.Proofs.Types.Entries

/-!
# Dots that are not followed back

Behind a dot the members of what stands in front of it are meant. A chain is followed back as long
as names and calls stand in front of the dots. Something else may stand there: a literal, an
expression in parentheses, an item in brackets, or a call with a parenthesis in a literal that has
no partner. The reading stops behind such a dot, and what has been read so far is taken for the
whole chain. The members that are offered then belong to the end of a chain as if nothing was in
front of it, and when no segment has been read at all, everything in scope is offered as if there
was no dot.

A text is read in one way only, so that the dot at which the reading stops is a matter of the text.
It tells whether what is offered belongs to the whole of what is written.

## Main definitions

* `IsBehindDot` — a dot stands in front of the name that is being typed
* `ReadsWhole` — a chain has been read, and no dot stands in front of it
* `CodeScope.FollowsBack` — behind a dot the whole chain has been read, or nothing is offered

## Main results

* `ReadAs.unique` — a text is read in one way only
* `CodeScope.exists_followsBack_iff` — when the whole chain has been read
-/

namespace WebForms

open WrittenSegment

/-- A dot stands in front of the name that is being typed. -/
def IsBehindDot (cs : List Char) : Prop := (pastIdentifier cs.reverse).head? = some '.'

/-- A chain has been read, and no dot stands in front of it. -/
def ReadsWhole (cs : List Char) : Prop :=
  ∃ front segments partialName, ReadAs cs front segments partialName ∧ segments ≠ [] ∧
    front.getLast? ≠ some '.'

/-- If a dot stands in front of the name that is being typed, then the whole chain in front of it
has been read, or nothing is offered. -/
def CodeScope.FollowsBack (s : CodeScope) (snippet : Snippet) : Prop :=
  IsBehindDot snippet.before.toList →
    ReadsWhole snippet.before.toList ∨ s.itemsAt snippet = []

section

variable {cs front front' : List Char} {segments segments' : List WrittenSegment}
  {partialName partialName' : String} {s : CodeScope} {snippet : Snippet}

/-! ### One way to read a text -/

/-- In front of the segment with which a text ends stands the same text, however the segment is
taken to be written. -/
theorem eq_of_append_source_eq {w w' : WrittenSegment} (same : w.segment = w'.segment)
    (text : front ++ w.source = front' ++ w'.source) : front = front' := by
  have names : w.name = w'.name := congrArg AccessSegment.name same
  have backwards := congrArg List.reverse text
  rw [List.reverse_append, List.reverse_append, w.source_reverse_append, w'.source_reverse_append,
    List.cons.injEq] at backwards
  -- The arguments end where they are passed over.
  have past := congrArg pastArguments? backwards.2
  rw [pastArguments?_call, pastArguments?_call, Option.some_inj, Prod.mk.injEq, names] at past
  exact List.reverse_inj.mp (List.append_cancel_left past.2)

theorem eq_of_append_sourceAll_eq (same : segments.map segment = segments'.map segment)
    (text : front ++ sourceAll segments = front' ++ sourceAll segments') : front = front' := by
  induction segments using List.reverseRecOn generalizing segments' with
  | nil =>
    obtain rfl : segments' = [] := by simpa using same.symm
    simpa using text
  | append_singleton segments w ih =>
    cases segments' using List.reverseRecOn with
    | nil => simp at same
    | append_singleton segments' w' =>
      rw [List.map_append, List.map_append, List.map_singleton, List.map_singleton] at same
      obtain ⟨before, last⟩ := List.append_inj' same rfl
      rw [sourceAll_concat, sourceAll_concat, ← List.append_assoc, ← List.append_assoc] at text
      exact ih before (eq_of_append_source_eq (List.cons.inj last).1 text)

/-- A text is read in one way only. -/
theorem ReadAs.unique (h : ReadAs cs front segments partialName)
    (h' : ReadAs cs front' segments' partialName') :
    front = front' ∧ segments.map segment = segments'.map segment := by
  have access := h.access.symm.trans h'.access
  obtain ⟨same, rfl⟩ := MemberAccess.mk.inj access
  refine ⟨eq_of_append_sourceAll_eq same ?_, same⟩
  exact List.append_cancel_right (h.text.symm.trans h'.text)

/-! ### Behind a dot -/

/-- What has been read ends with a dot, or what has not been read does, if nothing has. -/
theorem ReadAs.isBehindDot_iff (h : ReadAs cs front segments partialName) :
    IsBehindDot cs ↔ segments ≠ [] ∨ front.getLast? = some '.' := by
  obtain ⟨-, rfl⟩ := MemberAccess.mk.inj h.access
  have split : front ++ sourceAll segments = (pastIdentifier cs.reverse).reverse := by
    refine List.append_cancel_right (h.text.symm.trans ?_)
    rw [← reverse_eq_identifier, List.reverse_reverse]
  rw [IsBehindDot, ← List.getLast?_reverse, ← split]
  cases segments using List.reverseRecOn with
  | nil => simp [sourceAll]
  | append_singleton segments w =>
    rw [sourceAll_concat, source, ← List.append_assoc, ← List.append_assoc, List.getLast?_concat]
    simp

theorem CodeScope.scopeItems_ne_nil (s : CodeScope) : s.scopeItems ≠ [] := by
  have keywords : s.language.keywords ≠ [] := by cases s.language <;> decide
  simp [scopeItems, keywords]

/-- Where no segment has been read, everything in scope is offered. -/
theorem ReadAs.itemsAt_of_nil (h : ReadAs snippet.before.toList front [] partialName)
    (s : CodeScope) : s.itemsAt snippet = s.scopeItems := by
  rw [CodeScope.itemsAt, h.access]
  rfl

/-- All of the chain has been read unless the reading has stopped at a dot. If it has, something is
offered all the same when no segment has been read, or when the segments that have been read lead to
a type with members. -/
theorem ReadAs.followsBack_iff (h : ReadAs snippet.before.toList front segments partialName) :
    s.FollowsBack snippet ↔
      (front.getLast? = some '.' → segments ≠ [] ∧ s.itemsAt snippet = []) := by
  constructor
  · intro follows stopped
    rcases follows (h.isBehindDot_iff.mpr (.inr stopped)) with whole | nothing
    · obtain ⟨front', segments', partialName', h', -, begins⟩ := whole
      exact absurd ((h.unique h').1 ▸ stopped) begins
    · refine ⟨?_, nothing⟩
      rintro rfl
      exact s.scopeItems_ne_nil (h.itemsAt_of_nil s ▸ nothing)
  · intro unread behind
    by_cases stopped : front.getLast? = some '.'
    · exact .inr (unread stopped).2
    · exact .inl ⟨front, segments, partialName, h,
        (h.isBehindDot_iff.mp behind).resolve_right stopped, stopped⟩

/-- Every text is read as a chain that is written at its end, and as much of it as possible. Behind
a dot, the whole chain has been read or nothing is offered, unless a dot stands in front of what has
been read: then it is so only if there are segments and they do not lead to anything. -/
theorem CodeScope.exists_followsBack_iff (s : CodeScope) (snippet : Snippet) :
    ∃ front segments partialName, ReadAs snippet.before.toList front segments partialName ∧
      (s.FollowsBack snippet ↔
        (front.getLast? = some '.' → segments ≠ [] ∧ s.itemsAt snippet = [])) := by
  obtain ⟨front, segments, partialName, h⟩ := exists_readAs snippet.before.toList
  exact ⟨front, segments, partialName, h, h.followsBack_iff⟩

/-! ### A literal and an item in brackets -/

/-- A type with a member. -/
def sheetDefinition : TypeDefinition where
  space := "Kit"
  name := "Sheet"
  properties := [{ name := "Title", typeName := "System.String" }]

/-- Code in a page with one field. -/
def sheetScope : CodeScope where
  language := .cSharp
  page :=
    { name := "Default_aspx", base := "Site.Default", imports := []
      fields := [{ name := "Sheet", typeName := "Kit.Sheet" }], blocks := [] }
  index := .ofList [sheetDefinition]

/-- The field as it is written in a chain. -/
def sheetSegment : WrittenSegment :=
  .uncalled "Sheet" (by decide) (List.all_eq_true.mp (by decide))

theorem typeOfChain?_sheetSegment :
    sheetScope.typeOfChain? [sheetSegment.segment] = some sheetDefinition := by
  have found : sheetScope.index.find? "Kit.Sheet" = some sheetDefinition :=
    TypeIndex.find?_eq_some_iff.mpr ⟨TypeIndex.mem_add_self _ _, by decide +kernel⟩
  have field : sheetScope.page.field? sheetSegment.segment.name =
      some { name := "Sheet", typeName := "Kit.Sheet" } := by decide +kernel
  have other : sheetScope.isSelf sheetSegment.segment.name = false := by decide +kernel
  simp [CodeScope.typeOfChain?, CodeScope.typeOfRoot?, other, field, found]

theorem memberItems_sheetDefinition (inside : Bool) :
    sheetScope.memberItems sheetDefinition inside ≠ [] := by
  have chain : sheetScope.index.chain sheetDefinition = [sheetDefinition] := rfl
  have title : ∃ e,
      e ∈ CodeScope.declaredItems .cSharp (CodeScope.isVisible inside) sheetDefinition :=
    ⟨_, List.mem_append_left _ (List.mem_append_left _ (List.mem_append_left _
      List.mem_cons_self))⟩
  obtain ⟨e, he⟩ := title
  rw [CodeScope.memberItems, chain, List.flatMap_singleton]
  obtain ⟨e', he', -⟩ := Text.exists_mem_distinctBy he
  exact List.ne_nil_of_mem he'

/-- The members of the field are offered wherever it is read. -/
theorem itemsAt_sheetScope (h : ReadAs snippet.before.toList front [sheetSegment] partialName) :
    sheetScope.itemsAt snippet ≠ [] := by
  rw [CodeScope.itemsAt, h.access]
  simp only [List.map_singleton, typeOfChain?_sheetSegment]
  exact memberItems_sheetDefinition _

/-- Behind a literal everything in scope is offered, and behind an item in brackets the members that
a field of the page has, not those of the item. -/
theorem not_followsBack_sheetScope :
    ¬ sheetScope.FollowsBack { kind := .code, before := "\"a\".", after := "" } ∧
      ¬ sheetScope.FollowsBack { kind := .code, before := "rows[0].Sheet.", after := "" } := by
  have nothing : ∀ c ∈ "".toList, isIdentifierChar c = true := List.all_eq_true.mp rfl
  have behindDot {cs : List Char} (dot : cs.getLast? = some '.') :
      ∀ c ∈ cs.getLast?, isIdentifierChar c = false := by
    intro c hc
    obtain rfl : '.' = c := Option.some.inj (dot.symm.trans hc)
    decide
  constructor
  · have ends : ¬ EndsWithSegment "\"a\".".toList :=
      segmentAt?_reverse_eq_none_iff.mp (by decide)
    have read : ReadAs "\"a\".".toList "\"a\".".toList [] "" :=
      readAs_source ends (behindDot rfl) [] nothing
    exact fun follows => (read.followsBack_iff.mp follows rfl).1 rfl
  · have ends : ¬ EndsWithSegment "rows[0].".toList :=
      segmentAt?_reverse_eq_none_iff.mp (by decide)
    have read : ReadAs "rows[0].Sheet.".toList "rows[0].".toList [sheetSegment] "" :=
      readAs_source ends (behindDot rfl) [sheetSegment] nothing
    exact fun follows => itemsAt_sheetScope read (read.followsBack_iff.mp follows rfl).2

end

end WebForms
