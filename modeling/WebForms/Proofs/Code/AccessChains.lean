import Mathlib.Data.List.TakeWhile
import WebForms.Proofs.Code.Slices

/-!
# Chains as they are written

A chain of member accesses is written with a dot behind each segment, and a segment that is called
has its arguments in parentheses in front of the dot. It is read backwards from the caret: the name
that is being typed first, then one segment after the other, as long as there is a dot. The
arguments of a call are passed over by counting their parentheses.

What is read backwards is therefore what was written, whatever stands in front of it, if only this
does not continue a name or a chain. The other way round, whatever is read does stand there, and
nothing in front of it could have been read as one more segment.

## Main definitions

* `WrittenSegment` — a segment as it is written, with its arguments
* `IsContext` — a text behind which a chain may begin
* `ReadAs` — a text in front of a caret, by what is read of it

## Main results

* `accessBefore_source` — a chain is read as it is written
* `exists_readAs` — every text is read as a chain that is written there
-/

namespace WebForms

/-! ### Segments as they are written -/

/-- A segment of a chain as it is written. -/
structure WrittenSegment where
  name : String
  /-- What stands between the parentheses, if the segment is called. -/
  arguments : Option (List Char)
  named : name ≠ ""
  isWord : ∀ c ∈ name.toList, isIdentifierChar c = true
  paired : ∀ cs ∈ arguments, Paired cs

namespace WrittenSegment

/-- The arguments in their parentheses. -/
def call (s : WrittenSegment) : List Char := s.arguments.elim [] fun cs => '(' :: cs ++ [')']

/-- The segment with the dot behind it. -/
def source (s : WrittenSegment) : List Char := s.name.toList ++ s.call ++ ['.']

/-- What is read of the segment. -/
def segment (s : WrittenSegment) : AccessSegment := ⟨s.name, s.arguments.isSome⟩

/-- A segment that is not called. -/
def uncalled (name : String) (named : name ≠ "")
    (isWord : ∀ c ∈ name.toList, isIdentifierChar c = true) : WrittenSegment :=
  { name, arguments := none, named, isWord, paired := nofun }

/-- The segments one behind the other. -/
def sourceAll (segments : List WrittenSegment) : List Char := segments.flatMap source

/-- Backwards, a segment begins with its dot, and its name comes last. -/
theorem source_reverse_append (s : WrittenSegment) (rs : List Char) :
    s.source.reverse ++ rs = '.' :: (s.call.reverse ++ (s.name.toList.reverse ++ rs)) := by
  simp [source]

theorem sourceAll_concat (segments : List WrittenSegment) (s : WrittenSegment) :
    sourceAll (segments ++ [s]) = sourceAll segments ++ s.source := by
  simp [sourceAll]

end WrittenSegment

/-- A name or a chain that stands behind the text is not continued by it. -/
def IsContext (cs : List Char) : Prop :=
  ∀ c ∈ cs.getLast?, isIdentifierChar c = false ∧ c ≠ '.'

open WrittenSegment

section

variable {rs rest : List Char} {name : String} {segment : AccessSegment}

/-! ### Reading what is written -/

/-- A name is read up to its first character. -/
theorem identifierAt_append (isWord : ∀ c ∈ name.toList, isIdentifierChar c = true)
    (first : ∀ c ∈ rs.head?, isIdentifierChar c = false) :
    identifierAt (name.toList.reverse ++ rs) = name ∧
      pastIdentifier (name.toList.reverse ++ rs) = rs := by
  have word : ∀ c ∈ name.toList.reverse, isIdentifierChar c = true := by simpa using isWord
  have none : rs.takeWhile isIdentifierChar = [] ∧ rs.dropWhile isIdentifierChar = rs := by
    cases rs with
    | nil => exact ⟨rfl, rfl⟩
    | cons c rs => simp [first c rfl]
  constructor
  · rw [identifierAt, List.takeWhile_append_of_pos word, none.1, List.append_nil,
      List.reverse_reverse, String.ofList_toList]
  · rw [pastIdentifier, List.dropWhile_append_of_pos word, none.2]

/-- The last character of a name is not a parenthesis. -/
theorem pastArguments?_of_name (s : WrittenSegment) (rs : List Char) :
    pastArguments? (s.name.toList.reverse ++ rs) = some (false, s.name.toList.reverse ++ rs) := by
  have nonempty : s.name.toList.reverse ≠ [] := by simpa using s.named
  obtain ⟨c, cs, last⟩ := List.exists_cons_of_ne_nil nonempty
  have word : isIdentifierChar c = true := by
    refine s.isWord c (List.mem_reverse.mp ?_)
    rw [last]
    exact List.mem_cons_self
  rw [last, List.cons_append, pastArguments?]
  rintro rest same
  obtain ⟨rfl, -⟩ := List.cons.inj same
  exact absurd word (by decide)

/-- The arguments of a segment are passed over. -/
theorem pastArguments?_call (s : WrittenSegment) (rs : List Char) :
    pastArguments? (s.call.reverse ++ (s.name.toList.reverse ++ rs)) =
      some (s.arguments.isSome, s.name.toList.reverse ++ rs) := by
  cases called : s.arguments with
  | none =>
    simp only [call, called, Option.elim_none, List.reverse_nil, List.nil_append]
    exact pastArguments?_of_name s rs
  | some cs =>
    have past : pastGroup? 0 (cs.reverse ++ '(' :: (s.name.toList.reverse ++ rs)) =
        some (s.name.toList.reverse ++ rs) :=
      pastGroup?_eq_some_iff.mpr ⟨cs, rfl, s.paired cs called⟩
    simp [call, called, pastArguments?, past]

/-- A segment is read as it is written, however the text goes on in front of its name. -/
theorem segmentAt?_source (s : WrittenSegment)
    (first : ∀ c ∈ rs.head?, isIdentifierChar c = false) :
    segmentAt? (s.source.reverse ++ rs) = some (s.segment, rs) := by
  obtain ⟨word, past⟩ := identifierAt_append s.isWord first
  have nonempty : s.name.isEmpty = false := by simpa using s.named
  rw [s.source_reverse_append, segmentAt?, pastArguments?_call]
  simp [word, past, nonempty, WrittenSegment.segment]

/-- Segments end with a dot, so that no name goes on in front of what stands behind them. -/
theorem head?_sourceAll_reverse_append (segments : List WrittenSegment)
    (first : ∀ c ∈ rs.head?, isIdentifierChar c = false) :
    ∀ c ∈ ((sourceAll segments).reverse ++ rs).head?, isIdentifierChar c = false := by
  cases segments using List.reverseRecOn with
  | nil => exact first
  | append_singleton segments s =>
    rw [sourceAll_concat, source]
    simp only [List.reverse_append, List.reverse_singleton, List.cons_append, List.head?_cons,
      Option.mem_some_iff, forall_eq']
    decide

/-- The segments are read one after the other, from the last one on. -/
theorem chainBefore_sourceAll (segments : List WrittenSegment) (chain : List AccessSegment)
    (first : ∀ c ∈ rs.head?, isIdentifierChar c = false) :
    chainBefore chain ((sourceAll segments).reverse ++ rs) =
      chainBefore (segments.map WrittenSegment.segment ++ chain) rs := by
  induction segments using List.reverseRecOn generalizing chain with
  | nil => rfl
  | append_singleton segments s ih =>
    rw [sourceAll_concat, List.reverse_append, List.append_assoc, chainBefore_eq,
      segmentAt?_source s (head?_sourceAll_reverse_append segments first)]
    simp only [ih, List.map_append, List.map_cons, List.map_nil, List.append_assoc,
      List.singleton_append]

/-! ### What has been read -/

/-- The text ends with something that can be read as a segment. -/
def EndsWithSegment (cs : List Char) : Prop := ∃ front, ∃ s : WrittenSegment, cs = front ++ s.source

/-- Of the text in front of a caret, `front` is not read, and nothing more of it could be. What
follows is read as it is written: the segments, and the name that is being typed. -/
structure ReadAs (cs front : List Char) (segments : List WrittenSegment) (partialName : String) :
    Prop where
  text : cs = front ++ sourceAll segments ++ partialName.toList
  access : accessBefore cs.reverse =
    { chain := segments.map WrittenSegment.segment, partialName }
  ends : ¬ EndsWithSegment front

/-- Arguments that are passed over are paired. -/
theorem pastArguments?_eq_some {invoked : Bool} (h : pastArguments? rs = some (invoked, rest)) :
    ∃ arguments : Option (List Char), (∀ cs ∈ arguments, Paired cs) ∧
      arguments.isSome = invoked ∧
      rs = (arguments.elim [] fun cs => '(' :: cs ++ [')']).reverse ++ rest := by
  unfold pastArguments? at h
  split at h
  next rs =>
    obtain ⟨rest', past, same⟩ := Option.map_eq_some_iff.mp h
    obtain ⟨rfl, rfl⟩ := Prod.mk.inj same
    obtain ⟨cs, rfl, paired⟩ := pastGroup?_eq_some_iff.mp past
    refine ⟨some cs, fun ds mem => ?_, rfl, by simp⟩
    obtain rfl := Option.some.inj mem
    exact paired
  next =>
    obtain ⟨rfl, rfl⟩ := Prod.mk.inj (Option.some.inj h)
    exact ⟨none, nofun, rfl, rfl⟩

/-- A segment that is read is written there. -/
theorem exists_written_of_segmentAt? (h : segmentAt? rs = some (segment, rest)) :
    ∃ s : WrittenSegment, s.segment = segment ∧ rs = s.source.reverse ++ rest := by
  unfold segmentAt? at h
  split at h
  next rs =>
    cases found : pastArguments? rs with
    | none => simp [found] at h
    | some read =>
      obtain ⟨invoked, behind⟩ := read
      obtain ⟨arguments, paired, rfl, rfl⟩ := pastArguments?_eq_some found
      simp only [found] at h
      split_ifs at h with empty
      obtain ⟨rfl, rfl⟩ := Prod.mk.inj (Option.some.inj h)
      refine ⟨⟨identifierAt behind, arguments, ?_, ?_, paired⟩, rfl, ?_⟩
      · simpa using empty
      · intro c hc
        rw [identifierAt, String.toList_ofList, List.mem_reverse] at hc
        exact List.mem_takeWhile_imp hc
      · have split := congrArg List.reverse (reverse_eq_identifier behind)
        rw [List.reverse_reverse, List.reverse_append, List.reverse_reverse] at split
        simp [source, call, ← split]
  next => cases h

/-- Nothing is read if and only if the text does not end with a segment. -/
theorem segmentAt?_reverse_eq_none_iff {cs : List Char} :
    segmentAt? cs.reverse = none ↔ ¬ EndsWithSegment cs := by
  constructor
  · rintro none ⟨front, s, rfl⟩
    -- The name that is read may begin earlier, but it is not empty.
    have nonempty : (identifierAt (s.name.toList.reverse ++ front.reverse)).isEmpty = false := by
      have word : ∀ c ∈ s.name.toList.reverse, isIdentifierChar c = true := by simpa using s.isWord
      rw [identifierAt, List.takeWhile_append_of_pos word]
      simp [s.named]
    rw [List.reverse_append, s.source_reverse_append, segmentAt?, pastArguments?_call] at none
    simp [nonempty] at none
  · intro ends
    cases found : segmentAt? cs.reverse with
    | none => rfl
    | some read =>
      obtain ⟨s, -, written⟩ := exists_written_of_segmentAt? found
      refine absurd ⟨read.2.reverse, s, ?_⟩ ends
      rw [← List.reverse_reverse cs, written, List.reverse_append, List.reverse_reverse]

/-- The segments that are read are written there, and nothing in front of them is one more. -/
theorem exists_chainBefore_eq (chain : List AccessSegment) (rs : List Char) :
    ∃ segments rest, rs = (sourceAll segments).reverse ++ rest ∧
      chainBefore chain rs = segments.map WrittenSegment.segment ++ chain ∧
      segmentAt? rest = none := by
  -- On the length of the text, since a segment may take away any number of characters.
  induction hn : rs.length using Nat.strong_induction_on generalizing chain rs with
  | _ n ih =>
    subst hn
    rw [chainBefore_eq]
    cases found : segmentAt? rs with
    | none => exact ⟨[], rs, rfl, rfl, found⟩
    | some read =>
      obtain ⟨s, same, written⟩ := exists_written_of_segmentAt? found
      obtain ⟨segments, rest, split, chained, ends⟩ :=
        ih _ (length_lt_of_segmentAt? found) (read.1 :: chain) read.2 rfl
      refine ⟨segments ++ [s], rest, ?_, ?_, ends⟩
      · rw [written, split, sourceAll_concat, List.reverse_append, List.append_assoc]
      · simp [chained, same]

/-- Whatever the text is, what is read of it is written at its end, and as much as possible is read.
-/
theorem exists_readAs (cs : List Char) :
    ∃ front segments partialName, ReadAs cs front segments partialName := by
  obtain ⟨segments, rest, split, chained, ends⟩ :=
    exists_chainBefore_eq [] (pastIdentifier cs.reverse)
  refine ⟨rest.reverse, segments, identifierAt cs.reverse, ?_, ?_, ?_⟩
  · have whole := reverse_eq_identifier cs.reverse
    rwa [List.reverse_reverse, split, List.reverse_append, List.reverse_reverse] at whole
  · rw [accessBefore, chained, List.append_nil]
  · rwa [← segmentAt?_reverse_eq_none_iff, List.reverse_reverse]

/-! ### Reading a whole access -/

/-- Segments and a name behind them are read as they are written, and what stands in front of them
is not read if it ends with no segment and with no character of a name. -/
theorem readAs_source {front : List Char} {partialName : String} (ends : ¬ EndsWithSegment front)
    (first : ∀ c ∈ front.getLast?, isIdentifierChar c = false) (segments : List WrittenSegment)
    (isWord : ∀ c ∈ partialName.toList, isIdentifierChar c = true) :
    ReadAs (front ++ sourceAll segments ++ partialName.toList) front segments partialName := by
  rw [← List.head?_reverse] at first
  obtain ⟨word, past⟩ :=
    identifierAt_append isWord (head?_sourceAll_reverse_append segments first)
  refine ⟨rfl, ?_, ends⟩
  rw [List.reverse_append, List.reverse_append, accessBefore, word, past,
    chainBefore_sourceAll segments [] first, chainBefore_eq,
    segmentAt?_reverse_eq_none_iff.mpr ends, List.append_nil]

theorem IsContext.not_endsWithSegment {context : List Char} (apart : IsContext context) :
    ¬ EndsWithSegment context := by
  rintro ⟨front, s, rfl⟩
  refine (apart '.' ?_).2 rfl
  rw [source, ← List.append_assoc, List.getLast?_concat]
  rfl

theorem IsContext.readAs {context : List Char} {partialName : String} (apart : IsContext context)
    (segments : List WrittenSegment)
    (isWord : ∀ c ∈ partialName.toList, isIdentifierChar c = true) :
    ReadAs (context ++ sourceAll segments ++ partialName.toList) context segments partialName := by
  have first (c : Char) (hc : c ∈ context.getLast?) : isIdentifierChar c = false := (apart c hc).1
  exact readAs_source apart.not_endsWithSegment first segments isWord

/-- Segments and a name behind them are read as they are written, whatever stands in front of them
that does not go on with them. -/
theorem accessBefore_source {context : List Char} {partialName : String}
    (apart : IsContext context) (segments : List WrittenSegment)
    (isWord : ∀ c ∈ partialName.toList, isIdentifierChar c = true) :
    accessBefore (context ++ sourceAll segments ++ partialName.toList).reverse =
      { chain := segments.map WrittenSegment.segment, partialName } := by
  have read := apart.readAs segments isWord
  exact read.access

/-- A chain with a call whose arguments hold chains and calls of their own. -/
def nestedCall : List WrittenSegment :=
  [.uncalled "Page" (by decide) (List.all_eq_true.mp (by decide)),
   { name := "Find"
     arguments := some "a.B(1, (c)).D, \"x\"".toList
     named := by decide
     isWord := List.all_eq_true.mp (by decide)
     paired := fun _ mem => Option.some.inj mem ▸ by decide }]

theorem accessBefore_source_nestedCall :
    IsContext "x = ".toList ∧ (∀ c ∈ "Te".toList, isIdentifierChar c = true) ∧
      accessBefore "x = Page.Find(a.B(1, (c)).D, \"x\").Te".toList.reverse =
        { chain := [⟨"Page", false⟩, ⟨"Find", true⟩], partialName := "Te" } := by
  have apart : IsContext "x = ".toList := by simp [IsContext]; decide
  have word : ∀ c ∈ "Te".toList, isIdentifierChar c = true := List.all_eq_true.mp (by decide)
  exact ⟨apart, word, accessBefore_source apart nestedCall word⟩

end

end WebForms
