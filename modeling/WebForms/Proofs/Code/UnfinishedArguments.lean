import Mathlib.Algebra.Ring.Parity
import WebForms.Proofs.Code.CallArguments

/-!
# Arguments that are not finished

While an argument is being written, the caret often stands in a group of parentheses that is still
open, or in a literal. The search for the call goes backwards from the caret, and takes it that
the caret stands in neither. It ends at the first parenthesis that is not closed in front of the
caret, and if there is no name in front of this, it finds nothing. So a group that is open hides
the call in whose arguments it stands.

A literal that is open is worse. The search takes the text in it for code, and from its opening
quote on, it takes code for literals and literals for code. It may still find something: a
parenthesis in a literal, with a name in front of it. It never finds the call in whose arguments
the caret stands.

For any text, the parentheses at which the search may end are those behind which the text can be
read as the arguments of a call. Their quotes come in pairs, and this is what tells them from a
parenthesis outside of an open literal.

## Main definitions

* `UnfinishedArguments` — arguments up to a caret in a group or a literal
* `OpensCall` — what is behind a parenthesis can be read as the arguments of a call

## Main results

* `openCall?_eq_some_iff` — a call is found if and only if its parenthesis opens it in this way
* `openCall?_unfinished_iff` — behind unfinished arguments, a call is found in a literal or not at
  all
-/

namespace WebForms

open WrittenSegment

/-! ### Texts -/

/-- The parenthesis that follows opens a group of arguments and not a call. -/
def ArgumentText.OpensGroup (a : ArgumentText) : Prop :=
  ∀ c ∈ a.source.getLast?, isIdentifierChar c = false

/-- Arguments up to a caret that stands in groups which are still open, or in a literal. -/
inductive UnfinishedArguments where
  /-- The caret stands in a literal of which `contents` has been written. -/
  | literal (written : ArgumentText) (contents : List Char)
  /-- The caret stands in a group, behind `inner`. -/
  | group (written : ArgumentText) (opens : written.OpensGroup) (inner : ArgumentText)
  /-- The caret stands in a group, and in more that is open within the group. -/
  | within (written : ArgumentText) (opens : written.OpensGroup) (inner : UnfinishedArguments)

namespace UnfinishedArguments

/-- The text of the arguments. -/
def source : UnfinishedArguments → List Char
  | literal written contents => written.source ++ '"' :: quotesDoubled contents
  | group written _ inner => written.source ++ '(' :: inner.source
  | within written _ inner => written.source ++ '(' :: inner.source

/-- The number of commas outside of literals and groups. -/
def commas : UnfinishedArguments → Nat
  | literal written _ | group written _ _ | within written _ _ => written.commas

/-- The caret stands in a literal. -/
def endsInLiteral : UnfinishedArguments → Bool
  | literal _ _ => true
  | group _ _ _ => false
  | within _ _ inner => inner.endsInLiteral

/-- The call of `method` is found in front of the arguments, with the commas that separate them. -/
def FindsCall (u : UnfinishedArguments) (context : List Char) (segments : List WrittenSegment)
    (method : String) : Prop :=
  openCall? (context ++ sourceAll segments ++ method.toList ++ '(' :: u.source).reverse =
    some { target := segments.map WrittenSegment.segment, method, activeParameter := u.commas }

end UnfinishedArguments

/-- Behind `front` a parenthesis opens a call, if the text goes on with arguments up to the caret. -/
def OpensCall (cs front : List Char) (call : CallSite) : Prop :=
  ∃ a : ArgumentText, cs = front ++ '(' :: a.source ∧ callAt? a.commas front.reverse = some call

section

variable {cs front rs : List Char} {c : Char} {depth commas : Nat} {call : CallSite}

/-! ### More arguments -/

namespace ArgumentText

/-- The arguments `a`, and `b` behind them. -/
def append : ArgumentText → ArgumentText → ArgumentText
  | nil, b => b
  | plain c isPlain rest, b => plain c isPlain (rest.append b)
  | comma rest, b => comma (rest.append b)
  | literal contents rest, b => literal contents (rest.append b)
  | group inner rest, b => group inner (rest.append b)

@[simp] theorem source_append (a b : ArgumentText) : (a.append b).source = a.source ++ b.source := by
  induction a with
  | nil => rfl
  | plain c isPlain rest ih => simp [append, source, ih]
  | comma rest ih => simp [append, source, ih]
  | literal contents rest ih => simp [append, source, ih]
  | group inner rest _ ih => simp [append, source, ih]

@[simp] theorem commas_append (a b : ArgumentText) : (a.append b).commas = a.commas + b.commas := by
  induction a with
  | nil => simp [append, commas]
  | plain c isPlain rest ih => simp [append, commas, ih]
  | comma rest ih => simp [append, commas, ih, Nat.add_right_comm]
  | literal contents rest ih => simp [append, commas, ih]
  | group inner rest _ ih => simp [append, commas, ih]

end ArgumentText

/-! ### Quotes -/

/-- Without quotes, the contents of a literal are written as they are. -/
theorem quotesDoubled_eq_self {contents : List Char} (unquoted : '"' ∉ contents) :
    quotesDoubled contents = contents := by
  induction contents with
  | nil => rfl
  | cons c contents ih =>
    obtain ⟨other, unquoted⟩ := List.ne_and_not_mem_of_not_mem_cons unquoted
    rw [quotesDoubled, List.flatMap_cons, if_neg other.symm, ← quotesDoubled, ih unquoted,
      List.singleton_append]

theorem even_count_quotesDoubled (contents : List Char) :
    Even ((quotesDoubled contents).count '"') := by
  induction contents with
  | nil => exact Even.zero
  | cons c contents ih =>
    rw [quotesDoubled, List.flatMap_cons, ← quotesDoubled, List.count_append]
    refine Even.add ?_ ih
    by_cases quote : c = '"'
    · rw [if_pos quote]
      exact even_two
    · rw [if_neg quote, List.count_singleton, if_neg (by simpa using quote)]
      exact Even.zero

/-- The quotes of arguments come in pairs. -/
theorem ArgumentText.even_count_source (a : ArgumentText) : Even (a.source.count '"') := by
  induction a with
  | nil => exact Even.zero
  | plain c isPlain rest ih => rwa [source, List.count_cons_of_ne isPlain.1]
  | comma rest ih => rwa [source, List.count_cons_of_ne (by decide)]
  | literal contents rest ih =>
    have inner := even_count_quotesDoubled contents
    rw [source, List.count_cons_self, List.count_append, List.count_cons_self]
    simp [inner, ih, parity_simps]
  | group inner rest ihInner ih =>
    rw [source, List.count_cons_of_ne (by decide), List.count_append,
      List.count_cons_of_ne (by decide)]
    exact ihInner.add ih

/-- One quote is left over if and only if a literal is open. -/
theorem UnfinishedArguments.odd_count_source_iff (u : UnfinishedArguments) :
    Odd (u.source.count '"') ↔ u.endsInLiteral = true := by
  induction u with
  | literal written contents =>
    have front := written.even_count_source
    have inner := even_count_quotesDoubled contents
    rw [source, List.count_append, List.count_cons_self]
    simp [endsInLiteral, Nat.odd_add, front, inner, parity_simps]
  | group written opens inner =>
    have front := written.even_count_source
    have behind := inner.even_count_source
    rw [source, List.count_append, List.count_cons_of_ne (by decide)]
    simp [endsInLiteral, front, behind, parity_simps]
  | within written opens inner ih =>
    have front := written.even_count_source
    rw [source, List.count_append, List.count_cons_of_ne (by decide), endsInLiteral, ← ih,
      Nat.odd_add', iff_true_right front]

/-! ### Where the search ends -/

/-- The text leaves open `depth` groups, and `commas` stand in front of the first one. -/
inductive LeavesOpen : Nat → Nat → List Char → Prop
  | level (a : ArgumentText) : LeavesOpen 0 a.commas a.source
  | deeper {depth commas : Nat} {cs : List Char} (h : LeavesOpen depth commas cs)
      (a : ArgumentText) : LeavesOpen (depth + 1) commas (cs ++ '(' :: a.source)

namespace LeavesOpen

/-- More arguments are added to the innermost group. -/
theorem append (h : LeavesOpen depth commas cs) (b : ArgumentText) :
    LeavesOpen depth (if depth = 0 then commas + b.commas else commas) (cs ++ b.source) := by
  cases h with
  | level a =>
    rw [if_pos rfl, ← ArgumentText.source_append, ← ArgumentText.commas_append]
    exact .level _
  | deeper h a =>
    rw [if_neg (Nat.succ_ne_zero _), List.append_assoc, List.cons_append,
      ← ArgumentText.source_append]
    exact .deeper h _

/-- The innermost group is closed. -/
theorem close (h : LeavesOpen (depth + 1) commas cs) : LeavesOpen depth commas (cs ++ [')']) := by
  cases h with
  | deeper h a =>
    have closed := h.append (.group a .nil)
    simpa [ArgumentText.source, ArgumentText.commas] using closed

theorem plain (h : LeavesOpen depth commas cs) (isPlain : IsPlain c) :
    LeavesOpen depth commas (cs ++ [c]) := by
  have added := h.append (.plain c isPlain .nil)
  simpa [ArgumentText.source, ArgumentText.commas] using added

theorem comma (h : LeavesOpen depth commas cs) :
    LeavesOpen depth (if depth = 0 then commas + 1 else commas) (cs ++ [',']) := by
  have added := h.append (.comma .nil)
  simpa [ArgumentText.source, ArgumentText.commas] using added

theorem literal (h : LeavesOpen depth commas cs) {contents : List Char}
    (unquoted : '"' ∉ contents) : LeavesOpen depth commas (cs ++ '"' :: contents ++ ['"']) := by
  have added := h.append (.literal contents .nil)
  simpa [ArgumentText.source, ArgumentText.commas, quotesDoubled_eq_self unquoted] using added

end LeavesOpen

/-- A text in which the search ends, having met `depth` more closing than opening parentheses:
from the parenthesis on at which it ends, the text leaves open as many groups, and a literal if
the search is in one. -/
theorem exists_leavesOpen {inString : Bool} (h : openCallFrom? depth commas inString rs = some call) :
    ∃ front more cs contents, '"' ∉ contents ∧ LeavesOpen depth more cs ∧
      rs.reverse = front ++ '(' :: (cs ++ if inString then '"' :: contents else []) ∧
      callAt? (commas + more) front.reverse = some call := by
  induction rs generalizing depth commas inString with
  | nil => cases h
  | cons c rs ih =>
    rw [openCallFrom?_cons] at h
    rw [List.reverse_cons]
    split_ifs at h with quote inside closes opens outermost comma
    · -- A quote ends a literal that is open, and opens one if there is none.
      subst quote
      obtain ⟨front, more, cs, contents, unquoted, leaves, split, found⟩ := ih h
      cases inString with
      | false => exact ⟨front, more, _, [], by simp, leaves.literal unquoted, by simp [split], found⟩
      | true => exact ⟨front, more, cs, [], by simp, leaves, by simp [split], found⟩
    · subst inside
      obtain ⟨front, more, cs, contents, unquoted, leaves, split, found⟩ := ih h
      refine ⟨front, more, cs, contents ++ [c], ?_, leaves, by simp [split], found⟩
      simpa [unquoted] using Ne.symm quote
    -- The other characters are read as code.
    all_goals obtain rfl : inString = false := by simpa using inside
    · subst closes
      obtain ⟨front, more, cs, contents, unquoted, leaves, split, found⟩ := ih h
      exact ⟨front, more, _, contents, unquoted, leaves.close, by simp [split], found⟩
    · subst opens outermost
      exact ⟨rs.reverse, 0, [], [], by simp, .level .nil, by simp, by simpa using h⟩
    · subst opens
      obtain ⟨outer, rfl⟩ := Nat.exists_eq_succ_of_ne_zero outermost
      obtain ⟨front, more, cs, contents, unquoted, leaves, split, found⟩ := ih h
      exact ⟨front, more, _, contents, unquoted, leaves.deeper .nil,
        by simp [split, ArgumentText.source], found⟩
    · obtain ⟨rfl, rfl⟩ := comma
      obtain ⟨front, more, cs, contents, unquoted, leaves, split, found⟩ := ih h
      refine ⟨front, more + 1, _, contents, unquoted, leaves.comma, by simp [split], ?_⟩
      rwa [Nat.add_comm more, ← Nat.add_assoc]
    · -- A comma in a group is no more than a plain character.
      obtain ⟨front, more, cs, contents, unquoted, leaves, split, found⟩ := ih h
      refine ⟨front, more, cs ++ [c], contents, unquoted, ?_, by simp [split], found⟩
      by_cases separates : c = ','
      · have inner := leaves.comma
        rw [if_neg fun zero => comma ⟨separates, zero⟩] at inner
        rwa [separates]
      · exact leaves.plain ⟨quote, separates, opens, closes⟩

/-- A call is found if and only if behind its parenthesis the text goes on with arguments up to the
caret. -/
theorem openCall?_eq_some_iff :
    openCall? cs.reverse = some call ↔ ∃ front, OpensCall cs front call := by
  constructor
  · intro h
    obtain ⟨front, more, behind, contents, -, leaves, split, found⟩ := exists_leavesOpen h
    rw [List.reverse_reverse, if_neg Bool.false_ne_true, List.append_nil] at split
    rw [Nat.zero_add] at found
    cases leaves with
    | level a => exact ⟨front, a, split, found⟩
  · rintro ⟨front, a, rfl, found⟩
    rw [openCall?, List.reverse_append, List.reverse_cons, List.append_assoc,
      openCallFrom?_source, if_pos rfl, Nat.zero_add, List.singleton_append, openCallFrom?_cons]
    exact found

/-! ### Unfinished arguments -/

/-- No name stands in front of a parenthesis that opens a group. -/
theorem callAt?_of_opensGroup {a : ArgumentText} (opens : a.OpensGroup) (commas : Nat) :
    callAt? commas (a.source.reverse ++ '(' :: rs) = none := by
  have first : ∀ c ∈ (a.source.reverse ++ '(' :: rs).head?, isIdentifierChar c = false := by
    intro c hc
    rw [List.head?_append, List.head?_reverse, List.head?_cons] at hc
    cases last : a.source.getLast? with
    | none =>
      rw [last] at hc
      obtain rfl : '(' = c := Option.some.inj hc
      decide
    | some d =>
      rw [last] at hc
      obtain rfl : d = c := Option.some.inj hc
      exact opens d last
  have unnamed : identifierAt ("".toList.reverse ++ (a.source.reverse ++ '(' :: rs)) = "" :=
    (identifierAt_append (List.forall_mem_nil _) first).1
  rw [String.toList_empty, List.reverse_nil, List.nil_append] at unnamed
  simp [callAt?, accessBefore, unnamed]

/-- In a group that is open, the search ends at the parenthesis of the group. -/
theorem UnfinishedArguments.openCall?_eq_none {u : UnfinishedArguments}
    (code : u.endsInLiteral = false) :
    openCallFrom? 0 0 false (u.source.reverse ++ '(' :: rs) = none := by
  induction u generalizing rs with
  | literal written contents => cases code
  | group written opens inner =>
    rw [source, List.reverse_append, List.reverse_cons, List.append_assoc, List.append_assoc,
      openCallFrom?_source, List.singleton_append, openCallFrom?_cons]
    exact callAt?_of_opensGroup opens _
  | within written opens inner ih =>
    have deeper := @ih (written.source.reverse ++ '(' :: rs) code
    simpa [source] using deeper

/-- Behind arguments that are not finished, a call is found only if the caret stands in a literal,
and then the parenthesis that opens it is divided from that of the call around the caret by an odd
number of quotes: if this call is code, then the one that is found stands in a literal. -/
theorem openCall?_unfinished_iff (before : List Char) (u : UnfinishedArguments) (call : CallSite) :
    openCall? (before ++ '(' :: u.source).reverse = some call ↔
      u.endsInLiteral = true ∧
        ∃ front, OpensCall (before ++ '(' :: u.source) front call ∧
          Odd (front.count '"' + before.count '"') := by
  constructor
  · intro found
    have inLiteral : u.endsInLiteral = true := by
      by_contra code
      rw [Bool.not_eq_true] at code
      rw [List.reverse_append, List.reverse_cons, List.append_assoc, List.singleton_append,
        openCall?, u.openCall?_eq_none code] at found
      cases found
    obtain ⟨front, a, split, named⟩ := openCall?_eq_some_iff.mp found
    refine ⟨inLiteral, front, ⟨a, split, named⟩, ?_⟩
    -- The quotes behind the one parenthesis come in pairs, and those behind the other do not.
    have quotes := congrArg (List.count '"') split
    rw [List.count_append, List.count_append, List.count_cons_of_ne (by decide),
      List.count_cons_of_ne (by decide)] at quotes
    have paired := a.even_count_source
    have unpaired := Nat.not_even_iff_odd.mpr (u.odd_count_source_iff.mpr inLiteral)
    have parity := congrArg Even quotes
    rw [Nat.even_add, Nat.even_add, iff_true_right paired, iff_false_right unpaired] at parity
    rw [Nat.odd_add, ← Nat.not_even_iff_odd, ← parity, not_not]
  · rintro ⟨-, front, opens, -⟩
    exact openCall?_eq_some_iff.mpr ⟨front, opens⟩

/-! ### A group and a literal -/

/-- The object whose method is called. -/
def responseSegment : WrittenSegment :=
  .uncalled "Response" (by decide) (List.all_eq_true.mp (by decide))

theorem isPlain_space : IsPlain ' ' := by decide

/-- The first argument, up to the second one. -/
def firstArgument : ArgumentText :=
  .plain '1' (by decide) (.comma (.plain ' ' isPlain_space .nil))

theorem opensGroup_firstArgument : firstArgument.OpensGroup := by
  intro c last
  obtain rfl : ' ' = c := Option.some.inj last
  decide

/-- The second argument is a group that has not been closed. -/
def openGroup : UnfinishedArguments :=
  .group firstArgument opensGroup_firstArgument (.plain '2' (by decide) .nil)

/-- The argument is a literal that has not been closed. -/
def openLiteral : UnfinishedArguments := .literal .nil "a, b".toList

/-- The call is not found behind a group that is open, nor behind a literal that is open. -/
theorem not_findsCall_openGroup :
    ¬ openGroup.FindsCall [] [responseSegment] "Write" ∧
      ¬ openLiteral.FindsCall [] [responseSegment] "Write" := by
  have group : openCall? "Response.Write(1, (2".toList.reverse = none := by decide +kernel
  have literal : openCall? "Response.Write(\"a, b".toList.reverse = none := by decide +kernel
  constructor
  · intro found
    cases group.symm.trans found
  · intro found
    cases literal.symm.trans found

end

end WebForms
