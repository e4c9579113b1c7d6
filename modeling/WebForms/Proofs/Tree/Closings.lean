import Mathlib.Data.List.Nodup
import Mathlib.Data.List.TakeWhile
import WebForms.Proofs.Tree.Nesting
import WebForms.Proofs.Tree.Rows

/-!
# The closing tags of elements

Which elements are open at a moment, and which of them a closing tag closes, can be told from the
markup so far without building a tree: a start tag with content opens an element, a closing tag
closes the innermost open one of its name together with all inside it, and without such an element
it closes nothing. The tree agrees with this account. Below its root it has one node for each event
but closing tags, in the same order, and the closing tag in a node is the one that closes its
element.

The tree is compared with the account through its table, in which every row is known by the number
of its event: the rows that are still open are the open elements.

## Main definitions

* `MarkupEvent.openAfter` — the elements that are open after some events
* `MarkupEvent.Closes` — the closing tag with one number closes the element with another
* `MarkupEvent.Becomes` — the node that an event becomes
* `Tallies` — the table of a tree under construction agrees with the account

## Main results

* `Node.preorder_ofEvents` — the nodes of the whole tree agree with the account
-/

namespace WebForms

/-- An element that is open: the number of its start tag among the events, and its name. -/
structure OpenElement where
  number : Nat
  name : TagName

namespace OpenElement

variable {name : TagName} {o : OpenElement} {os others : List OpenElement}

/-- The effect of a closing tag on the open elements, innermost first: the innermost of its name is
closed with all that are inside. -/
def close (name : TagName) (os : List OpenElement) : List OpenElement :=
  match os.dropWhile fun o => !o.name.agrees name with
  | [] => os
  | _ :: around => around

/-- Without an element of that name none is closed. -/
theorem close_eq_self (h : ∀ o ∈ os, o.name.agrees name = false) : close name os = os := by
  have passed : os.dropWhile (fun o => !o.name.agrees name) = [] :=
    List.dropWhile_eq_nil_iff.mpr fun o ho => by rw [h o ho, Bool.not_false]
  rw [close, passed]

/-- What is around the innermost element of that name stays open. -/
theorem close_append_cons (h : ∀ o ∈ others, o.name.agrees name = false)
    (named : o.name.agrees name = true) : close name (others ++ o :: os) = os := by
  have passed : (others ++ o :: os).dropWhile (fun o => !o.name.agrees name) = o :: os := by
    rw [List.dropWhile_append_of_pos fun o ho => by rw [h o ho, Bool.not_false],
      List.dropWhile_cons_of_neg (by simp [named])]
  rw [close, passed]

theorem mem_of_mem_close (h : o ∈ close name os) : o ∈ os := by
  unfold close at h
  split at h
  · exact h
  next passed =>
    exact (List.dropWhile_sublist _).subset (passed ▸ List.mem_cons_of_mem _ h)

end OpenElement

namespace MarkupEvent

/-- The open elements after an event with its number. -/
def track (os : List OpenElement) : MarkupEvent × Nat → List OpenElement
  | (.startTag tag true, number) => ⟨number, tag.name⟩ :: os
  | (.endTag name _, _) => OpenElement.close name os
  | _ => os

/-- The elements that are open after some events, innermost first. -/
def openAfter (events : List MarkupEvent) : List OpenElement := events.zipIdx.foldl track []

/-- The event with the number `j` is a closing tag that covers `span`. It closes the element whose
start tag has the number `i`: of those that were open, the innermost of its name. -/
def Closes (events : List MarkupEvent) (j i : Nat) (span : Span) : Prop :=
  ∃ name o, events[j]? = some (.endTag name span) ∧
    (openAfter (events.take j)).find? (·.name.agrees name) = some o ∧ o.number = i

/-- The node that the event with the given number becomes: its kind, and where it starts. The event
says all of it, but for the closing tag of an element that is closed. -/
inductive Becomes (events : List MarkupEvent) (e : MarkupEvent) (number : Nat) :
    NodeKind → Position → Prop
  | unclosed {r : Row} (begun : e.row? = some r) (never : ∀ j span, ¬Closes events j number span) :
      Becomes events e number r.kind r.start
  | closed {r : Row} {j : Nat} {span : Span} (begun : e.row? = some r)
      (closes : Closes events j number span) :
      Becomes events e number (r.kind.closedBy span) r.start

/-- The events that become nodes, with their numbers. -/
def nodes (events : List MarkupEvent) : List (MarkupEvent × Nat) :=
  events.zipIdx.filter fun entry => !entry.1.isEndTag

variable {events : List MarkupEvent} {e : MarkupEvent} {name : TagName} {span span' : Span}
  {i i' j j' : Nat}

theorem openAfter_concat (events : List MarkupEvent) (e : MarkupEvent) :
    openAfter (events ++ [e]) = track (openAfter events) (e, events.length) := by
  simp [openAfter, List.zipIdx_append]

theorem nodes_concat (events : List MarkupEvent) (e : MarkupEvent) :
    nodes (events ++ [e]) =
      nodes events ++ if e.isEndTag then [] else [(e, events.length)] := by
  cases h : e.isEndTag <;> simp [nodes, List.zipIdx_append, h]

/-- No two events have the same number. -/
theorem nodup_numbers (events : List MarkupEvent) : ((nodes events).map Prod.snd).Nodup := by
  have sub : List.Sublist ((nodes events).map Prod.snd) (events.zipIdx.map Prod.snd) :=
    List.filter_sublist.map Prod.snd
  rw [List.zipIdx_map_snd] at sub
  exact (List.nodup_range' 1).sublist sub

/-- An open element was opened before. -/
theorem number_lt_of_mem_openAfter {o : OpenElement} (h : o ∈ openAfter events) :
    o.number < events.length := by
  induction events using List.reverseRecOn with
  | nil => cases h
  | append_singleton events e ih =>
    rw [List.length_append, List.length_singleton]
    rw [openAfter_concat] at h
    have earlier (h : o ∈ openAfter events) : o.number < events.length + 1 :=
      Nat.lt_succ_of_lt (ih h)
    cases e with
    | startTag tag opensScope =>
      cases opensScope with
      | false => exact earlier h
      | true =>
        obtain rfl | h := List.mem_cons.mp h
        · exact Nat.lt_succ_self _
        · exact earlier h
    | endTag name span => exact earlier (OpenElement.mem_of_mem_close h)
    | text | directive | block | plain => exact earlier h

/-- A closing tag is behind the start tag of its element. -/
theorem Closes.lt (h : Closes events j i span) : i < j := by
  obtain ⟨name, o, -, found, rfl⟩ := h
  have opened := number_lt_of_mem_openAfter (List.mem_of_find?_eq_some found)
  exact opened.trans_le (List.length_take_le j events)

/-- A closing tag closes one element at most. -/
theorem Closes.unique (h : Closes events j i span) (h' : Closes events j i' span') : i = i' := by
  obtain ⟨name, o, isTag, found, rfl⟩ := h
  obtain ⟨name', o', isTag', found', rfl⟩ := h'
  obtain ⟨rfl, -⟩ := MarkupEvent.endTag.inj (Option.some.inj (isTag.symm.trans isTag'))
  exact congrArg OpenElement.number (Option.some.inj (found.symm.trans found'))

/-- A closing tag that closes something is one of the events. -/
theorem Closes.lt_length (h : Closes events j i span) : j < events.length := by
  obtain ⟨name, o, isTag, -⟩ := h
  exact (List.getElem?_eq_some_iff.mp isTag).1

/-- What a closing tag closes depends on the events up to it. -/
theorem closes_take (events : List MarkupEvent) {k : Nat} (h : j < k) :
    Closes (events.take k) j i span ↔ Closes events j i span := by
  unfold Closes
  rw [List.getElem?_take_of_lt h, List.take_take, Nat.min_eq_left h.le]

/-- What the last event closes, if it is a closing tag. -/
theorem closes_concat :
    Closes (events ++ [e]) j i span ↔
      Closes events j i span ∨ j = events.length ∧ ∃ name o, e = .endTag name span ∧
        (openAfter events).find? (·.name.agrees name) = some o ∧ o.number = i := by
  have old : j < events.length → (Closes (events ++ [e]) j i span ↔ Closes events j i span) := by
    intro h
    rw [← closes_take (events ++ [e]) h, List.take_left]
  have last : Closes (events ++ [e]) events.length i span ↔ ∃ name o, e = .endTag name span ∧
      (openAfter events).find? (·.name.agrees name) = some o ∧ o.number = i := by
    unfold Closes
    rw [List.take_left, List.getElem?_concat_length]
    simp only [Option.some.injEq]
  constructor
  · intro h
    have bound := h.lt_length
    rw [List.length_append, List.length_singleton] at bound
    obtain earlier | rfl := Nat.lt_succ_iff_lt_or_eq.mp bound
    · exact .inl ((old earlier).mp h)
    · exact .inr ⟨rfl, last.mp h⟩
  · rintro (h | ⟨rfl, h⟩)
    · exact (old h.lt_length).mpr h
    · exact last.mpr h

/-- Only a closing tag closes anything. -/
theorem closes_concat_of_isEndTag (h : e.isEndTag = false) :
    Closes (events ++ [e]) j i span ↔ Closes events j i span := by
  rw [closes_concat, or_iff_left]
  rintro ⟨-, name, o, rfl, -⟩
  cases h

/-- A closing tag closes nothing if no open element has its name. -/
theorem closes_concat_of_stray (stray : ∀ o ∈ openAfter events, o.name.agrees name = false) :
    Closes (events ++ [.endTag name span]) j i span' ↔ Closes events j i span' := by
  rw [closes_concat, or_iff_left]
  rintro ⟨-, name', o, isTag, found, -⟩
  obtain ⟨rfl, -⟩ := MarkupEvent.endTag.inj isTag
  have named := List.find?_some found
  rw [stray o (List.mem_of_find?_eq_some found)] at named
  cases named

/-- A closing tag closes the first open element that has its name. -/
theorem closes_concat_endTag {o : OpenElement} {others os : List OpenElement}
    (opened : openAfter events = others ++ o :: os)
    (passed : ∀ o ∈ others, o.name.agrees name = false) (named : o.name.agrees name = true) :
    Closes (events ++ [.endTag name span]) j i span' ↔
      Closes events j i span' ∨ j = events.length ∧ i = o.number ∧ span' = span := by
  have first : (openAfter events).find? (·.name.agrees name) = some o := by
    refine List.find?_eq_some_iff_append.mpr ⟨named, others, os, opened, fun o' ho' => ?_⟩
    rw [passed o' ho', Bool.not_false]
  rw [closes_concat]
  refine or_congr_right (and_congr_right fun _ => ?_)
  constructor
  · rintro ⟨name', o', isTag, found, rfl⟩
    obtain ⟨rfl, rfl⟩ := MarkupEvent.endTag.inj isTag
    obtain rfl := Option.some.inj (first.symm.trans found)
    exact ⟨rfl, rfl⟩
  · rintro ⟨rfl, rfl⟩
    exact ⟨name, o, rfl, first, rfl⟩

/-- What an event becomes depends on what closes it. -/
theorem Becomes.congr {events' : List MarkupEvent} {number : Nat} {kind : NodeKind}
    {start : Position} (h : Becomes events e number kind start)
    (same : ∀ j span, Closes events' j number span ↔ Closes events j number span) :
    Becomes events' e number kind start := by
  cases h with
  | unclosed begun never => exact .unclosed begun fun j span h => never j span ((same j span).mp h)
  | closed begun closes => exact .closed begun ((same _ _).mpr closes)

/-- What an open element becomes when it is closed. -/
theorem Becomes.close {events' : List MarkupEvent} {number : Nat} {kind : NodeKind}
    {start : Position} (h : Becomes events e number kind start)
    (never : ∀ j span, ¬Closes events j number span) (closes : Closes events' j number span) :
    Becomes events' e number (kind.closedBy span) start := by
  cases h with
  | unclosed begun => exact .closed begun closes
  | closed _ before => exact absurd before (never _ _)

end MarkupEvent

/-! ### The table and the account -/

/-- A row with the event that it stands for, and the number of this event. -/
structure TableEntry where
  event : MarkupEvent
  number : Nat
  row : Row

open MarkupEvent

namespace TableEntry

variable {z : TableEntry} {table : List TableEntry} {o : OpenElement} {name : TagName}
  {span : Span} {events events' : List MarkupEvent} {j : Nat}

/-- The entry of a node that is not open any more. -/
def shut (z : TableEntry) : TableEntry := { z with row := z.row.shut }

/-- The entry of an element after a closing tag that covers `endTag`. -/
def closed (endTag : Span) (z : TableEntry) : TableEntry := { z with row := z.row.closed endTag }

/-- The open element that the row stands for, if it does. -/
def element? (z : TableEntry) : Option OpenElement :=
  if z.row.isOpen then
    match z.row.kind with
    | .tag t => some ⟨z.number, t.name⟩
    | _ => none
  else none

/-- The open elements of a table. -/
def elements (table : List TableEntry) : List OpenElement := table.filterMap element?

/-- The row is what has become of its event so far, and if it is open, nothing has closed it. -/
structure Agrees (events : List MarkupEvent) (z : TableEntry) : Prop where
  becomes : z.event.Becomes events z.number z.row.kind z.row.start
  waiting : z.row.isOpen = true → ∀ j span, ¬Closes events j z.number span

theorem agrees_of_element? (h : z.element? = some o) :
    o.name.agrees name = z.row.answers name := by
  unfold element? at h
  unfold Row.answers
  split_ifs at h with isOpen
  rw [isOpen, Bool.true_and]
  cases hkind : z.row.kind with
  | tag t =>
    rw [hkind] at h
    obtain rfl := Option.some.inj h
    rfl
  | document | directive | block | plain =>
    rw [hkind] at h
    cases h

/-- A row that answers to a name stands for an open element. -/
theorem exists_element? (h : z.row.answers name = true) : ∃ o, z.element? = some o := by
  unfold Row.answers at h
  obtain ⟨isOpen, named⟩ := Bool.and_eq_true_iff.mp h
  unfold element?
  rw [if_pos isOpen]
  cases hkind : z.row.kind with
  | tag t => exact ⟨_, rfl⟩
  | document | directive | block | plain =>
    rw [hkind] at named
    cases named

theorem isOpen_of_element? (h : z.element? = some o) :
    z.row.isOpen = true ∧ o.number = z.number := by
  unfold element? at h
  split_ifs at h with isOpen
  split at h
  next =>
    obtain rfl := Option.some.inj h
    exact ⟨isOpen, rfl⟩
  next => cases h

theorem elements_append_cons (front behind : List TableEntry) (h : z.element? = some o) :
    elements (front ++ z :: behind) = elements front ++ o :: elements behind := by
  rw [elements, List.filterMap_append, List.filterMap_cons_some h]
  rfl

/-- Where a closing tag closes an entry and all in front of it, those behind it stay open. -/
theorem elements_closed (front behind : List TableEntry) (z : TableEntry) (endTag : Span) :
    elements (front.map shut ++ z.closed endTag :: behind) = elements behind := by
  have none : (front.map shut).filterMap element? = [] :=
    List.filterMap_eq_nil_iff.mpr (List.forall_mem_map.mpr fun _ _ => rfl)
  rw [elements, List.filterMap_append, none, List.nil_append, List.filterMap_cons_none rfl]
  rfl

/-- Where no row answers to a name, no open element has it. -/
theorem agrees_of_mem_elements (h : ∀ z ∈ table, z.row.answers name = false) :
    ∀ o ∈ elements table, o.name.agrees name = false := by
  intro o ho
  obtain ⟨z, hz, shows⟩ := List.mem_filterMap.mp ho
  exact (agrees_of_element? shows).trans (h z hz)

/-! An entry goes on to agree with the account, whatever the next event is. -/

theorem Agrees.congr (h : z.Agrees events)
    (same : ∀ j span, Closes events' j z.number span ↔ Closes events j z.number span) :
    z.Agrees events' where
  becomes := h.becomes.congr same
  waiting isOpen j span closes := h.waiting isOpen j span ((same j span).mp closes)

theorem Agrees.shut (h : z.Agrees events) : z.shut.Agrees events where
  becomes := h.becomes
  waiting isOpen := absurd isOpen Bool.false_ne_true

theorem Agrees.closed (h : z.Agrees events) (isOpen : z.row.isOpen = true)
    (closes : Closes events' j z.number span) : (z.closed span).Agrees events' where
  becomes := h.becomes.close (h.waiting isOpen) closes
  waiting isOpen := absurd isOpen Bool.false_ne_true

end TableEntry

/-- The rows of the tree under construction, with the events that they stand for: there is one for
each event that becomes a node, it agrees with the account, and those that are open stand for the
open elements. -/
structure Tallies (stop : Position) (events : List MarkupEvent) (table : List TableEntry) :
    Prop where
  rows : table.map TableEntry.row = (FrameStack.after stop events).rows
  nodes : table.map (fun z => (z.event, z.number)) = (nodes events).reverse
  elements : TableEntry.elements table = openAfter events
  agrees : ∀ z ∈ table, z.Agrees events

namespace Tallies

variable {stop : Position} {events : List MarkupEvent} {e : MarkupEvent} {name : TagName}
  {span : Span} {table : List TableEntry} {r : Row}

/-- Markup that becomes a node adds a row. -/
theorem begin (h : Tallies stop events table) (begun : e.row? = some r)
    (starts : e.isEndTag = false) :
    Tallies stop (events ++ [e]) (⟨e, events.length, r⟩ :: table) := by
  have never (j : Nat) (span : Span) : ¬Closes (events ++ [e]) j events.length span := by
    rw [closes_concat_of_isEndTag starts]
    intro closes
    exact absurd closes.lt closes.lt_length.not_gt
  constructor
  case rows => rw [FrameStack.after_concat, FrameStack.rows_step begun, List.map_cons, h.rows]
  case nodes =>
    rw [nodes_concat, starts, List.map_cons, h.nodes, List.reverse_append]
    rfl
  case elements =>
    rw [openAfter_concat, ← h.elements]
    cases e with
    | startTag tag opensScope =>
      obtain rfl := Option.some.inj begun
      cases opensScope <;> rfl
    | endTag => cases begun
    | text | directive | block | plain =>
      obtain rfl := Option.some.inj begun
      rfl
  case agrees =>
    refine List.forall_mem_cons.mpr ⟨⟨.unclosed begun never, fun _ => never⟩, fun z hz => ?_⟩
    exact (h.agrees z hz).congr fun _ _ => closes_concat_of_isEndTag starts

/-- The number of a row is that of no other. -/
theorem number_ne {front behind : List TableEntry} {z : TableEntry}
    (h : Tallies stop events (front ++ z :: behind)) :
    ∀ w ∈ front ++ behind, w.number ≠ z.number := by
  have distinct : ((front ++ z :: behind).map TableEntry.number).Nodup := by
    have numbers := congrArg (List.map Prod.snd) h.nodes
    rw [List.map_map, List.map_reverse] at numbers
    exact numbers ▸ List.nodup_reverse.mpr (nodup_numbers events)
  rw [List.map_append, List.map_cons, List.nodup_middle, List.nodup_cons,
    ← List.map_append] at distinct
  intro w hw same
  exact distinct.1 (same ▸ List.mem_map_of_mem hw)

/-- A closing tag adds no row. -/
theorem nodes_concat_endTag (h : Tallies stop events table) :
    table.map (fun z => (z.event, z.number)) =
      (MarkupEvent.nodes (events ++ [.endTag name span])).reverse := by
  rw [nodes_concat, h.nodes, isEndTag, if_pos rfl, List.append_nil]

/-- The table of the tree behind a closing tag. -/
theorem rows_concat_endTag (h : Tallies stop events table) :
    (FrameStack.after stop (events ++ [.endTag name span])).rows =
      (Row.closeIn? name span (table.map TableEntry.row)).getD (table.map TableEntry.row) := by
  rw [FrameStack.after_concat, FrameStack.step, FrameStack.rows_close, h.rows]

/-- A closing tag without an open element of its name changes nothing. -/
theorem ignore (h : Tallies stop events table)
    (unknown : ∀ z ∈ table, z.row.answers name = false) :
    Tallies stop (events ++ [.endTag name span]) table := by
  have stray := TableEntry.agrees_of_mem_elements unknown
  rw [h.elements] at stray
  constructor
  case rows =>
    rw [h.rows_concat_endTag, Row.closeIn?_eq_none (List.forall_mem_map.mpr unknown)]
    rfl
  case nodes => exact h.nodes_concat_endTag
  case elements =>
    rw [openAfter_concat, h.elements]
    exact (OpenElement.close_eq_self stray).symm
  case agrees =>
    intro z hz
    exact (h.agrees z hz).congr fun _ _ => closes_concat_of_stray stray

/-- A closing tag closes the latest open element of its name, and all rows that are later. -/
theorem close {front behind : List TableEntry} {z : TableEntry}
    (h : Tallies stop events (front ++ z :: behind)) (named : z.row.answers name = true)
    (passed : ∀ w ∈ front, w.row.answers name = false) :
    Tallies stop (events ++ [.endTag name span])
      (front.map TableEntry.shut ++ z.closed span :: behind) := by
  obtain ⟨o, shows⟩ := TableEntry.exists_element? named
  obtain ⟨isOpen, number⟩ := TableEntry.isOpen_of_element? shows
  have opened : openAfter events =
      TableEntry.elements front ++ o :: TableEntry.elements behind := by
    rw [← h.elements, TableEntry.elements_append_cons front behind shows]
  have others := TableEntry.agrees_of_mem_elements passed
  have agrees : o.name.agrees name = true := (TableEntry.agrees_of_element? shows).trans named
  -- Of all rows, the closing tag closes this one only.
  have same {w : TableEntry} (hw : w ∈ front ++ behind) (j : Nat) (span' : Span) :
      Closes (events ++ [.endTag name span]) j w.number span' ↔ Closes events j w.number span' := by
    rw [closes_concat_endTag opened others agrees, or_iff_left]
    rintro ⟨-, same, -⟩
    exact h.number_ne w hw (same.trans number)
  constructor
  case rows =>
    have split : (front ++ z :: behind).map TableEntry.row =
        front.map TableEntry.row ++ z.row :: behind.map TableEntry.row := List.map_append
    rw [h.rows_concat_endTag, split,
      Row.closeIn?_append_cons (List.forall_mem_map.mpr passed) named, List.map_append,
      List.map_map, List.map_cons, Option.getD_some, List.map_map]
    rfl
  case nodes =>
    rw [← h.nodes_concat_endTag, List.map_append, List.map_append, List.map_map]
    rfl
  case elements =>
    rw [openAfter_concat, opened, TableEntry.elements_closed]
    exact (OpenElement.close_append_cons others agrees).symm
  case agrees =>
    refine List.forall_mem_append.mpr ⟨List.forall_mem_map.mpr fun w hw => ?_,
      List.forall_mem_cons.mpr ⟨?_, fun w hw => ?_⟩⟩
    · have before := h.agrees w (List.mem_append_left _ hw)
      exact (before.congr (same (List.mem_append_left _ hw))).shut
    · have before := h.agrees z (List.mem_append_right _ List.mem_cons_self)
      refine before.closed (j := events.length) isOpen ?_
      exact (closes_concat_endTag opened others agrees).mpr (.inr ⟨rfl, number.symm, rfl⟩)
    · have before := h.agrees w (List.mem_append_right _ (List.mem_cons_of_mem _ hw))
      exact before.congr (same (List.mem_append_right _ hw))

/-- The table agrees with the account after all events. -/
theorem exists_tallies (stop : Position) (events : List MarkupEvent) :
    ∃ table, Tallies stop events table := by
  induction events using List.reverseRecOn with
  | nil => exact ⟨[], rfl, rfl, rfl, List.forall_mem_nil _⟩
  | append_singleton events e ih =>
    obtain ⟨table, h⟩ := ih
    cases e with
    | text | startTag | directive | block | plain => exact ⟨_, h.begin rfl rfl⟩
    | endTag name span =>
      cases first : table.find? (·.row.answers name) with
      | none =>
        have unknown := List.find?_eq_none.mp first
        exact ⟨table, h.ignore fun z hz => Bool.eq_false_iff.mpr (unknown z hz)⟩
      | some z =>
        obtain ⟨named, front, behind, rfl, passed⟩ := List.find?_eq_some_iff_append.mp first
        exact ⟨_, h.close named fun w hw => by simpa using passed w hw⟩

/-- An open element has not been closed yet. -/
theorem not_closes_of_mem_openAfter {o : OpenElement} (h : o ∈ openAfter events) (j : Nat)
    (span : Span) : ¬Closes events j o.number span := by
  obtain ⟨table, tallies⟩ := exists_tallies {} events
  rw [← tallies.elements] at h
  obtain ⟨z, hz, shows⟩ := List.mem_filterMap.mp h
  obtain ⟨isOpen, number⟩ := TableEntry.isOpen_of_element? shows
  exact number ▸ (tallies.agrees z hz).waiting isOpen j span

end Tallies

/-- No element is closed twice. -/
theorem MarkupEvent.Closes.unique_of_number {events : List MarkupEvent} {i j j' : Nat}
    {span span' : Span} (h : Closes events j i span) (h' : Closes events j' i span') : j = j' := by
  -- Of two closing tags, the second would have found the element open.
  have not_lt {j j' : Nat} {span span' : Span} (h : Closes events j i span)
      (h' : Closes events j' i span') : ¬j < j' := by
    intro lt
    obtain ⟨name, o, -, found, rfl⟩ := h'
    exact Tallies.not_closes_of_mem_openAfter (List.mem_of_find?_eq_some found) j span
      ((closes_take events lt).mpr h)
  exact Nat.le_antisymm (Nat.not_lt.mp (not_lt h' h)) (Nat.not_lt.mp (not_lt h h'))

/-- Below its root, the tree of any events has one node for each of them but closing tags, in the
same order, with the kind that the event tells and the same start. An element has the closing tag
that closed it: of its name, it was the innermost one open. No closing tag closes two elements, and
no element is closed twice. -/
theorem Node.preorder_ofEvents (events : List MarkupEvent) (stop : Position) :
    (ofEvents events stop).kind = .document ∧
      List.Forall₂ (fun entry n => entry.1.Becomes events entry.2 n.kind n.span.start)
        (nodes events) (ofEvents events stop).preorder.tail ∧
      (∀ j i i' span span', Closes events j i span → Closes events j i' span' → i = i') ∧
      ∀ i j j' span span', Closes events j i span → Closes events j' i span' → j = j' := by
  obtain ⟨table, tallies⟩ := Tallies.exists_tallies stop events
  have events_eq : nodes events = table.reverse.map fun z => (z.event, z.number) := by
    rw [List.map_reverse, tallies.nodes, List.reverse_reverse]
  have rows_eq : (ofEvents events stop).preorder.tail.map row =
      table.reverse.map fun z => z.row.shut := by
    rw [rows_ofEvents, ← tallies.rows, List.map_map, List.map_reverse]
    rfl
  have agree : List.Forall₂ (fun entry r => entry.1.Becomes events entry.2 r.kind r.start)
      (nodes events) ((ofEvents events stop).preorder.tail.map row) := by
    rw [events_eq, rows_eq, List.forall₂_map_left_iff, List.forall₂_map_right_iff,
      List.forall₂_same]
    exact fun z hz => (tallies.agrees z (List.mem_reverse.mp hz)).becomes
  exact ⟨kind_ofEvents events stop, List.forall₂_map_right_iff.mp agree,
    fun _ _ _ _ _ => Closes.unique, fun _ _ _ _ _ => Closes.unique_of_number⟩

end WebForms
