import Mathlib.Data.List.Chain
import WebForms.Proofs.Tree.Nesting
import WebForms.Proofs.Tree.Preorder

/-!
# Trees of events in order

Events are in order when each starts where the one before it has ended, or later. Whatever is left
open, closed across other elements or closed without having been opened, their tree then nests: each
of its nodes contains those inside it, which follow one another. Elements are ended at different
times, some by their closing tags, some by the closing tags of elements around them and some by the
end of the page, so this is an invariant of all elements under construction at once,
`FrameStack.Within`.

## Main definitions

* `MarkupEvent.Successive` — events in order
* `Node.Nests` — what a node contains is inside it and in order

## Main results

* `Node.nests_of_mem_preorder_ofEvents` — all nodes of the tree of events in order nest
-/

namespace WebForms

/-- The events are in order and end at `stop` at the latest. That none starts in front of the text
goes without saying, as its beginning is the least position. -/
structure MarkupEvent.Successive (events : List MarkupEvent) (stop : Position) : Prop where
  ordered : ∀ e ∈ events, e.span.start ≤ e.span.stop
  apart : events.IsChain fun e next => e.span.stop ≤ next.span.start
  within : ∀ e ∈ events, e.span.stop ≤ stop

/-- The node starts before it ends and covers the nodes directly inside it, each of which ends
before the next ones start. -/
structure Node.Nests (n : Node) : Prop where
  ordered : n.span.start ≤ n.span.stop
  inside : ∀ m ∈ n.children, n.span.start ≤ m.span.start ∧ m.span.stop ≤ n.span.stop
  apart : n.children.Pairwise fun elder younger => elder.span.stop ≤ younger.span.start

namespace MarkupEvent

variable {events : List MarkupEvent} {stop : Position}

/-- An event that starts behind another is recorded behind it. -/
theorem clears_of_stop_le {first second : MarkupEvent} (h : first.span.stop ≤ second.span.start)
    (ordered : second.span.start ≤ second.span.stop) : first.Clears second := by
  cases second with
  | endTag name span => exact le_trans h ordered
  | _ => exact h

/-- Each event starts behind all events in front of it. -/
theorem Successive.pairwise (h : Successive events stop) :
    events.Pairwise fun first second => first.span.stop ≤ second.span.start := by
  -- That one event starts behind another is transitive only for events that start before they end.
  let Follows (first second : MarkupEvent) : Prop :=
    first.span.stop ≤ second.span.start ∧ second.span.start ≤ second.span.stop
  have : Trans Follows Follows Follows :=
    ⟨fun ab bc => ⟨le_trans ab.1 (le_trans ab.2 bc.1), bc.2⟩⟩
  have chain : events.IsChain Follows :=
    h.apart.imp_of_mem_imp fun _ next _ hnext le => ⟨le, h.ordered next hnext⟩
  exact (List.isChain_iff_pairwise.mp chain).imp And.left

theorem Successive.clears (h : Successive events stop) : events.Pairwise Clears :=
  h.pairwise.imp_of_mem fun _ hsecond le => clears_of_stop_le le (h.ordered _ hsecond)

end MarkupEvent

namespace Node

variable {n : Node}

/-- All nodes of a well-nested tree nest. -/
theorem WellNested.nests_of_mem_preorder (h : n.WellNested) : ∀ m ∈ n.preorder, m.Nests := by
  induction h with
  | mk ordered inside apart deep nests =>
    rw [forall_mem_preorder_mk]
    exact ⟨⟨ordered, inside, apart⟩, nests⟩

variable {events : List MarkupEvent} {stop : Position}

/-- All nodes of the tree of events in order nest, whatever the events open and close. -/
theorem nests_of_mem_preorder_ofEvents (h : MarkupEvent.Successive events stop) (n : Node)
    (hn : n ∈ (ofEvents events stop).preorder) : n.Nests := by
  have wellNested : (ofEvents events stop).WellNested :=
    wellNested_ofEvents h.clears h.ordered h.within
  exact wellNested.nests_of_mem_preorder n hn

/-- What is recorded of `<a><b></a></b>x`. The first closing tag closes both elements, the second
one none. -/
def crossedEvents : List MarkupEvent := (Scanner.readAll "<a><b></a></b>x").finish.events.toList

/-- The first element contains the second, which was never closed. -/
theorem nests_of_mem_preorder_ofEvents_crossed :
    MarkupEvent.Successive crossedEvents ⟨0, 15⟩ ∧
      ∃ n ∈ (ofEvents crossedEvents ⟨0, 15⟩).preorder,
        n.span = ⟨⟨0, 0⟩, ⟨0, 10⟩⟩ ∧ n.children.map span = [⟨⟨0, 3⟩, ⟨0, 6⟩⟩] ∧ n.Nests := by
  have successive : MarkupEvent.Successive crossedEvents ⟨0, 15⟩ :=
    { ordered := by decide +kernel
      apart := by decide +kernel
      within := by decide +kernel }
  have found : ∃ n ∈ (ofEvents crossedEvents ⟨0, 15⟩).preorder,
      n.span = ⟨⟨0, 0⟩, ⟨0, 10⟩⟩ ∧ n.children.map span = [⟨⟨0, 3⟩, ⟨0, 6⟩⟩] := by
    decide +kernel
  obtain ⟨n, hn, place, places⟩ := found
  exact ⟨successive, n, hn, place, places, nests_of_mem_preorder_ofEvents successive n hn⟩

end Node

end WebForms
