import Mathlib.Data.List.Induction
import WebForms.Proofs.Tree.Frames

/-!
# The positions in a tree

A tree has no positions of its own: those of its nodes are positions of the events that it was built
from, or the ends of the text. What holds of all these holds of every position in the tree, also of
the end of an element that was never closed, which is the end of something inside.

## Main definitions

* `Node.positions`, `MarkupEvent.positions` — the positions that are kept of a node, of markup
* `Node.AllPositions` — a property of every position in a tree

## Main results

* `Node.allPositions_ofEvents` — the positions in a tree are those of its events
-/

namespace WebForms

/-- The positions that are kept of a node besides its span. -/
def NodeKind.positions : NodeKind → List Position
  | .tag t =>
    [t.startTag.start, t.startTag.stop] ++
      t.endTag.toList.flatMap fun span => [span.start, span.stop]
  | .block e => [e.textStart]
  | _ => []

/-- The positions that are kept of a node: its ends, those of its tags and where its text starts. -/
def Node.positions (n : Node) : List Position :=
  n.span.start :: n.span.stop :: n.kind.positions

/-- The positions that are recorded of markup besides its span. -/
def MarkupEvent.innerPositions : MarkupEvent → List Position
  | .startTag tag _ => (NodeKind.tag tag).positions
  | .block e _ => (NodeKind.block e).positions
  | _ => []

/-- The positions that are recorded of markup. -/
def MarkupEvent.positions (e : MarkupEvent) : List Position :=
  e.span.start :: e.span.stop :: e.innerPositions

/-- Every position in the tree has the property. -/
inductive Node.AllPositions (P : Position → Prop) : Node → Prop
  | mk {kind : NodeKind} {span : Span} {children : List Node}
      (here : ∀ p ∈ (Node.mk kind span children).positions, P p)
      (inside : ∀ n ∈ children, AllPositions P n) : AllPositions P (.mk kind span children)

variable {P : Position → Prop} {n : Node}

theorem Node.preorderList_eq (depth : Nat) (ns : List Node) :
    preorderList depth ns = ns.flatMap (preorderFrom depth) := by
  induction ns with
  | nil => rfl
  | cons n ns ih => rw [preorderList, ih, List.flatMap_cons]

theorem Node.AllPositions.of_mem_preorderFrom (h : n.AllPositions P) {depth : Nat}
    {m : Nat × Node} (hm : m ∈ n.preorderFrom depth) : ∀ p ∈ m.2.positions, P p := by
  induction h generalizing depth with
  | mk here inside ih =>
    rw [preorderFrom, List.mem_cons, preorderList_eq, List.mem_flatMap] at hm
    obtain rfl | ⟨child, hchild, hm⟩ := hm
    · exact here
    · exact ih child hchild hm

theorem Node.AllPositions.of_mem_preorder (h : n.AllPositions P) {m : Node}
    (hm : m ∈ n.preorder) : ∀ p ∈ m.positions, P p := by
  obtain ⟨entry, hentry, rfl⟩ := List.mem_map.mp hm
  exact h.of_mem_preorderFrom hentry

theorem Node.mem_preorder_self (n : Node) : n ∈ n.preorder := by
  cases n
  simp [preorder, preorderFrom]

/-- Every position of the element has the property, and every one inside. -/
structure Frame.AllPositions (P : Position → Prop) (f : Frame) : Prop where
  start : P f.span.start
  stop : P f.span.stop
  kind : ∀ p ∈ f.kind.positions, P p
  children : ∀ n ∈ f.children, n.AllPositions P

namespace Frame.AllPositions

variable {f : Frame} {name : TagName} {endTag : Span}

theorem attach (h : f.AllPositions P) (hn : n.AllPositions P) : (f.attach n).AllPositions P where
  start := h.start
  stop := h.stop
  kind := h.kind
  children := List.forall_mem_cons.mpr ⟨hn, h.children⟩

theorem toNode (h : f.AllPositions P) : f.toNode.AllPositions P := by
  refine .mk ?_ ?_
  · exact List.forall_mem_cons.mpr ⟨h.start, List.forall_mem_cons.mpr ⟨h.stop, h.kind⟩⟩
  · exact fun n hn => h.children n (List.mem_reverse.mp hn)

/-- An element that was never closed ends where its start tag or something inside it ends. -/
theorem unclosed (h : f.AllPositions P) : f.unclosed.AllPositions P := by
  unfold Frame.unclosed
  split
  · exact h.toNode
  next n ns hf =>
    have inside := h.children n (hf ▸ List.mem_cons_self)
    have last : P n.span.stop := by
      cases inside with
      | mk here => exact here _ (List.mem_cons_of_mem _ List.mem_cons_self)
    -- The later of two positions is one of them.
    have later : P (f.span.stop.max n.span.stop) := by
      unfold Position.max
      split
      · exact last
      · exact h.stop
    exact toNode { h with stop := later }

/-- An element that was closed has the positions of its closing tag besides its own. -/
theorem closed (h : f.AllPositions P) (start : P endTag.start) (stop : P endTag.stop) :
    (f.closed endTag).AllPositions P := by
  refine toNode ⟨h.start, stop, ?_, h.children⟩
  have kind := h.kind
  cases hkind : f.kind with
  | tag t =>
    rw [hkind] at kind
    simp only [NodeKind.positions, List.cons_append, List.nil_append,
      List.forall_mem_cons] at kind ⊢
    exact ⟨kind.1, kind.2.1, by simp [start, stop]⟩
  | document | directive | block | plain =>
    rw [hkind] at kind
    exact kind

end Frame.AllPositions

/-- Every position of the elements under construction has the property, and every one inside. -/
structure FrameStack.AllPositions (P : Position → Prop) (s : FrameStack) : Prop where
  inner : ∀ f ∈ s.inner, f.AllPositions P
  root : s.root.AllPositions P

namespace FrameStack.AllPositions

variable {s : FrameStack} {e : MarkupEvent} {name : TagName} {endTag : Span}

theorem attach (h : s.AllPositions P) (hn : n.AllPositions P) : (s.attach n).AllPositions P := by
  unfold FrameStack.attach
  split
  next hs => exact ⟨by simp [hs], h.root.attach hn⟩
  next f fs hs =>
    obtain ⟨first, rest⟩ := List.forall_mem_cons.mp (hs ▸ h.inner)
    exact ⟨List.forall_mem_cons.mpr ⟨first.attach hn, rest⟩, h.root⟩

theorem closeIn {inner : List Frame} {root : Frame} (hinner : ∀ f ∈ inner, f.AllPositions P)
    (hroot : root.AllPositions P) (start : P endTag.start) (stop : P endTag.stop)
    (hs : FrameStack.closeIn name endTag inner root = some s) : s.AllPositions P := by
  fun_induction FrameStack.closeIn name endTag inner root with
  | case1 => cases hs
  | case2 f fs root named =>
    obtain rfl := Option.some.inj hs
    obtain ⟨first, rest⟩ := List.forall_mem_cons.mp hinner
    exact attach ⟨rest, hroot⟩ (first.closed start stop)
  | case3 => cases hs
  | case4 f root other g gs ih =>
    obtain ⟨first, second, rest⟩ := by simpa only [List.forall_mem_cons] using hinner
    exact ih (List.forall_mem_cons.mpr ⟨second.attach first.unclosed, rest⟩) hroot hs

theorem step (h : s.AllPositions P) (he : ∀ p ∈ e.positions, P p) :
    (s.step e).AllPositions P := by
  obtain ⟨start, stop, inner⟩ := by
    simpa only [MarkupEvent.positions, List.forall_mem_cons] using he
  -- All nodes but open elements are added whole.
  have leaf (kind : NodeKind) (hkind : ∀ p ∈ kind.positions, P p) :
      (Node.mk kind e.span []).AllPositions P :=
    Frame.AllPositions.toNode (f := ⟨kind, e.span, []⟩) ⟨start, stop, hkind, nofun⟩
  cases e with
  | startTag tag opensScope =>
    cases opensScope with
    | false => exact h.attach (leaf _ inner)
    | true => exact ⟨List.forall_mem_cons.mpr ⟨⟨start, stop, inner, nofun⟩, h.inner⟩, h.root⟩
  | endTag name span =>
    cases closed : FrameStack.closeIn name span s.inner s.root with
    | none =>
      rw [FrameStack.step, FrameStack.close, closed]
      exact h
    | some s' =>
      rw [FrameStack.step, FrameStack.close, closed]
      exact closeIn h.inner h.root start stop closed
  | text | directive | plain => exact h.attach (leaf _ nofun)
  | block => exact h.attach (leaf _ inner)

theorem finishIn {inner : List Frame} {root : Frame} (hinner : ∀ f ∈ inner, f.AllPositions P)
    (hroot : root.AllPositions P) : (FrameStack.finishIn root inner).AllPositions P := by
  fun_induction FrameStack.finishIn root inner with
  | case1 => exact hroot
  | case2 f => exact hroot.attach (hinner f List.mem_cons_self).unclosed
  | case3 f g gs ih =>
    obtain ⟨first, second, rest⟩ := by simpa only [List.forall_mem_cons] using hinner
    exact ih (List.forall_mem_cons.mpr ⟨second.attach first.unclosed, rest⟩)

end FrameStack.AllPositions

/-- What holds of the positions of all events and of the ends of the text holds of every position in
the tree. -/
theorem Node.allPositions_ofEvents {events : List MarkupEvent} {stop : Position}
    (h : ∀ e ∈ events, ∀ p ∈ e.positions, P p) (hstart : P {}) (hstop : P stop) :
    (ofEvents events stop).AllPositions P := by
  have after : (FrameStack.after stop events).AllPositions P := by
    induction events using List.reverseRecOn with
    | nil => exact ⟨nofun, hstart, hstop, nofun, nofun⟩
    | append_singleton events e ih =>
      obtain ⟨earlier, last⟩ := List.forall_mem_append.mp h
      rw [FrameStack.after_concat]
      exact (ih earlier).step (last e List.mem_cons_self)
  rw [FrameStack.ofEvents_eq]
  exact (FrameStack.AllPositions.finishIn after.inner after.root).toNode

end WebForms
