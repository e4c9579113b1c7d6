import WebForms.Proofs.Tree.Preorder

/-!
# The leaves of the tree

Directives, server blocks, comments and text have no content, and nothing that is read later changes
them: in the tree each stands as it was recorded. Elements are different, since a closing tag or the
end of the page gives them their end. A property that any element has, and every piece of markup
without content, therefore holds of all nodes.

## Main definitions

* `Node.All` — a property of every node of a tree

## Main results

* `Node.all_ofEvents` — all nodes have a property if elements and markup without content have it
* `Node.mem_events_of_mem_preorder` — the server blocks of a page are those that were recorded
-/

namespace WebForms

/-- The node may have content, and gets its end when all of this is there. -/
def NodeKind.HasContent : NodeKind → Prop
  | .document | .tag _ => True
  | _ => False

variable {P : NodeKind → Span → Prop} {n : Node} {f : Frame} {kind : NodeKind} {span : Span}

/-- Every node of the tree has the property. -/
def Node.All (P : NodeKind → Span → Prop) (n : Node) : Prop :=
  ∀ m ∈ n.preorder, P m.kind m.span

theorem Node.all_mk {children : List Node} :
    (Node.mk kind span children).All P ↔ P kind span ∧ ∀ n ∈ children, n.All P :=
  forall_mem_preorder_mk

/-- The frame is that of a node with content, and every node inside has the property. -/
structure Frame.All (P : NodeKind → Span → Prop) (f : Frame) : Prop where
  kind : f.kind.HasContent
  inside : ∀ n ∈ f.children, n.All P

/-- Every node that is complete has the property. -/
structure FrameStack.All (P : NodeKind → Span → Prop) (s : FrameStack) : Prop where
  inner : ∀ f ∈ s.inner, f.All P
  root : s.root.All P

theorem Frame.All.attach (h : f.All P) (hn : n.All P) : (f.attach n).All P where
  kind := h.kind
  inside := List.forall_mem_cons.mpr ⟨hn, h.inside⟩

theorem FrameStack.All.attach {s : FrameStack} (h : s.All P) (hn : n.All P) :
    (s.attach n).All P := by
  unfold FrameStack.attach
  split
  next hs => exact ⟨by simp [hs], h.root.attach hn⟩
  next f fs hs =>
    obtain ⟨first, rest⟩ := List.forall_mem_cons.mp (hs ▸ h.inner)
    exact ⟨List.forall_mem_cons.mpr ⟨first.attach hn, rest⟩, h.root⟩

section

variable (content : ∀ kind span, kind.HasContent → P kind span)
include content

namespace Frame.All

theorem toNode (h : f.All P) : f.toNode.All P := by
  refine Node.all_mk.mpr ⟨content _ _ h.kind, ?_⟩
  exact fun n hn => h.inside n (List.mem_reverse.mp hn)

theorem unclosed (h : f.All P) : f.unclosed.All P := by
  unfold Frame.unclosed
  split
  · exact h.toNode content
  · exact toNode content ⟨h.kind, h.inside⟩

theorem closed (h : f.All P) (endTag : Span) : (f.closed endTag).All P := by
  refine toNode content ⟨?_, h.inside⟩
  have kind := h.kind
  -- A closing tag makes no other kind of an element.
  cases hkind : f.kind with
  | tag => trivial
  | document => trivial
  | directive | block | plain =>
    rw [hkind] at kind
    exact kind

end Frame.All

namespace FrameStack.All

variable {s : FrameStack} {e : MarkupEvent} {name : TagName} {endTag : Span}

theorem closeIn {inner : List Frame} {root : Frame} (hinner : ∀ f ∈ inner, f.All P)
    (hroot : root.All P) (hs : FrameStack.closeIn name endTag inner root = some s) :
    s.All P := by
  fun_induction FrameStack.closeIn name endTag inner root with
  | case1 => cases hs
  | case2 f fs root named =>
    obtain rfl := Option.some.inj hs
    obtain ⟨first, rest⟩ := List.forall_mem_cons.mp hinner
    exact attach ⟨rest, hroot⟩ (first.closed content endTag)
  | case3 => cases hs
  | case4 f root other g gs ih =>
    obtain ⟨first, second, rest⟩ := by simpa only [List.forall_mem_cons] using hinner
    refine ih (List.forall_mem_cons.mpr ⟨?_, rest⟩) hroot hs
    exact second.attach (first.unclosed content)

theorem step (h : s.All P) (he : ∀ n, e.leaf? = some n → n.All P) : (s.step e).All P := by
  cases leaf : e.leaf? with
  | some n =>
    rw [step_of_leaf leaf]
    exact h.attach (he n leaf)
  | none =>
    -- Only a tag with content behind it and a closing tag add no node at once.
    cases e with
    | startTag tag opensScope =>
      cases opensScope with
      | false => cases leaf
      | true => exact ⟨List.forall_mem_cons.mpr ⟨⟨trivial, nofun⟩, h.inner⟩, h.root⟩
    | endTag name span =>
      cases closed : FrameStack.closeIn name span s.inner s.root with
      | none =>
        rw [FrameStack.step, FrameStack.close, closed]
        exact h
      | some s' =>
        rw [FrameStack.step, FrameStack.close, closed]
        exact closeIn content h.inner h.root closed
    | text | directive | block | plain => cases leaf

theorem finishIn {inner : List Frame} {root : Frame} (hinner : ∀ f ∈ inner, f.All P)
    (hroot : root.All P) : (FrameStack.finishIn root inner).All P := by
  fun_induction FrameStack.finishIn root inner with
  | case1 => exact hroot
  | case2 f => exact hroot.attach ((hinner f List.mem_cons_self).unclosed content)
  | case3 f g gs ih =>
    obtain ⟨first, second, rest⟩ := by simpa only [List.forall_mem_cons] using hinner
    refine ih (List.forall_mem_cons.mpr ⟨?_, rest⟩)
    exact second.attach (first.unclosed content)

end FrameStack.All

/-- What holds of every node with content, and of the nodes of all markup without any, holds of
every node of the tree. -/
theorem Node.all_ofEvents {events : List MarkupEvent} {stop : Position}
    (leaves : ∀ e ∈ events, ∀ n, e.leaf? = some n → n.All P) : (ofEvents events stop).All P := by
  have after : (FrameStack.after stop events).All P := by
    induction events using List.reverseRecOn with
    | nil => exact ⟨nofun, trivial, nofun⟩
    | append_singleton events e ih =>
      obtain ⟨earlier, last⟩ := List.forall_mem_append.mp leaves
      rw [FrameStack.after_concat]
      exact (ih earlier).step content (last e List.mem_cons_self)
  rw [FrameStack.ofEvents_eq]
  exact (FrameStack.All.finishIn content after.inner after.root).toNode content

end

/-- Every server block of a tree has been recorded, with the span that its node has. -/
theorem Node.mem_events_of_mem_preorder {events : List MarkupEvent} {stop : Position}
    {e : ServerBlock} (hn : n ∈ (ofEvents events stop).preorder) (hkind : n.kind = .block e) :
    .block e n.span ∈ events := by
  have recorded : (ofEvents events stop).All
      fun kind span => ∀ e, kind = .block e → .block e span ∈ events := by
    refine all_ofEvents ?_ fun event mem n leaf => ?_
    · rintro _ span content e rfl
      exact content.elim
    · cases event with
      | block e span =>
        obtain rfl := Option.some.inj leaf
        refine all_mk.mpr ⟨?_, nofun⟩
        rintro _ ⟨⟩
        exact mem
      | startTag tag opensScope =>
        cases opensScope with
        | false =>
          obtain rfl := Option.some.inj leaf
          exact all_mk.mpr ⟨nofun, nofun⟩
        | true => cases leaf
      | endTag => cases leaf
      | text | directive | plain =>
        obtain rfl := Option.some.inj leaf
        exact all_mk.mpr ⟨nofun, nofun⟩
  exact recorded n hn e hkind

end WebForms
