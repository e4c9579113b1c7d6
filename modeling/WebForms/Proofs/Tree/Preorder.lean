import WebForms.Proofs.Tree.Positions

/-!
# The order of the tree

What is recorded of a page becomes nodes of its tree, one for each piece of markup but closing tags.
Read parents first, the tree has them in the order in which they were recorded, whatever has been
opened and closed in between: a closing tag, or the end of the page, turns elements under
construction into nodes, but leaves them and all inside them in their places.

## Main definitions

* `Node.heading`, `MarkupEvent.heading?` — what a node has from the markup that it was made of
* `FrameStack.headings` — those of a tree under construction

## Main results

* `Node.headings_ofEvents` — the nodes of a tree are those of its events, in the same order
* `Node.exists_startTag_of_mem_tags` — an element has the start tag that was recorded for it
-/

namespace WebForms

/-- The kind without what is known only when an element has been closed. -/
def NodeKind.opened : NodeKind → NodeKind
  | .tag t => .tag { t with endTag := none }
  | kind => kind

/-- What a node has from the markup that it was made of: its kind and where it starts. -/
def Node.heading (n : Node) : NodeKind × Position := (n.kind.opened, n.span.start)

/-- The nodes of the tree, parents first. -/
def Node.headings (n : Node) : List (NodeKind × Position) := n.preorder.map heading

/-- The kind of node that markup becomes, and where this starts. -/
def MarkupEvent.heading? : MarkupEvent → Option (NodeKind × Position)
  | .text span => some (.plain .text, span.start)
  | .startTag tag _ => some ((NodeKind.tag tag).opened, tag.startTag.start)
  | .endTag .. => none
  | .directive d span => some (.directive d, span.start)
  | .block e span => some (.block e, span.start)
  | .plain kind _ span => some (.plain kind, span.start)

/-- The element and all inside it. -/
def Frame.headings (f : Frame) : List (NodeKind × Position) :=
  (f.kind.opened, f.span.start) :: f.children.reverse.flatMap Node.headings

/-- The root and the elements under construction, outermost first, with all inside them. -/
def FrameStack.headings (s : FrameStack) : List (NodeKind × Position) :=
  s.root.headings ++ s.inner.reverse.flatMap Frame.headings

namespace Node

/-! The depth at which a tree stands makes no difference to its nodes. -/

mutual

theorem map_snd_preorderFrom (depth depth' : Nat) : (n : Node) →
    (n.preorderFrom depth).map Prod.snd = (n.preorderFrom depth').map Prod.snd
  | mk kind span children => by
    rw [preorderFrom, preorderFrom, List.map_cons, List.map_cons,
      map_snd_preorderList (depth + 1) (depth' + 1) children]

theorem map_snd_preorderList (depth depth' : Nat) : (ns : List Node) →
    (preorderList depth ns).map Prod.snd = (preorderList depth' ns).map Prod.snd
  | [] => rfl
  | n :: ns => by
    rw [preorderList, preorderList, List.map_append, List.map_append,
      map_snd_preorderFrom depth depth' n, map_snd_preorderList depth depth' ns]

end

/-- The nodes of a tree are its root and those of the trees inside. -/
theorem preorder_mk (kind : NodeKind) (span : Span) (children : List Node) :
    (mk kind span children).preorder = mk kind span children :: children.flatMap preorder := by
  have inside (n : Node) : (n.preorderFrom 1).map Prod.snd = n.preorder :=
    map_snd_preorderFrom 1 0 n
  rw [preorder, preorderFrom, List.map_cons, preorderList_eq, List.map_flatMap]
  simp only [inside]

/-- What holds of all nodes of a tree holds of its root and of all nodes inside. -/
theorem forall_mem_preorder_mk {P : Node → Prop} {kind : NodeKind} {span : Span}
    {children : List Node} :
    (∀ m ∈ (mk kind span children).preorder, P m) ↔
      P (mk kind span children) ∧ ∀ n ∈ children, ∀ m ∈ n.preorder, P m := by
  rw [preorder_mk, List.forall_mem_cons]
  refine and_congr_right fun _ => ?_
  simp only [List.mem_flatMap]
  constructor
  · intro h n hn m hm
    exact h m ⟨n, hn, hm⟩
  · rintro h m ⟨n, hn, hm⟩
    exact h n hn m hm

theorem headings_mk (kind : NodeKind) (span : Span) (children : List Node) :
    (mk kind span children).headings =
      (kind.opened, span.start) :: children.flatMap headings := by
  rw [headings, preorder_mk, List.map_cons, List.map_flatMap]
  rfl

end Node

namespace Frame

variable {f : Frame} {n : Node}

@[simp] theorem headings_attach (f : Frame) (n : Node) :
    (f.attach n).headings = f.headings ++ n.headings := by
  simp [headings, attach]

@[simp] theorem headings_toNode (f : Frame) : f.toNode.headings = f.headings := by
  rw [toNode, Node.headings_mk, headings]

/-- An element that was never closed is the node that it was going to be. -/
@[simp] theorem headings_unclosed (f : Frame) : f.unclosed.headings = f.headings := by
  unfold unclosed
  split
  · exact headings_toNode f
  · exact headings_toNode _

/-- An element that is closed is the node that it was going to be. -/
@[simp] theorem headings_closed (f : Frame) (endTag : Span) :
    (f.closed endTag).headings = f.headings := by
  unfold closed
  rw [headings_toNode, headings, headings]
  cases f.kind <;> rfl

end Frame

namespace FrameStack

variable {s : FrameStack} {name : TagName} {endTag : Span}

/-- A node is added behind all others. -/
@[simp] theorem headings_attach (s : FrameStack) (n : Node) :
    (s.attach n).headings = s.headings ++ n.headings := by
  unfold attach headings
  cases hs : s.inner with
  | nil => simp
  | cons f fs => simp

/-- A closing tag adds no nodes. -/
theorem headings_closeIn {inner : List Frame} {root : Frame}
    (h : closeIn name endTag inner root = some s) :
    s.headings = ({ inner, root } : FrameStack).headings := by
  fun_induction closeIn name endTag inner root with
  | case1 => cases h
  | case2 f fs root named =>
    obtain rfl := Option.some.inj h
    rw [headings_attach, Frame.headings_closed]
    simp [headings]
  | case3 => cases h
  | case4 f root other g gs ih =>
    -- The element becomes the last node inside the one around it, behind which it stood.
    rw [ih h]
    simp [headings]

/-- Markup adds its own node behind all others, if it becomes one. -/
theorem headings_step (s : FrameStack) (e : MarkupEvent) :
    (s.step e).headings = s.headings ++ e.heading?.toList := by
  have leaf (kind : NodeKind) (span : Span) :
      (s.attach (.mk kind span [])).headings = s.headings ++ [(kind.opened, span.start)] := by
    rw [headings_attach, Node.headings_mk, List.flatMap_nil]
  cases e with
  | startTag tag opensScope =>
    cases opensScope with
    | false => exact leaf (.tag tag) tag.startTag
    | true => simp [step, push, headings, Frame.headings, MarkupEvent.heading?]
  | endTag name span =>
    rw [MarkupEvent.heading?, Option.toList_none, List.append_nil]
    cases closed : closeIn name span s.inner s.root with
    | none => rw [step, close, closed, Option.getD_none]
    | some s' =>
      rw [step, close, closed, Option.getD_some, headings_closeIn closed]
  | text span => exact leaf (.plain .text) span
  | directive d span => exact leaf (.directive d) span
  | block e span => exact leaf (.block e) span
  | plain kind text span => exact leaf (.plain kind) span

/-- The end of the page adds no nodes. -/
theorem headings_finishIn (root : Frame) (inner : List Frame) :
    (finishIn root inner).headings = ({ inner, root } : FrameStack).headings := by
  fun_induction finishIn root inner with
  | case1 => simp [headings]
  | case2 f => simp [headings]
  | case3 f g gs ih =>
    rw [ih]
    simp [headings]

/-- After some events, the nodes are those of the events. -/
theorem headings_after (stop : Position) (events : List MarkupEvent) :
    (after stop events).headings = (.document, {}) :: events.filterMap MarkupEvent.heading? := by
  induction events using List.reverseRecOn with
  | nil => rfl
  | append_singleton events e ih =>
    have last : [e].filterMap MarkupEvent.heading? = e.heading?.toList := by
      cases h : e.heading? <;> simp [h]
    rw [after_concat, headings_step, ih, List.filterMap_append, last, List.cons_append]

end FrameStack

namespace Node

/-- Below the root, the tree of some events has one node for each of them but closing tags, in the
same order and with the same kinds and starts. -/
theorem headings_ofEvents (events : List MarkupEvent) (stop : Position) :
    (ofEvents events stop).headings =
      (.document, {}) :: events.filterMap MarkupEvent.heading? := by
  rw [FrameStack.ofEvents_eq, FrameStack.finish, Frame.headings_toNode,
    FrameStack.headings_finishIn]
  exact FrameStack.headings_after stop events

/-- The root of a tree is the page. -/
theorem kind_ofEvents (events : List MarkupEvent) (stop : Position) :
    (ofEvents events stop).kind = .document := by
  have headings := headings_ofEvents events stop
  cases tree : ofEvents events stop with
  | mk kind span children =>
    rw [tree, headings_mk] at headings
    have opened : kind.opened = .document := congrArg Prod.fst (List.cons.inj headings).1
    cases kind with
    | document => rfl
    | _ => cases opened

/-- The start tag of every element of a tree is one of the events. -/
theorem exists_startTag_of_mem_tags {events : List MarkupEvent} {stop : Position} {tag : Tag}
    (h : tag ∈ (ofEvents events stop).tags) :
    ∃ recorded opensScope, .startTag recorded opensScope ∈ events ∧ recorded.name = tag.name ∧
      recorded.attributes = tag.attributes ∧ recorded.startTag = tag.startTag := by
  obtain ⟨n, hn, isTag⟩ := List.mem_filterMap.mp h
  have kind : n.kind = .tag tag := by
    unfold tag? at isTag
    split at isTag
    next t hkind => rw [hkind, Option.some.inj isTag]
    next => cases isTag
  have found : n.heading ∈ (ofEvents events stop).headings := List.mem_map_of_mem hn
  rw [headings_ofEvents, heading, kind, List.mem_cons, List.mem_filterMap] at found
  obtain root | ⟨e, he, same⟩ := found
  · cases congrArg Prod.fst root
  · cases e with
    | startTag recorded opensScope =>
      have opened := congrArg Prod.fst (Option.some.inj same)
      simp only [NodeKind.opened, NodeKind.tag.injEq, Tag.mk.injEq] at opened
      exact ⟨recorded, opensScope, he, opened.1, opened.2.1, opened.2.2.1⟩
    | endTag => cases same
    | text | directive | block | plain => cases congrArg Prod.fst (Option.some.inj same)

end Node

end WebForms
