import WebForms.Proofs.Scanner.EventOrder
import WebForms.Proofs.Scanner.RawText
import WebForms.Proofs.Tree.Leaves

/-!
# What stands inside an element

A node has content only if a closing tag could have ended it, and the content of a script or style
element is raw text: there may be comments and directives of server blocks in it, but no further
elements, and no server blocks that yield output. While the tree is built, an element under
construction takes in what is recorded as long as it is the innermost one, and becomes itself part
of the element around it. Both are harmless, because an element with raw text is never around
another one, and while it is the innermost one, neither tags nor server blocks are recorded.

## Main definitions

* `NodeKind.OpensScope`, `NodeKind.HoldsRawText` — which nodes have content, and which have raw text
* `Node.Proper` — all nodes of a tree have the content that they may have
* `FrameStack.Proper`, `MarkupEvent.FitsIn` — the same for a tree under construction

## Main results

* `Node.rawText_stays_raw` — all trees of texts are proper, and raw text is innermost at all times
-/

namespace WebForms

namespace NodeKind

/-- Markup may follow inside: the node is the page, or an element with a closing tag to come. -/
def OpensScope : NodeKind → Prop
  | .document => True
  | .tag t => t.selfClosing = false ∧ t.name.isVoid = false
  | _ => False

/-- The node is an element whose content is raw text. -/
def HoldsRawText : NodeKind → Prop
  | .tag t => t.name.isRawText
  | _ => False

/-- The node is neither an element nor a server block, and may stand in raw text. -/
def Inert : NodeKind → Prop
  | .directive _ | .plain _ => True
  | _ => False

variable {kind : NodeKind}

theorem Inert.not_opensScope (h : kind.Inert) : ¬ kind.OpensScope := by
  cases kind with
  | document | tag | block => exact h.elim
  | directive | plain => exact id

/-- A node of this kind may have these children. -/
structure Admits (kind : NodeKind) (children : List Node) : Prop where
  scope : children ≠ [] → kind.OpensScope
  raw : kind.HoldsRawText → ∀ n ∈ children, n.kind.Inert

end NodeKind

variable {n : Node} {kind : NodeKind} {span : Span} {f : Frame} {s : FrameStack}

namespace Node

/-- The nodes inside, at any depth. -/
def descendants (n : Node) : List Node := n.children.flatMap preorder

/-- Every node of the tree has children that it may have. -/
def Proper (n : Node) : Prop := ∀ m ∈ n.preorder, m.kind.Admits m.children

theorem proper_mk {children : List Node} :
    (mk kind span children).Proper ↔ kind.Admits children ∧ ∀ n ∈ children, n.Proper :=
  forall_mem_preorder_mk

theorem proper_leaf : (mk kind span []).Proper := proper_mk.mpr ⟨⟨nofun, nofun⟩, nofun⟩

theorem Proper.admits (h : n.Proper) : n.kind.Admits n.children := by
  cases n with
  | mk kind span children => exact (proper_mk.mp h).1

/-- What stands inside a proper tree is a proper tree. -/
theorem Proper.of_mem_preorder {n m : Node} (h : n.Proper) (hm : m ∈ n.preorder) : m.Proper := by
  match n with
  | mk kind span children =>
    rw [preorder_mk] at hm
    rcases List.mem_cons.mp hm with rfl | hm
    · exact h
    · obtain ⟨child, mem, hm⟩ := List.mem_flatMap.mp hm
      have smaller := List.sizeOf_lt_of_mem mem
      exact ((proper_mk.mp h).2 child mem).of_mem_preorder hm
termination_by n
decreasing_by
  rw [mk.sizeOf_spec]
  omega

/-- A node that may stand in raw text has nothing inside. -/
theorem Proper.preorder_eq (h : n.Proper) (inert : n.kind.Inert) : n.preorder = [n] := by
  cases n with
  | mk kind span children =>
    have admits : kind.Admits children := h.admits
    have nothing : children = [] := by
      by_contra some'
      exact inert.not_opensScope (admits.scope some')
    rw [nothing, preorder_mk, List.flatMap_nil]

/-- Inside raw text there are neither elements nor server blocks, at any depth. -/
theorem Proper.inert_of_mem_descendants (h : n.Proper) (raw : n.kind.HoldsRawText) {m : Node}
    (hm : m ∈ n.descendants) : m.kind.Inert := by
  cases n with
  | mk kind span children =>
    obtain ⟨admits, inside⟩ := proper_mk.mp h
    obtain ⟨child, mem, hm⟩ := List.mem_flatMap.mp hm
    have inert := admits.raw raw child mem
    rw [(inside child mem).preorder_eq inert, List.mem_singleton] at hm
    rwa [hm]

end Node

/-! ### Elements under construction -/

/-- The element may have content, and has such as it may have. -/
structure Frame.Proper (f : Frame) : Prop where
  scope : f.kind.OpensScope
  raw : f.kind.HoldsRawText → ∀ n ∈ f.children, n.kind.Inert
  inside : ∀ n ∈ f.children, n.Proper

namespace Frame.Proper

theorem attach (h : f.Proper) (hn : n.Proper) (fits : f.kind.HoldsRawText → n.kind.Inert) :
    (f.attach n).Proper where
  scope := h.scope
  raw := fun raw => List.forall_mem_cons.mpr ⟨fits raw, h.raw raw⟩
  inside := List.forall_mem_cons.mpr ⟨hn, h.inside⟩

theorem toNode (h : f.Proper) : f.toNode.Proper := by
  refine Node.proper_mk.mpr ⟨⟨fun _ => h.scope, ?_⟩, ?_⟩
  · exact fun raw n hn => h.raw raw n (List.mem_reverse.mp hn)
  · exact fun n hn => h.inside n (List.mem_reverse.mp hn)

theorem unclosed (h : f.Proper) : f.unclosed.Proper := by
  unfold Frame.unclosed
  split
  · exact h.toNode
  · exact toNode ⟨h.scope, h.raw, h.inside⟩

theorem closed (h : f.Proper) (endTag : Span) : (f.closed endTag).Proper := by
  have scope := h.scope
  have raw := h.raw
  unfold Frame.closed
  refine toNode ⟨?_, ?_, h.inside⟩
  -- The closing tag changes neither the name of the element nor how its start tag ended.
  · cases hkind : f.kind with
    | _ =>
      rw [hkind] at scope
      exact scope
  · cases hkind : f.kind with
    | _ =>
      rw [hkind] at raw
      exact raw

end Frame.Proper

namespace FrameStack

/-- Markup is the content of the innermost element. -/
def InMarkup (s : FrameStack) : Prop := ∀ f ∈ s.inner.head?, ¬ f.kind.HoldsRawText

/-- The elements under construction have such content as they may have, and none is around another
one if its content is raw text. -/
structure Proper (s : FrameStack) : Prop where
  inner : ∀ f ∈ s.inner, f.Proper
  outer : ∀ f ∈ s.inner.tail, ¬ f.kind.HoldsRawText
  root : s.root.Proper
  document : s.root.kind = .document

namespace Proper

theorem attach (h : s.Proper) (hn : n.Proper) (fits : ¬ s.InMarkup → n.kind.Inert) :
    (s.attach n).Proper := by
  unfold FrameStack.attach
  split
  next hs =>
    have markup : s.root.kind.HoldsRawText → n.kind.Inert := by
      rw [h.document]
      exact False.elim
    exact ⟨by simp [hs], by simp [hs], h.root.attach hn markup, h.document⟩
  next f fs hs =>
    obtain ⟨first, rest⟩ := List.forall_mem_cons.mp (hs ▸ h.inner)
    have outer := h.outer
    rw [hs, List.tail_cons] at outer
    refine ⟨List.forall_mem_cons.mpr ⟨first.attach hn fun raw => ?_, rest⟩, outer, h.root,
      h.document⟩
    refine fits fun markup => ?_
    exact markup f (by rw [hs]; rfl) raw

/-- Where markup is the content of the innermost element, it is that of all. -/
theorem markup (h : s.Proper) (markup : s.InMarkup) : ∀ f ∈ s.inner, ¬ f.kind.HoldsRawText := by
  intro f hf
  cases hs : s.inner with
  | nil =>
    rw [hs] at hf
    exact nomatch hf
  | cons g gs =>
    rw [hs] at hf
    rcases List.mem_cons.mp hf with rfl | hf
    · exact markup f (by rw [hs]; rfl)
    · exact h.outer f (by rw [hs]; exact hf)

/-- The elements around the innermost one are under construction as before. -/
theorem tail {fs : List Frame} {root : Frame} (h : Proper ⟨f :: fs, root⟩) :
    Proper ⟨fs, root⟩ ∧ InMarkup ⟨fs, root⟩ := by
  have inner := List.forall_mem_cons.mp h.inner
  constructor
  · exact ⟨inner.2, fun g hg => h.outer g (List.mem_of_mem_tail hg), h.root, h.document⟩
  · exact fun g hg => h.outer g (List.mem_of_mem_head? hg)

/-- An element that was not closed becomes part of the one around it. -/
theorem unclosed {g : Frame} {gs : List Frame} {root : Frame} (h : Proper ⟨f :: g :: gs, root⟩) :
    Proper ⟨g.attach f.unclosed :: gs, root⟩ := by
  obtain ⟨around, markup⟩ := h.tail
  have innermost := h.inner f List.mem_cons_self
  exact around.attach innermost.unclosed (absurd markup)

theorem closeIn {inner : List Frame} {root : Frame} {name : TagName} {endTag : Span}
    (h : Proper ⟨inner, root⟩) (hs : FrameStack.closeIn name endTag inner root = some s) :
    s.Proper := by
  fun_induction FrameStack.closeIn name endTag inner root with
  | case1 => cases hs
  | case2 f fs root named =>
    obtain rfl := Option.some.inj hs
    obtain ⟨around, markup⟩ := h.tail
    have innermost := h.inner f List.mem_cons_self
    exact around.attach (innermost.closed endTag) (absurd markup)
  | case3 => cases hs
  | case4 f root other g gs ih => exact ih h.unclosed hs

theorem finishIn {inner : List Frame} {root : Frame} (h : Proper ⟨inner, root⟩) :
    (FrameStack.finishIn root inner).Proper := by
  fun_induction FrameStack.finishIn root inner with
  | case1 => exact h.root
  | case2 f =>
    have innermost := h.inner f List.mem_cons_self
    obtain ⟨around, markup⟩ := h.tail
    exact (around.attach innermost.unclosed (absurd markup)).root
  | case3 f g gs ih => exact ih h.unclosed

end Proper

end FrameStack

/-- The markup may be recorded where the tree is so far: tags and server blocks among markup only,
and content follows a start tag unless the tag says otherwise. -/
def MarkupEvent.FitsIn (s : FrameStack) : MarkupEvent → Prop
  | .startTag tag opensScope =>
    opensScope = !(tag.selfClosing || tag.name.isVoid) ∧ s.InMarkup
  | .block .. => s.InMarkup
  | _ => True

/-- Markup that fits leaves a tree under construction proper. -/
theorem FrameStack.Proper.step (h : s.Proper) {e : MarkupEvent} (fits : e.FitsIn s) :
    (s.step e).Proper := by
  cases e with
  | text | directive | plain => exact h.attach Node.proper_leaf fun _ => trivial
  | block e span => exact h.attach Node.proper_leaf (absurd fits)
  | endTag name span =>
    cases closed : FrameStack.closeIn name span s.inner s.root with
    | none =>
      rw [FrameStack.step, FrameStack.close, closed]
      exact h
    | some s' =>
      rw [FrameStack.step, FrameStack.close, closed]
      exact closeIn h closed
  | startTag tag opensScope =>
    obtain ⟨opens, markup⟩ := fits
    cases opensScope with
    | false => exact h.attach Node.proper_leaf (absurd markup)
    | true =>
      have scope : (NodeKind.tag tag).OpensScope := by simpa [NodeKind.OpensScope] using opens.symm
      have first : Frame.Proper { kind := .tag tag, span := tag.startTag } :=
        ⟨scope, fun _ => List.forall_mem_nil _, List.forall_mem_nil _⟩
      exact ⟨List.forall_mem_cons.mpr ⟨first, h.inner⟩, h.markup markup, h.root, h.document⟩

/-! ### What a page records -/

namespace Skeleton

variable {c : Char} {here stop : Position} {s u v : Skeleton}

/-- What has been recorded fits together. -/
def Proper (stop : Position) (s : Skeleton) : Prop :=
  (FrameStack.after stop s.events.toList).Proper

/-- Where markup is the content of all open elements, it is that of the innermost one. -/
theorem Mirrored.inMarkup (h : s.Mirrored stop)
    (markup : ∀ e ∈ s.openElements, e.name.isRawText = false) :
    (FrameStack.after stop s.events.toList).InMarkup := by
  intro f hf raw
  have mem : f.openTag? ∈ s.openElements.map some := by
    rw [← h]
    exact List.mem_map_of_mem (List.mem_of_mem_head? hf)
  obtain ⟨e, he, same⟩ := List.mem_map.mp mem
  have named := markup e he
  unfold Frame.openTag? at same
  cases hkind : f.kind with
  | tag t =>
    rw [hkind] at same raw
    obtain rfl := Option.some.inj same
    rw [show t.name.isRawText = true from raw] at named
    exact nomatch named
  | document | directive | block | plain =>
    rw [hkind] at raw
    exact raw

namespace Proper

theorem congr (h : s.Proper stop) (events : u.events = s.events) : u.Proper stop := by
  unfold Proper
  rw [events]
  exact h

theorem record (h : s.Proper stop) {e : MarkupEvent}
    (fits : e.FitsIn (FrameStack.after stop s.events.toList)) : (s.record e).Proper stop := by
  unfold Proper Skeleton.record
  rw [Array.toList_push, FrameStack.after_concat]
  exact h.step fits

theorem endText (h : s.Proper stop) (lt : Position) : (s.endText lt).Proper stop := by
  obtain same | ⟨start, -, -, pushed⟩ := events_endText s lt
  · exact h.congr same
  · exact (h.record (e := .text ⟨start, lt⟩) trivial).congr pushed

end Proper

/-- A tag stands among markup, and the scanner opens a scope for it exactly when it should. -/
theorem TagEnd.proper {at' : Position} (e : TagEnd at' s v) (h : s.Proper stop)
    (mirrored : s.Mirrored stop) (consistent : s.Consistent) (inner : s.RawInnermost) :
    v.Proper stop := by
  cases e with
  | nameless hp => exact h.congr rfl
  | @closing _ start _ hp name =>
    have closed : (s.record (.endTag name ⟨start, at'⟩)).Proper stop := h.record trivial
    exact closed.congr rfl
  | leaf hp tag span closed =>
    have markup := mirrored.inMarkup (inner.markup (consistent.not_inRawText_of_pending hp rfl))
    have opened : (s.record (.startTag tag false)).Proper stop :=
      h.record ⟨by rw [closed]; rfl, markup⟩
    exact opened.congr rfl
  | scope hp tag span opens | raw hp tag span opens =>
    have markup := mirrored.inMarkup (inner.markup (consistent.not_inRawText_of_pending hp rfl))
    have opened : (s.record (.startTag tag true)).Proper stop := h.record ⟨opens.symm, markup⟩
    exact opened.congr rfl

/-- What a character records fits what has been recorded before. -/
theorem Turn.proper (turn : Turn c here s u) (h : s.Proper stop) (mirrored : s.Mirrored stop)
    (consistent : s.Consistent) (inner : s.RawInnermost) : u.Proper stop := by
  cases turn with
  | text hs | rawChar hs | rawAngle hs | suspend hs => exact h
  | opening hs hlt start suits =>
    have unheld : ({ s with pendingLt := none } : Skeleton).Proper stop := h
    exact unheld.endText _
  | stay stays | dropBlock stays => exact h.congr stays.events
  | endTag stays hlt e | cutTag angle stays hlt e =>
    exact e.proper (h.congr stays.events) (stays.mirrored mirrored) (stays.consistent consistent)
      (stays.rawInnermost consistent inner)
  | endPlain stays hlt hp | endDirective stays hlt hp =>
    exact (h.congr stays.events).record trivial
  | endBlock stays hlt hp outermost =>
    -- Nothing is suspended, so the block does not stand in raw text.
    have markup := (stays.rawInnermost consistent inner).markup <| by
      rw [inRawText_iff_of_suits ((stays.consistent consistent).suits hp), outermost]
      exact nofun
    exact (h.congr stays.events).record ((stays.mirrored mirrored).inMarkup markup)
  | @endRaw hs _ _ he lt hlt =>
    split
    · have recorded : (s.record (.text ⟨s.rawStart, lt⟩)).Proper stop := h.record trivial
      exact recorded.record trivial
    · exact h.record trivial

end Skeleton

namespace Scanner

variable {t : Scanner}

theorem Reached.proper (h : t.Reached) (stop : Position) : t.skeleton.Proper stop := by
  induction h with
  | start => exact ⟨nofun, nofun, ⟨trivial, nofun, nofun⟩, rfl⟩
  | advance h c ih =>
    exact (h.turn c).proper ih (h.mirrored stop) h.consistent h.rawInnermost

/-- At the end of the text nothing but text is recorded. -/
theorem proper_finish {stop : Position} (h : t.skeleton.Proper stop) :
    t.finish.skeleton.Proper stop := by
  unfold finish
  split
  · rw [skeleton_endText]
    have unheld : ({ t.skeleton with
        textHasContent := t.textHasContent || t.pendingLt.isSome
        pendingLt := none } : Skeleton).Proper stop := h
    exact unheld.endText _
  · exact h

end Scanner

namespace Node

/-- Every node of the tree of a text has children that it may have. -/
theorem proper_parse (s : String) : (parse s).Proper := by
  have recorded := (Scanner.reached_advanceAll s.toList).proper (Scanner.readAll s).position
  have finished := Scanner.proper_finish recorded
  rw [parse_eq, FrameStack.ofEvents_eq]
  exact finished.finishIn.toNode

/-- Raw text stays raw. While a text is read, an open element with raw text is the innermost one,
and this raw text is being read, or is the outermost of what a server block suspends. In the tree of
a text only the page and elements that are neither self-closing nor void have children, and an
element with raw text has no element and no server block inside. -/
theorem rawText_stays_raw :
    (∀ cs : List Char, let t := ({} : Scanner).advanceAll cs
      ∀ e ∈ t.openElements, e.name.isRawText →
        (∃ es, t.openElements = e :: es ∧ ∀ o ∈ es, o.name.isRawText = false) ∧
          (t.state = .rawText ∨
            t.state.ReadsServerBlock ∧ t.resume.getLast? = some .rawText)) ∧
      ∀ s : String, ∀ n ∈ (parse s).preorder,
        (n.children ≠ [] → n.kind.OpensScope) ∧
          (n.kind.HoldsRawText →
            ∀ m ∈ n.descendants, m.tag? = none ∧ ∀ e, m.kind ≠ .block e) := by
  constructor
  · intro cs t e he raw
    have reached : t.Reached := Scanner.reached_advanceAll cs
    have inner := reached.rawInnermost
    refine ⟨?_, reached.consistent.inRawText (inner.reads e he raw)⟩
    cases hopen : t.openElements with
    | nil =>
      rw [hopen] at he
      exact nomatch he
    | cons o es =>
      have outer : ∀ o ∈ es, o.name.isRawText = false := by
        intro o ho
        refine inner.outer o ?_
        rw [show t.skeleton.openElements = t.openElements from rfl, hopen]
        exact ho
      rw [hopen] at he
      rcases List.mem_cons.mp he with rfl | he
      · exact ⟨es, rfl, outer⟩
      · rw [outer e he] at raw
        exact nomatch raw
  · intro s n hn
    have proper := (proper_parse s).of_mem_preorder hn
    refine ⟨fun children => proper.admits.scope children, fun raw m hm => ?_⟩
    have inert := proper.inert_of_mem_descendants raw hm
    constructor
    · unfold tag?
      cases hkind : m.kind with
      | tag =>
        rw [hkind] at inert
        exact inert.elim
      | document | directive | block | plain => rfl
    · intro e hkind
      rw [hkind] at inert
      exact inert

end Node

end WebForms
