import Mathlib.Data.List.Induction
import WebForms.Proofs.Text.PositionOrder
import WebForms.Proofs.Tree.Frames

/-!
# Well-nested trees

A tree is well nested when every node starts before it ends, lies inside its parent and behind its
elder sibling. The elements under construction are nested when what they contain so far is well
nested and each of them admits the next. Every event can only add to what is there, so a stack that
is not nested never leads to a well-nested tree; and it leads to one when the events follow one
another, since elements that were never closed are extended no further than what they contain.

## Main definitions

* `Node.WellNested` — the property of trees
* `Frame.Admits`, `FrameStack.Nested` — the property of the elements under construction
* `MarkupEvent.Clears` — markup is recorded behind other markup

## Main results

* `FrameStack.nested_of_wellNested`, `wellNested_ofEvents` — from trees to stacks and back
-/

namespace WebForms

/-- Every node starts before it ends, lies inside its parent and behind its elder sibling. -/
inductive Node.WellNested : Node → Prop
  | mk {kind : NodeKind} {span : Span} {children : List Node} (ordered : span.start ≤ span.stop)
      (inside : ∀ n ∈ children, span.start ≤ n.span.start ∧ n.span.stop ≤ span.stop)
      (apart : children.Pairwise fun elder younger => elder.span.stop ≤ younger.span.start)
      (deep : ∀ n ∈ children, WellNested n) : WellNested (.mk kind span children)

theorem Node.WellNested.ordered {n : Node} (h : n.WellNested) : n.span.start ≤ n.span.stop := by
  cases h with
  | mk ordered => exact ordered

namespace MarkupEvent

/-- The event is a closing tag. -/
def isEndTag : MarkupEvent → Bool
  | .endTag .. => true
  | _ => false

/-- The place that markup in front of the event may reach. For a closing tag this is its end, since
the element that it closes starts further in front. -/
def limit : MarkupEvent → Position
  | .endTag _ span => span.stop
  | e => e.span.start

theorem isEndTag_of_leaf {e : MarkupEvent} {n : Node} (h : e.leaf? = some n) :
    e.isEndTag = false := by
  cases e with
  | endTag => exact nomatch h
  | _ => rfl

theorem limit_eq_start {e : MarkupEvent} (h : e.isEndTag = false) : e.limit = e.span.start := by
  cases e with
  | endTag => exact nomatch h
  | _ => rfl

/-- The second event is recorded behind the first. -/
def Clears (first second : MarkupEvent) : Prop := first.span.stop ≤ second.limit

instance (first second : MarkupEvent) : Decidable (first.Clears second) :=
  inferInstanceAs (Decidable (first.span.stop ≤ second.limit))

end MarkupEvent

/-! ### Elements under construction -/

namespace Frame

/-- Markup that starts at `place` stands behind everything in the element so far. -/
structure Admits (f : Frame) (place : Position) : Prop where
  start_le : f.span.start ≤ place
  stop_le : ∀ n ∈ f.children, n.span.stop ≤ place

/-- What the element contains so far is well nested. -/
structure Sound (f : Frame) : Prop where
  start_le : ∀ n ∈ f.children, f.span.start ≤ n.span.start
  apart : f.children.Pairwise fun younger elder => elder.span.stop ≤ younger.span.start
  deep : ∀ n ∈ f.children, n.WellNested

variable {f : Frame} {n : Node} {place : Position}

theorem Admits.mono (h : f.Admits place) {place' : Position} (le : place ≤ place') :
    f.Admits place' where
  start_le := le_trans h.start_le le
  stop_le := fun n hn => le_trans (h.stop_le n hn) le

theorem admits_attach_iff :
    (f.attach n).Admits place ↔ f.Admits place ∧ n.span.stop ≤ place := by
  constructor
  · intro h
    obtain ⟨stop_le, stops_le⟩ := List.forall_mem_cons.mp h.stop_le
    exact ⟨⟨h.start_le, stops_le⟩, stop_le⟩
  · rintro ⟨h, stop_le⟩
    exact ⟨h.start_le, List.forall_mem_cons.mpr ⟨stop_le, h.stop_le⟩⟩

/-- A well-nested node is added properly where the element admits it, and nowhere else. -/
theorem sound_attach_iff :
    (f.attach n).Sound ↔ f.Sound ∧ f.Admits n.span.start ∧ n.WellNested := by
  constructor
  · intro h
    obtain ⟨start_le, starts_le⟩ := List.forall_mem_cons.mp h.start_le
    obtain ⟨stops_le, apart⟩ := List.pairwise_cons.mp h.apart
    obtain ⟨wellNested, deep⟩ := List.forall_mem_cons.mp h.deep
    exact ⟨⟨starts_le, apart, deep⟩, ⟨start_le, stops_le⟩, wellNested⟩
  · rintro ⟨h, admits, wellNested⟩
    exact
      { start_le := List.forall_mem_cons.mpr ⟨admits.start_le, h.start_le⟩
        apart := List.pairwise_cons.mpr ⟨admits.stop_le, h.apart⟩
        deep := List.forall_mem_cons.mpr ⟨wellNested, h.deep⟩ }

/-- The node of the element, when it ends at `stop`. -/
theorem wellNested_mk_iff {kind : NodeKind} {stop : Position} :
    (Node.mk kind ⟨f.span.start, stop⟩ f.children.reverse).WellNested ↔
      f.Sound ∧ f.Admits stop := by
  constructor
  · intro h
    cases h with
    | mk ordered inside apart deep =>
      simp only [List.mem_reverse] at inside deep
      rw [List.pairwise_reverse] at apart
      exact ⟨⟨fun n hn => (inside n hn).1, apart, deep⟩, ordered, fun n hn => (inside n hn).2⟩
  · rintro ⟨h, admits⟩
    refine .mk admits.start_le ?_ ?_ ?_
    · simp only [List.mem_reverse]
      exact fun n hn => ⟨h.start_le n hn, admits.stop_le n hn⟩
    · rw [List.pairwise_reverse]
      exact h.apart
    · simp only [List.mem_reverse]
      exact h.deep

/-- The last node reaches furthest. -/
theorem Sound.admits_stop (h : f.Sound) {ns : List Node} (hf : f.children = n :: ns) :
    f.Admits n.span.stop where
  start_le := by
    have start_le := h.start_le n (hf ▸ List.mem_cons_self)
    have ordered := (h.deep n (hf ▸ List.mem_cons_self)).ordered
    exact le_trans start_le ordered
  stop_le := by
    have ordered := (h.deep n (hf ▸ List.mem_cons_self)).ordered
    have apart := h.apart
    rw [hf] at apart ⊢
    refine List.forall_mem_cons.mpr ⟨le_rfl, ?_⟩
    exact fun m hm => le_trans ((List.pairwise_cons.mp apart).1 m hm) ordered

end Frame

/-! ### The stack -/

/-- The elements, innermost first, are sound, and each admits the one inside it. -/
def NestedFrames : List Frame → Prop
  | [] => True
  | [f] => f.Sound
  | f :: g :: fs => f.Sound ∧ g.Admits f.span.start ∧ NestedFrames (g :: fs)

section

variable {f g : Frame} {fs : List Frame} {n : Node}

/-- A node may be added to the innermost element that admits it. -/
theorem nestedFrames_attach_iff :
    NestedFrames (f.attach n :: fs) ↔
      NestedFrames (f :: fs) ∧ f.Admits n.span.start ∧ n.WellNested := by
  cases fs with
  | nil => exact Frame.sound_attach_iff
  | cons g fs =>
    -- The elements around this one are not concerned.
    simp only [NestedFrames, Frame.sound_attach_iff]
    exact ⟨fun ⟨⟨sound, added⟩, outer⟩ => ⟨⟨sound, outer⟩, added⟩,
      fun ⟨⟨sound, outer⟩, added⟩ => ⟨⟨sound, added⟩, outer⟩⟩

/-- The innermost element may become a node of the next one, when it ends behind what it
contains. -/
theorem nestedFrames_attach_mk_iff {kind : NodeKind} {stop : Position} :
    NestedFrames (g.attach (.mk kind ⟨f.span.start, stop⟩ f.children.reverse) :: fs) ↔
      NestedFrames (f :: g :: fs) ∧ f.Admits stop := by
  rw [nestedFrames_attach_iff, Frame.wellNested_mk_iff, NestedFrames]
  exact ⟨fun ⟨outer, admits, sound, stops⟩ => ⟨⟨sound, admits, outer⟩, stops⟩,
    fun ⟨⟨sound, admits, outer⟩, stops⟩ => ⟨outer, admits, sound, stops⟩⟩

end

namespace Frame

variable {f : Frame}

/-- The node of an element that was closed. -/
theorem closed_eq (f : Frame) (endTag : Span) :
    ∃ kind, f.closed endTag = .mk kind ⟨f.span.start, endTag.stop⟩ f.children.reverse :=
  ⟨_, rfl⟩

/-- The node of an element that was never closed. It ends with its start tag or with the last node
inside, whichever is later. -/
theorem unclosed_eq (f : Frame) :
    ∃ stop, f.unclosed = .mk f.kind ⟨f.span.start, stop⟩ f.children.reverse ∧
      (stop = f.span.stop ∧ f.children = [] ∨
        ∃ n ns, f.children = n :: ns ∧ stop = max f.span.stop n.span.stop) := by
  unfold unclosed
  cases h : f.children with
  | nil => exact ⟨f.span.stop, by rw [toNode, h], .inl ⟨rfl, rfl⟩⟩
  | cons n ns =>
    refine ⟨_, ?_, .inr ⟨n, ns, rfl, rfl⟩⟩
    simp only [toNode, Position.max_eq]

end Frame

namespace FrameStack

variable {s : FrameStack} {n : Node} {name : TagName} {span : Span}

/-- All elements under construction, innermost first, the whole page last. -/
def frames (s : FrameStack) : List Frame := s.inner ++ [s.root]

/-- The element to which nodes are added. -/
def innermost (s : FrameStack) : Frame := s.inner.headD s.root

/-- What has been built so far is well nested. -/
def Nested (s : FrameStack) : Prop := NestedFrames s.frames

theorem exists_frames_attach (s : FrameStack) (n : Node) :
    ∃ outer, s.frames = s.innermost :: outer ∧
      (s.attach n).frames = s.innermost.attach n :: outer := by
  unfold frames innermost attach
  cases s.inner with
  | nil => exact ⟨[], rfl, rfl⟩
  | cons f fs => exact ⟨fs ++ [s.root], rfl, rfl⟩

theorem innermost_attach (s : FrameStack) (n : Node) :
    (s.attach n).innermost = s.innermost.attach n := by
  unfold innermost attach
  cases s.inner with
  | nil => rfl
  | cons f fs => rfl

/-- Adding a node leaves the places of the elements alone. -/
theorem span_mem_attach {f : Frame} (h : f ∈ (s.attach n).inner) :
    ∃ g ∈ s.inner, g.span = f.span := by
  unfold attach at h
  cases hs : s.inner with
  | nil =>
    rw [hs] at h
    exact absurd h List.not_mem_nil
  | cons g gs =>
    rw [hs] at h
    obtain rfl | hf := List.mem_cons.mp h
    · exact ⟨g, List.mem_cons_self, rfl⟩
    · exact ⟨f, List.mem_cons_of_mem g hf, rfl⟩

theorem nested_attach_iff :
    (s.attach n).Nested ↔ s.Nested ∧ s.innermost.Admits n.span.start ∧ n.WellNested := by
  obtain ⟨outer, before, after⟩ := s.exists_frames_attach n
  unfold Nested
  rw [before, after, nestedFrames_attach_iff]

theorem nested_push_iff {f : Frame} (empty : f.children = []) :
    (s.push f).Nested ↔ s.Nested ∧ s.innermost.Admits f.span.start := by
  obtain ⟨outer, before, -⟩ := s.exists_frames_attach default
  have after : (s.push f).frames = f :: s.innermost :: outer := by
    rw [← before]
    rfl
  have sound : f.Sound := by
    refine ⟨?_, ?_, ?_⟩
    all_goals rw [empty]
    · exact nofun
    · exact .nil
    · exact nofun
  unfold Nested
  rw [before, after, NestedFrames]
  exact ⟨fun ⟨_, admits, nested⟩ => ⟨nested, admits⟩,
    fun ⟨nested, admits⟩ => ⟨sound, admits, nested⟩⟩

/-- A closing tag closes an element, or it has no effect. -/
theorem closeIn_eq_or (s : FrameStack) (name : TagName) (span : Span) :
    closeIn name span s.inner s.root = some (s.close name span) ∨ s.close name span = s := by
  unfold close
  cases closeIn name span s.inner s.root with
  | none => exact .inr rfl
  | some s' => exact .inl rfl

/-- The closing tag of the innermost element makes a node of it. -/
theorem exists_close_eq_attach {e : OpenTag} {opens : List (Option OpenTag)}
    (h : s.openTags = some e :: opens) (agrees : e.name.agrees name) (span : Span) :
    ∃ s' n, s.close name span = attach s' n ∧ n.span.stop = span.stop := by
  unfold openTags at h
  cases inner : s.inner with
  | nil =>
    rw [inner] at h
    exact nomatch h
  | cons f fs =>
    rw [inner] at h
    obtain ⟨tag, -⟩ := List.cons.inj h
    have named : f.isNamed name := (Frame.isNamed_eq tag name).trans agrees
    refine ⟨{ inner := fs, root := s.root }, f.closed span, ?_, rfl⟩
    rw [close, inner, closeIn.eq_def]
    simp only [named, if_true, Option.getD_some]

/-! ### From trees to stacks -/

/-- What a closing tag leaves nested was nested before. -/
theorem nested_of_closeIn {inner : List Frame} {root : Frame}
    (h : closeIn name span inner root = some s) (nested : s.Nested) :
    NestedFrames (inner ++ [root]) := by
  fun_induction closeIn name span inner root with
  | case1 => cases h
  | case2 f fs root named =>
    obtain rfl := Option.some.inj h
    obtain ⟨kind, closed⟩ := f.closed_eq span
    rw [closed] at nested
    -- The node is added to the next element, or to the page if there is none.
    cases fs with
    | nil => exact (nestedFrames_attach_mk_iff.mp nested).1
    | cons g gs => exact (nestedFrames_attach_mk_iff.mp nested).1
  | case3 => cases h
  | case4 f root other g gs ih =>
    -- Wherever an element that was never closed ends, it was nested before it became a node.
    have outer := ih h
    obtain ⟨stop, unclosed, -⟩ := f.unclosed_eq
    rw [unclosed] at outer
    exact (nestedFrames_attach_mk_iff.mp outer).1

theorem nested_of_close (h : (s.close name span).Nested) : s.Nested := by
  obtain closed | eq := s.closeIn_eq_or name span
  · exact nested_of_closeIn closed h
  · rwa [eq] at h

/-- Every event adds to what is there. -/
theorem nested_of_step {e : MarkupEvent} (h : (s.step e).Nested) : s.Nested := by
  cases e with
  | startTag tag opensScope =>
    cases opensScope with
    | false => exact (nested_attach_iff.mp h).1
    | true => exact ((nested_push_iff rfl).mp h).1
  | endTag name span => exact nested_of_close h
  | text | directive | block | plain => exact (nested_attach_iff.mp h).1

/-- Other than with a closing tag, the innermost element must admit what an event adds. -/
theorem admits_of_step {e : MarkupEvent} (h : (s.step e).Nested)
    (starts : e.isEndTag = false) : s.innermost.Admits e.span.start := by
  cases e with
  | startTag tag opensScope =>
    cases opensScope with
    | false => exact (nested_attach_iff.mp h).2.1
    | true => exact ((nested_push_iff rfl).mp h).2
  | endTag => exact nomatch starts
  | text | directive | block | plain => exact (nested_attach_iff.mp h).2.1

theorem nested_of_finishIn {root : Frame} {inner : List Frame}
    (h : (finishIn root inner).Sound) : NestedFrames (inner ++ [root]) := by
  fun_induction finishIn root inner with
  | case1 => exact h
  | case2 f =>
    obtain ⟨stop, unclosed, -⟩ := f.unclosed_eq
    rw [unclosed] at h
    have attached :
        NestedFrames [root.attach (.mk f.kind ⟨f.span.start, stop⟩ f.children.reverse)] := h
    exact (nestedFrames_attach_mk_iff.mp attached).1
  | case3 f g gs ih =>
    have outer := ih h
    obtain ⟨stop, unclosed, -⟩ := f.unclosed_eq
    rw [unclosed] at outer
    exact (nestedFrames_attach_mk_iff.mp outer).1

/-- A well-nested tree was nested at all times. -/
theorem nested_of_wellNested (h : s.finish.WellNested) : s.Nested :=
  nested_of_finishIn (Frame.wellNested_mk_iff.mp h).1

/-! ### From stacks to trees -/

/-- The stack is nested, and everything in it ends at `stop` at the latest. -/
structure Within (stop : Position) (s : FrameStack) : Prop where
  nested : s.Nested
  admits : s.innermost.Admits stop
  ordered : ∀ f ∈ s.inner, f.span.start ≤ f.span.stop
  stop_le : ∀ f ∈ s.inner, f.span.stop ≤ stop

variable {stop : Position}

theorem Within.mono (h : s.Within stop) {stop' : Position} (le : stop ≤ stop') :
    s.Within stop' where
  nested := h.nested
  admits := h.admits.mono le
  ordered := h.ordered
  stop_le := fun f hf => le_trans (h.stop_le f hf) le

/-- Nodes are added where the innermost element admits them. -/
theorem Within.attach (h : s.Within stop) (admits : s.innermost.Admits n.span.start)
    (wellNested : n.WellNested) (le : n.span.stop ≤ stop) : (s.attach n).Within stop where
  nested := nested_attach_iff.mpr ⟨h.nested, admits, wellNested⟩
  admits := by
    rw [innermost_attach]
    exact Frame.admits_attach_iff.mpr ⟨h.admits, le⟩
  ordered := by
    intro f hf
    obtain ⟨g, hg, span⟩ := span_mem_attach hf
    exact span ▸ h.ordered g hg
  stop_le := by
    intro f hf
    obtain ⟨g, hg, span⟩ := span_mem_attach hf
    exact span ▸ h.stop_le g hg

/-- Without its innermost element the stack is what it was before. -/
theorem Within.tail {f : Frame} {fs : List Frame} {root : Frame}
    (h : ({ inner := f :: fs, root } : FrameStack).Within stop) :
    ({ inner := fs, root } : FrameStack).Within stop ∧
      ({ inner := fs, root } : FrameStack).innermost.Admits f.span.start ∧ f.Sound := by
  have nested := h.nested
  have before : f.span.start ≤ stop :=
    le_trans (h.ordered f List.mem_cons_self) (h.stop_le f List.mem_cons_self)
  obtain ⟨outer, frames, -⟩ := exists_frames_attach { inner := fs, root } default
  have frames' : ({ inner := f :: fs, root } : FrameStack).frames =
      f :: ({ inner := fs, root } : FrameStack).innermost :: outer := by
    rw [← frames]
    rfl
  rw [Nested, frames'] at nested
  obtain ⟨sound, admits, nested⟩ := nested
  refine ⟨⟨?_, admits.mono before, ?_, ?_⟩, admits, sound⟩
  · rw [Nested, frames]
    exact nested
  · exact fun g hg => h.ordered g (List.mem_cons_of_mem f hg)
  · exact fun g hg => h.stop_le g (List.mem_cons_of_mem f hg)

/-- An element that ends becomes a node of the next one. -/
theorem Within.attach_tail {f : Frame} {fs : List Frame} {root : Frame}
    (h : ({ inner := f :: fs, root } : FrameStack).Within stop) (kind : NodeKind) {q : Position}
    (admits : f.Admits q) (le : q ≤ stop) :
    (({ inner := fs, root } : FrameStack).attach
      (.mk kind ⟨f.span.start, q⟩ f.children.reverse)).Within stop := by
  obtain ⟨outer, before, sound⟩ := h.tail
  exact outer.attach before (Frame.wellNested_mk_iff.mpr ⟨sound, admits⟩) le

/-- An element that was never closed ends behind what it contains. -/
theorem Within.attach_unclosed {f : Frame} {fs : List Frame} {root : Frame}
    (h : ({ inner := f :: fs, root } : FrameStack).Within stop) :
    (({ inner := fs, root } : FrameStack).attach f.unclosed).Within stop := by
  have ordered := h.ordered f List.mem_cons_self
  have stop_le := h.stop_le f List.mem_cons_self
  have sound := h.tail.2.2
  obtain ⟨q, unclosed, ⟨rfl, empty⟩ | ⟨n, ns, children, rfl⟩⟩ := f.unclosed_eq
  · -- Without content the element ends with its start tag.
    rw [unclosed]
    refine h.attach_tail f.kind ⟨ordered, ?_⟩ stop_le
    rw [empty]
    exact nofun
  · -- Otherwise the last node reaches furthest, and the start tag may reach further still.
    rw [unclosed]
    have last : n.span.stop ≤ stop := h.admits.stop_le n (children ▸ List.mem_cons_self)
    refine h.attach_tail f.kind ((sound.admits_stop children).mono ?_) ?_
    · exact le_max_right _ _
    · exact max_le stop_le last

/-- A closing tag at the end of the text so far leaves everything in place. -/
theorem Within.closeIn {inner : List Frame} {root : Frame} {start : Position}
    (h : ({ inner, root } : FrameStack).Within stop)
    (closed : FrameStack.closeIn name ⟨start, stop⟩ inner root = some s) : s.Within stop := by
  fun_induction FrameStack.closeIn name ⟨start, stop⟩ inner root with
  | case1 => cases closed
  | case2 f fs root named =>
    obtain rfl := Option.some.inj closed
    obtain ⟨kind, eq⟩ := f.closed_eq ⟨start, stop⟩
    -- The closing tag stands behind everything, so the element ends behind all of its nodes.
    rw [eq]
    exact h.attach_tail kind h.admits le_rfl
  | case3 => cases closed
  | case4 f root other g gs ih => exact ih h.attach_unclosed closed

theorem Within.close {start : Position} (h : s.Within stop) :
    (s.close name ⟨start, stop⟩).Within stop := by
  obtain closed | eq := s.closeIn_eq_or name ⟨start, stop⟩
  · exact Within.closeIn h closed
  · rwa [eq]

/-- An element may be opened behind everything else. -/
theorem Within.push {f : Frame} (h : s.Within f.span.start) (empty : f.children = [])
    (ordered : f.span.start ≤ f.span.stop) (le : f.span.stop ≤ stop) : (s.push f).Within stop where
  nested := (nested_push_iff empty).mpr ⟨h.nested, h.admits⟩
  admits := by
    refine ⟨le_trans ordered le, ?_⟩
    rw [FrameStack.push, innermost, List.headD_cons, empty]
    exact nofun
  ordered := List.forall_mem_cons.mpr ⟨ordered, h.ordered⟩
  stop_le := List.forall_mem_cons.mpr ⟨le, (h.mono (le_trans ordered le)).stop_le⟩

/-- An event that is recorded behind everything else leaves everything in place. -/
theorem Within.step {e : MarkupEvent} (h : s.Within e.limit) (ordered : e.span.start ≤ e.span.stop)
    (le : e.span.stop ≤ stop) : (s.step e).Within stop := by
  -- All events but closing tags start where everything else has ended.
  have leaf {n : Node} (leaf : e.leaf? = some n) (h : s.Within e.span.start) :
      (s.step e).Within stop := by
    obtain ⟨kind, rfl⟩ := MarkupEvent.leaf?_eq_some leaf
    rw [step_of_leaf leaf]
    have wellNested : (Node.mk kind e.span []).WellNested := .mk ordered nofun .nil nofun
    exact (h.mono (le_trans ordered le)).attach h.admits wellNested le
  cases e with
  | startTag tag opensScope =>
    cases opensScope with
    | false => exact leaf rfl h
    | true => exact h.push rfl ordered le
  | endTag name span =>
    have closed : (s.close name span).Within span.stop := Within.close h
    exact closed.mono le
  | text | directive | block | plain => exact leaf rfl h

/-- When all elements are ended, the whole page is sound. -/
theorem Within.finishIn {inner : List Frame} {root : Frame}
    (h : ({ inner, root } : FrameStack).Within stop) :
    (FrameStack.finishIn root inner).Sound ∧ (FrameStack.finishIn root inner).Admits stop ∧
      (FrameStack.finishIn root inner).span = root.span := by
  fun_induction FrameStack.finishIn root inner with
  | case1 => exact ⟨h.nested, h.admits, rfl⟩
  | case2 f =>
    have attached := h.attach_unclosed
    exact ⟨attached.nested, attached.admits, rfl⟩
  | case3 f g gs ih => exact ih h.attach_unclosed

/-- What has been built is well nested, when the page ends behind it. -/
theorem Within.wellNested_finish (h : s.Within stop) (le : stop ≤ s.root.span.stop) :
    s.finish.WellNested := by
  obtain ⟨sound, admits, span⟩ := Within.finishIn h
  have le' : stop ≤ (FrameStack.finishIn s.root s.inner).span.stop := by
    rw [span]
    exact le
  exact Frame.wellNested_mk_iff.mpr ⟨sound, admits.mono le'⟩

@[simp] theorem span_root_attach (s : FrameStack) (n : Node) :
    (s.attach n).root.span = s.root.span := by
  unfold attach
  cases s.inner with
  | nil => rfl
  | cons f fs => rfl

theorem span_root_closeIn {inner : List Frame} {root : Frame}
    (h : closeIn name span inner root = some s) : s.root.span = root.span := by
  fun_induction closeIn name span inner root with
  | case1 => cases h
  | case2 f fs root named =>
    obtain rfl := Option.some.inj h
    exact span_root_attach _ _
  | case3 => cases h
  | case4 f root other g gs ih => exact ih h

/-- The place of the page stays what it is. -/
theorem span_root_step (s : FrameStack) (e : MarkupEvent) : (s.step e).root.span = s.root.span := by
  cases e with
  | startTag tag opensScope =>
    cases opensScope with
    | false => exact span_root_attach s _
    | true => rfl
  | endTag name span =>
    obtain closed | eq := s.closeIn_eq_or name span
    · exact span_root_closeIn closed
    · exact congrArg (fun s => s.root.span) eq
  | text | directive | block | plain => exact span_root_attach s _

theorem span_root_after (last : Position) (events : List MarkupEvent) :
    (after last events).root.span = ⟨{}, last⟩ := by
  induction events using List.reverseRecOn with
  | nil => rfl
  | append_singleton events e ih => rw [after_concat, span_root_step, ih]

theorem span_finishIn (root : Frame) (inner : List Frame) :
    (finishIn root inner).span = root.span := by
  fun_induction finishIn root inner with
  | case1 | case2 => rfl
  | case3 f g gs ih => exact ih

/-- The tree of some events covers the whole text. -/
theorem span_ofEvents (events : List MarkupEvent) (stop : Position) :
    (Node.ofEvents events stop).span = ⟨{}, stop⟩ := by
  rw [ofEvents_eq, ← span_root_after stop events]
  exact span_finishIn _ _

/-- Events that follow one another leave everything in place. -/
theorem within_after (last : Position) {events : List MarkupEvent}
    (apart : events.Pairwise MarkupEvent.Clears)
    (ordered : ∀ e ∈ events, e.span.start ≤ e.span.stop)
    (le : ∀ e ∈ events, e.span.stop ≤ stop) : (after last events).Within stop := by
  induction events using List.reverseRecOn generalizing stop with
  | nil =>
    have empty : ({ kind := .document, span := ⟨{}, last⟩ } : Frame).Sound := ⟨nofun, .nil, nofun⟩
    exact ⟨empty, ⟨stop.default_le, nofun⟩, nofun, nofun⟩
  | append_singleton events e ih =>
    rw [List.pairwise_append] at apart
    rw [List.forall_mem_append] at ordered le
    obtain ⟨apart, -, clears⟩ := apart
    -- The events in front of the last one end where it allows.
    have before : (after last events).Within e.limit :=
      ih apart ordered.1 fun a ha => clears a ha e List.mem_cons_self
    rw [after_concat]
    exact before.step (ordered.2 e List.mem_cons_self) (le.2 e List.mem_cons_self)

end FrameStack

/-- Events that follow one another make a well-nested tree of a text that ends behind them. -/
theorem wellNested_ofEvents {events : List MarkupEvent} {stop : Position}
    (apart : events.Pairwise MarkupEvent.Clears)
    (ordered : ∀ e ∈ events, e.span.start ≤ e.span.stop)
    (le : ∀ e ∈ events, e.span.stop ≤ stop) : (Node.ofEvents events stop).WellNested := by
  have within := FrameStack.within_after stop apart ordered le
  rw [FrameStack.ofEvents_eq]
  refine within.wellNested_finish ?_
  rw [FrameStack.span_root_after]

end WebForms
