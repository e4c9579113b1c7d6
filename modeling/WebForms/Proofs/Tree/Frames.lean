import WebForms.Markup.Tree

/-!
# The elements under construction

While the tree of a page is built, its stack holds the elements that are still open. This stack
follows the scanner's own list of open elements: opening an element extends both, closing one cuts
both off at the same place, and anything else leaves both alone.

## Main definitions

* `FrameStack.after` — the stack after some events
* `Frame.openTag?` — the start tag of an element under construction
* `MarkupEvent.span`, `MarkupEvent.leaf?` — where markup stands, and the node that it adds

## Main results

* `FrameStack.openTags_close` — closing tags agree with `Scanner.closeInnermost`
-/

namespace WebForms

/-- The start tag of the element, if the frame is that of an element. -/
def Frame.openTag? (f : Frame) : Option OpenTag :=
  match f.kind with
  | .tag t => some ⟨t.name, t.attributes, t.startTag⟩
  | _ => none

/-- The name of an element is the one in its start tag. -/
theorem Frame.isNamed_eq {f : Frame} {e : OpenTag} (h : f.openTag? = some e) (name : TagName) :
    f.isNamed name = e.name.agrees name := by
  unfold openTag? at h
  unfold isNamed
  cases hkind : f.kind with
  | tag t =>
    rw [hkind] at h
    obtain rfl := Option.some.inj h
    rfl
  | document | directive | block | plain =>
    rw [hkind] at h
    exact nomatch h

namespace MarkupEvent

/-- The text that the markup covers. -/
def span : MarkupEvent → Span
  | .text span => span
  | .startTag tag _ => tag.startTag
  | .endTag _ span => span
  | .directive _ span => span
  | .block _ span => span
  | .plain _ _ span => span

/-- The node of the markup, if it is one that has no content. -/
def leaf? : MarkupEvent → Option Node
  | .text span => some (.mk (.plain .text) span [])
  | .startTag tag false => some (.mk (.tag tag) tag.startTag [])
  | .startTag _ true => none
  | .endTag .. => none
  | .directive d span => some (.mk (.directive d) span [])
  | .block e span => some (.mk (.block e) span [])
  | .plain kind _ span => some (.mk (.plain kind) span [])

/-- Such a node covers the text of the markup. -/
theorem leaf?_eq_some {e : MarkupEvent} {n : Node} (h : e.leaf? = some n) :
    ∃ kind, n = .mk kind e.span [] := by
  cases e with
  | startTag tag opensScope =>
    cases opensScope with
    | false => exact ⟨_, (Option.some.inj h).symm⟩
    | true => exact nomatch h
  | endTag => exact nomatch h
  | text | directive | block | plain => exact ⟨_, (Option.some.inj h).symm⟩

end MarkupEvent

namespace FrameStack

private theorem exists_cons_of_map_eq {f : Frame} {fs : List Frame} {opens : List OpenTag}
    (h : (f :: fs).map Frame.openTag? = opens.map some) :
    ∃ e es, opens = e :: es ∧ f.openTag? = some e ∧ fs.map Frame.openTag? = es.map some := by
  cases opens with
  | nil => exact nomatch h
  | cons e es =>
    obtain ⟨he, hes⟩ := List.cons.inj h
    exact ⟨e, es, rfl, he, hes⟩

variable {s : FrameStack} {name : TagName} {span : Span}

/-- The stack after some events of a text that ends at `stop`. -/
def after (stop : Position) (events : List MarkupEvent) : FrameStack :=
  events.foldl step { root := { kind := .document, span := ⟨{}, stop⟩ } }

@[simp] theorem after_concat (stop : Position) (events : List MarkupEvent) (e : MarkupEvent) :
    after stop (events ++ [e]) = (after stop events).step e := by
  simp [after]

/-- Markup without content is added to the innermost element. -/
theorem step_of_leaf {e : MarkupEvent} {n : Node} (h : e.leaf? = some n) :
    s.step e = s.attach n := by
  cases e with
  | startTag tag opensScope =>
    cases opensScope with
    | false => exact congrArg s.attach (Option.some.inj h)
    | true => exact nomatch h
  | endTag => exact nomatch h
  | text | directive | block | plain => exact congrArg s.attach (Option.some.inj h)

/-- The tree of some events is the stack after them, with everything in it ended. -/
theorem ofEvents_eq (events : List MarkupEvent) (stop : Position) :
    Node.ofEvents events stop = (after stop events).finish := rfl

/-- The start tags of the elements under construction, innermost first. -/
def openTags (s : FrameStack) : List (Option OpenTag) := s.inner.map Frame.openTag?

@[simp] theorem openTags_attach (s : FrameStack) (n : Node) :
    (s.attach n).openTags = s.openTags := by
  unfold attach openTags
  cases s.inner with
  | nil => rfl
  | cons f fs => rfl

/-- A closing tag closes the same element in both lists, or none in either. -/
theorem openTags_closeIn {inner : List Frame} {root : Frame} {opens : List OpenTag}
    (h : inner.map Frame.openTag? = opens.map some) :
    (closeIn name span inner root = none ∧ ∀ e ∈ opens, e.name.agrees name = false) ∨
      ∃ s, closeIn name span inner root = some s ∧ (∃ e ∈ opens, e.name.agrees name = true) ∧
        s.openTags = (Scanner.closeInnermost name opens).map some := by
  fun_induction closeIn name span inner root generalizing opens with
  | case1 =>
    obtain rfl : opens = [] := by simpa using h.symm
    exact .inl ⟨rfl, nofun⟩
  | case2 f fs root named =>
    obtain ⟨e, es, rfl, he, hes⟩ := exists_cons_of_map_eq h
    have agrees : e.name.agrees name = true := (Frame.isNamed_eq he name).symm.trans named
    refine .inr ⟨_, rfl, ⟨e, List.mem_cons_self, agrees⟩, ?_⟩
    rw [openTags_attach, Scanner.closeInnermost_cons_of_agrees agrees]
    exact hes
  | case3 f root other =>
    obtain ⟨e, es, rfl, he, hes⟩ := exists_cons_of_map_eq h
    obtain rfl : es = [] := by simpa using hes.symm
    have differs : e.name.agrees name = false :=
      (Frame.isNamed_eq he name).symm.trans (Bool.eq_false_iff.mpr other)
    refine .inl ⟨rfl, ?_⟩
    simpa using differs
  | case4 f root other g gs ih =>
    -- The element is ended inside the next one, which has the same start tag as before.
    obtain ⟨e, es, rfl, he, hes⟩ := exists_cons_of_map_eq h
    have differs : e.name.agrees name = false :=
      (Frame.isNamed_eq he name).symm.trans (Bool.eq_false_iff.mpr other)
    obtain ⟨none, others⟩ | ⟨s, closed, found, openTags⟩ := ih hes
    · exact .inl ⟨none, List.forall_mem_cons.mpr ⟨differs, others⟩⟩
    · obtain ⟨e', he', agrees⟩ := found
      refine .inr ⟨s, closed, ⟨e', List.mem_cons_of_mem e he', agrees⟩, ?_⟩
      rw [openTags, Scanner.closeInnermost_cons_of_not differs ⟨e', he', agrees⟩]

/-- A start tag with content behind it adds to the open elements. -/
theorem openTags_step_startTag (s : FrameStack) (tag : Tag) :
    (s.step (.startTag tag true)).openTags =
      some ⟨tag.name, tag.attributes, tag.startTag⟩ :: s.openTags := rfl

/-- Markup without content leaves the open elements alone. -/
theorem openTags_step_of_leaf {e : MarkupEvent} {n : Node} (h : e.leaf? = some n) :
    (s.step e).openTags = s.openTags := by
  rw [step_of_leaf h, openTags_attach]

/-- A closing tag has the same effect on both lists. -/
theorem openTags_close {opens : List OpenTag} (h : s.openTags = opens.map some) :
    (s.close name span).openTags = (Scanner.closeInnermost name opens).map some := by
  unfold close
  obtain ⟨none, others⟩ | ⟨closed, eq, -, openTags⟩ := openTags_closeIn h
  · rw [none, Scanner.closeInnermost_eq_self others]
    exact h
  · rw [eq]
    exact openTags

end FrameStack

end WebForms
