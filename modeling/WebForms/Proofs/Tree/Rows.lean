import WebForms.Proofs.Tree.Preorder

/-!
# A page as a table of its nodes

A tree under construction can be read as a table: one row for each node, in the order in which the
nodes were begun, with a mark on the elements that are still open. What is recorded next adds a row.
A closing tag adds none: it changes the row of the latest open element of its name, and takes the
mark off this row and all that are later. The end of the page takes off all marks.

## Main definitions

* `Row`, `FrameStack.rows` — a row, and the table of a tree under construction, latest row first
* `Row.closeIn?` — the effect of a closing tag on the table

## Main results

* `FrameStack.rows_step`, `FrameStack.rows_closeIn` — the effect of markup
* `Node.rows_ofEvents` — the table of the whole tree
-/

namespace WebForms

/-- The kind of an element whose closing tag covers `endTag`; nothing else has a closing tag. -/
def NodeKind.closedBy (endTag : Span) : NodeKind → NodeKind
  | .tag t => .tag { t with endTag := some endTag }
  | kind => kind

/-- A row of the table: what a node is, where it starts, and whether it is still open. -/
structure Row where
  kind : NodeKind
  start : Position
  isOpen : Bool

namespace Row

/-- The row of a node that is not open any more. -/
def shut (r : Row) : Row := { r with isOpen := false }

/-- The row of an element after a closing tag that covers `endTag`. -/
def closed (endTag : Span) (r : Row) : Row := ⟨r.kind.closedBy endTag, r.start, false⟩

/-- The row is that of an open element of the name. -/
def answers (name : TagName) (r : Row) : Bool :=
  r.isOpen && match r.kind with
    | .tag t => t.name.agrees name
    | _ => false

/-- The effect of a closing tag: it closes the first open element of its name, and all in front of
this one; without such an element it has none. -/
def closeIn? (name : TagName) (endTag : Span) : List Row → Option (List Row)
  | [] => none
  | r :: rows =>
    if r.answers name then some (r.closed endTag :: rows)
    else (closeIn? name endTag rows).map (r.shut :: ·)

variable {r : Row} {rows others : List Row} {name : TagName} {endTag : Span}

/-- Nothing is left to close among rows without a mark. -/
theorem map_shut_eq_self (h : ∀ r ∈ rows, r.isOpen = false) : rows.map shut = rows := by
  have shut_eq (r : Row) (hr : r ∈ rows) : r.shut = r := by
    obtain ⟨kind, start, isOpen⟩ := r
    obtain rfl : isOpen = false := h _ hr
    rfl
  exact (List.map_congr_left shut_eq).trans rows.map_id

theorem answers_eq_false (h : r.isOpen = false) (name : TagName) : r.answers name = false := by
  rw [answers, h, Bool.false_and]

/-- Rows of which none is that of an open element of the name are passed over. -/
theorem closeIn?_append (h : ∀ r ∈ others, r.answers name = false) :
    closeIn? name endTag (others ++ rows) =
      (closeIn? name endTag rows).map (others.map shut ++ ·) := by
  induction others with
  | nil => simp
  | cons r others ih =>
    obtain ⟨first, rest⟩ := List.forall_mem_cons.mp h
    rw [List.cons_append, closeIn?, first, ih rest, Option.map_map]
    rfl

/-- Without an open element of its name a closing tag has no effect. -/
theorem closeIn?_eq_none (h : ∀ r ∈ rows, r.answers name = false) :
    closeIn? name endTag rows = none := by
  rw [← rows.append_nil, closeIn?_append h]
  rfl

/-- The first open element of its name is the one that a closing tag closes. -/
theorem closeIn?_append_cons (h : ∀ r ∈ others, r.answers name = false)
    (named : r.answers name = true) :
    closeIn? name endTag (others ++ r :: rows) =
      some (others.map shut ++ r.closed endTag :: rows) := by
  rw [closeIn?_append h, closeIn?, if_pos named, Option.map_some]

end Row

/-! ### Tables -/

/-- The row of a node that is complete. -/
def Node.row (n : Node) : Row := ⟨n.kind, n.span.start, false⟩

/-- The table of a tree, latest row first. -/
def Node.rows (n : Node) : List Row := (n.preorder.map row).reverse

/-- The rows of what is inside an element, latest row first. -/
def Frame.inside (f : Frame) : List Row := f.children.flatMap Node.rows

/-- The rows of an open element and of what is inside, latest row first. -/
def Frame.rows (f : Frame) : List Row := f.inside ++ [⟨f.kind, f.span.start, true⟩]

/-- The table of a tree under construction without its root, latest row first. -/
def FrameStack.rows (s : FrameStack) : List Row := s.inner.flatMap Frame.rows ++ s.root.inside

/-- The row of the node that markup becomes, which is open if content may follow. -/
def MarkupEvent.row? : MarkupEvent → Option Row
  | .text span => some ⟨.plain .text, span.start, false⟩
  | .startTag tag opensScope => some ⟨.tag tag, tag.startTag.start, opensScope⟩
  | .endTag .. => none
  | .directive d span => some ⟨.directive d, span.start, false⟩
  | .block e span => some ⟨.block e, span.start, false⟩
  | .plain kind _ span => some ⟨.plain kind, span.start, false⟩

namespace Node

variable {kind : NodeKind} {span : Span} {children : List Node}

theorem rows_mk :
    (mk kind span children).rows = children.reverse.flatMap rows ++ [⟨kind, span.start, false⟩] := by
  rw [rows, preorder_mk, List.map_cons, List.reverse_cons, List.map_flatMap, List.reverse_flatMap]
  rfl

theorem shut_of_mem_rows {n : Node} {r : Row} (h : r ∈ n.rows) : r.isOpen = false := by
  obtain ⟨m, -, rfl⟩ := List.mem_map.mp (List.mem_reverse.mp h)
  rfl

@[simp] theorem map_shut_rows (n : Node) : n.rows.map Row.shut = n.rows :=
  Row.map_shut_eq_self fun _ hr => shut_of_mem_rows hr

end Node

namespace Frame

variable {f : Frame} {n : Node}

@[simp] theorem inside_attach : (f.attach n).inside = n.rows ++ f.inside := by
  simp [inside, attach]

@[simp] theorem rows_attach (f : Frame) (n : Node) : (f.attach n).rows = n.rows ++ f.rows := by
  rw [rows, inside_attach, List.append_assoc]
  rfl

theorem shut_of_mem_inside {r : Row} (h : r ∈ f.inside) : r.isOpen = false := by
  obtain ⟨n, -, hr⟩ := List.mem_flatMap.mp h
  exact Node.shut_of_mem_rows hr

/-- No closing tag closes what is inside. -/
theorem answers_inside (f : Frame) (name : TagName) : ∀ r ∈ f.inside, r.answers name = false :=
  fun _ hr => Row.answers_eq_false (shut_of_mem_inside hr) name

@[simp] theorem map_shut_inside : f.inside.map Row.shut = f.inside :=
  Row.map_shut_eq_self fun _ hr => shut_of_mem_inside hr

theorem rows_toNode (f : Frame) : f.toNode.rows = f.inside ++ [⟨f.kind, f.span.start, false⟩] := by
  rw [toNode, Node.rows_mk, List.reverse_reverse, inside]

/-- An element that was never closed has the row of its start tag. -/
theorem rows_unclosed (f : Frame) :
    f.unclosed.rows = f.inside ++ [⟨f.kind, f.span.start, false⟩] := by
  unfold unclosed
  split
  · exact f.rows_toNode
  · exact rows_toNode _

/-- An element that is closed has its closing tag in its row. -/
theorem rows_closed (f : Frame) (endTag : Span) :
    (f.closed endTag).rows = f.inside ++ [⟨f.kind.closedBy endTag, f.span.start, false⟩] := by
  unfold closed
  rw [rows_toNode]
  cases f.kind <;> rfl

/-- The row of an open element is that of an element of the same name. -/
theorem answers_row (f : Frame) (name : TagName) :
    (⟨f.kind, f.span.start, true⟩ : Row).answers name = f.isNamed name := by
  unfold Row.answers isNamed
  cases f.kind <;> rfl

end Frame

namespace FrameStack

variable {s : FrameStack} {f : Frame} {fs inner : List Frame} {root : Frame} {name : TagName}
  {endTag : Span}

/-- A node is added in front of all others, since the latest row comes first. -/
@[simp] theorem rows_attach (s : FrameStack) (n : Node) : (s.attach n).rows = n.rows ++ s.rows := by
  unfold attach rows
  cases hs : s.inner with
  | nil => simp
  | cons f fs => simp

theorem attach_cons (g : Frame) (gs : List Frame) (root : Frame) (n : Node) :
    ({ inner := g :: gs, root } : FrameStack).attach n = { inner := g.attach n :: gs, root } := rfl

theorem rows_cons (f : Frame) (fs : List Frame) (root : Frame) :
    ({ inner := f :: fs, root } : FrameStack).rows =
      f.inside ++ ⟨f.kind, f.span.start, true⟩ :: ({ inner := fs, root } : FrameStack).rows := by
  simp [rows, Frame.rows]

/-- An element of another name is passed over with all that is inside. -/
theorem closeIn?_rows_cons (other : f.isNamed name = false) :
    Row.closeIn? name endTag ({ inner := f :: fs, root } : FrameStack).rows =
      (Row.closeIn? name endTag ({ inner := fs, root } : FrameStack).rows).map
        (f.unclosed.rows ++ ·) := by
  have passed : ∀ r ∈ f.inside ++ [⟨f.kind, f.span.start, true⟩], r.answers name = false := by
    intro r hr
    obtain hr | rfl := List.mem_append.mp hr |>.imp_right List.mem_singleton.mp
    · exact f.answers_inside name r hr
    · exact (f.answers_row name).trans other
  have split : ({ inner := f :: fs, root } : FrameStack).rows =
      (f.inside ++ [⟨f.kind, f.span.start, true⟩]) ++ ({ inner := fs, root } : FrameStack).rows := by
    simp [rows_cons]
  rw [split, Row.closeIn?_append passed, List.map_append, Frame.map_shut_inside, f.rows_unclosed]
  rfl

/-- What is complete is passed over. -/
theorem closeIn?_rows_attach (n : Node) :
    Row.closeIn? name endTag (s.attach n).rows =
      (Row.closeIn? name endTag s.rows).map (n.rows ++ ·) := by
  rw [rows_attach, Row.closeIn?_append fun r hr =>
    Row.answers_eq_false (Node.shut_of_mem_rows hr) name, n.map_shut_rows]

/-- A closing tag has the same effect on the table as on the tree. -/
theorem rows_closeIn (name : TagName) (endTag : Span) (inner : List Frame) (root : Frame) :
    (closeIn name endTag inner root).map rows =
      Row.closeIn? name endTag ({ inner, root } : FrameStack).rows := by
  have outermost : Row.closeIn? name endTag ({ inner := [], root } : FrameStack).rows = none :=
    Row.closeIn?_eq_none (root.answers_inside name)
  fun_induction closeIn name endTag inner root with
  | case1 => exact outermost.symm
  | case2 f fs root named =>
    rw [rows_cons,
      Row.closeIn?_append_cons (f.answers_inside name) ((f.answers_row name).trans named)]
    simp [Frame.rows_closed, Row.closed]
  | case3 f root other =>
    rw [closeIn?_rows_cons (Bool.eq_false_iff.mpr other), outermost]
    rfl
  | case4 f root other g gs ih =>
    rw [ih outermost, ← attach_cons, closeIn?_rows_attach,
      closeIn?_rows_cons (Bool.eq_false_iff.mpr other)]

/-- Markup that becomes a node adds its row. -/
theorem rows_step {e : MarkupEvent} {r : Row} (h : e.row? = some r) :
    (s.step e).rows = r :: s.rows := by
  have leaf (kind : NodeKind) (span : Span) :
      (s.attach (.mk kind span [])).rows = ⟨kind, span.start, false⟩ :: s.rows := by
    rw [rows_attach, Node.rows_mk, List.reverse_nil, List.flatMap_nil]
    rfl
  cases e with
  | startTag tag opensScope =>
    obtain rfl := Option.some.inj h
    cases opensScope with
    | false => exact leaf (.tag tag) tag.startTag
    | true => exact rows_cons _ s.inner s.root
  | endTag => cases h
  | text | directive | block | plain =>
    obtain rfl := Option.some.inj h
    exact leaf _ _

/-- A closing tag changes the table, or has no effect. -/
theorem rows_close (s : FrameStack) (name : TagName) (endTag : Span) :
    (s.close name endTag).rows = (Row.closeIn? name endTag s.rows).getD s.rows := by
  rw [close, ← rows_closeIn name endTag s.inner s.root]
  cases closeIn name endTag s.inner s.root <;> rfl

/-- The end of the page closes all elements. -/
theorem inside_finishIn (root : Frame) (inner : List Frame) :
    (finishIn root inner).inside = ({ inner, root } : FrameStack).rows.map Row.shut := by
  have ended (f : Frame) (fs : List Frame) :
      ({ inner := f :: fs, root } : FrameStack).rows.map Row.shut =
        f.unclosed.rows ++ ({ inner := fs, root } : FrameStack).rows.map Row.shut := by
    rw [rows_cons, f.rows_unclosed]
    simp [Row.shut]
  fun_induction finishIn root inner with
  | case1 => simp [rows]
  | case2 f =>
    rw [ended, Frame.inside_attach]
    simp [rows]
  | case3 f g gs ih =>
    rw [ih, ended f, ← attach_cons, rows_attach, List.map_append, Node.map_shut_rows]

end FrameStack

namespace Node

/-- Below its root, the tree of some events has the table of the tree under construction, with no
element left open. -/
theorem rows_ofEvents (events : List MarkupEvent) (stop : Position) :
    (ofEvents events stop).preorder.tail.map row =
      ((FrameStack.after stop events).rows.map Row.shut).reverse := by
  let root := FrameStack.finishIn (FrameStack.after stop events).root
    (FrameStack.after stop events).inner
  have table : (ofEvents events stop).preorder.map row =
      ⟨root.kind, root.span.start, false⟩ :: root.inside.reverse := by
    have rows := root.rows_toNode
    rw [Node.rows, List.reverse_eq_iff, List.reverse_append] at rows
    exact rows
  rw [List.map_tail, table, List.tail_cons, FrameStack.inside_finishIn]

end Node

end WebForms
