import WebForms.Markup.Scanner.Step

/-!
# Building the markup tree

The tree of a page is built from its events with a stack of elements that are still open. A
closing tag closes the innermost open element of its name; the elements inside that were never
closed end with their last child, as do those still open at the end of the page.

## Main definitions

* `Frame` — an element under construction
* `Node.ofEvents` — the tree of a list of events
* `Node.parse` — the tree of a text
-/

namespace WebForms

/-- An element under construction, its children so far latest first. -/
structure Frame where
  kind : NodeKind
  span : Span
  children : List Node := []

namespace Frame

/-- Adds a child. -/
def attach (f : Frame) (n : Node) : Frame := { f with children := n :: f.children }

/-- The node as it stands. -/
def toNode (f : Frame) : Node := .mk f.kind f.span f.children.reverse

/-- The node of an element that was never closed: it reaches at least to the end of its last
child. -/
def unclosed (f : Frame) : Node :=
  match f.children with
  | [] => f.toNode
  | n :: _ => { f with span := ⟨f.span.start, f.span.stop.max n.span.stop⟩ }.toNode

/-- The node of an element whose closing tag covers `endTag`. -/
def closed (f : Frame) (endTag : Span) : Node :=
  let kind := match f.kind with
    | .tag t => .tag { t with endTag := some endTag }
    | kind => kind
  { f with kind, span := ⟨f.span.start, endTag.stop⟩ }.toNode

/-- The frame is that of an element of the given name. -/
def isNamed (f : Frame) (name : TagName) : Bool :=
  match f.kind with
  | .tag t => t.name.agrees name
  | _ => false

end Frame

/-- The elements under construction, innermost first, around the root. -/
structure FrameStack where
  inner : List Frame := []
  root : Frame

namespace FrameStack

/-- Adds a node to the innermost element. -/
def attach (s : FrameStack) (n : Node) : FrameStack :=
  match s.inner with
  | [] => { s with root := s.root.attach n }
  | f :: fs => { s with inner := f.attach n :: fs }

/-- Opens an element. -/
def push (s : FrameStack) (f : Frame) : FrameStack := { s with inner := f :: s.inner }

/-- Closes the innermost element of that name, ending the unclosed ones inside it; without such an
element nothing happens. -/
def closeIn (name : TagName) (endTag : Span) : List Frame → Frame → Option FrameStack
  | [], _ => none
  | f :: fs, root =>
    if f.isNamed name then some (({ inner := fs, root } : FrameStack).attach (f.closed endTag))
    else
      match fs with
      | [] => none
      | g :: gs => closeIn name endTag (g.attach f.unclosed :: gs) root
  termination_by fs => fs.length

/-- Reads a closing tag. -/
def close (s : FrameStack) (name : TagName) (endTag : Span) : FrameStack :=
  (closeIn name endTag s.inner s.root).getD s

/-- The effect of an event. -/
def step (s : FrameStack) : MarkupEvent → FrameStack
  | .text span => s.attach (.mk (.plain .text) span [])
  | .startTag t opensScope =>
    let f : Frame := { kind := .tag t, span := t.startTag }
    if opensScope then s.push f else s.attach f.toNode
  | .endTag name span => s.close name span
  | .directive d span => s.attach (.mk (.directive d) span [])
  | .block e span => s.attach (.mk (.block e) span [])
  | .plain kind _ span => s.attach (.mk (.plain kind) span [])

/-- Ends all elements that are still open. -/
def finishIn (root : Frame) : List Frame → Frame
  | [] => root
  | [f] => root.attach f.unclosed
  | f :: g :: gs => finishIn root (g.attach f.unclosed :: gs)
  termination_by fs => fs.length

/-- The root with everything in it. -/
def finish (s : FrameStack) : Node := (finishIn s.root s.inner).toNode

end FrameStack

namespace Node

/-- The tree of a list of events of a text that ends at `stop`. -/
def ofEvents (events : List MarkupEvent) (stop : Position) : Node :=
  (events.foldl FrameStack.step { root := { kind := .document, span := ⟨{}, stop⟩ } }).finish

/-- The tree of a text. -/
def parse (s : String) : Node :=
  let t := (Scanner.readAll s).finish
  ofEvents t.events.toList t.position

end Node

end WebForms
