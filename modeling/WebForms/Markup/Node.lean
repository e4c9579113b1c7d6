import WebForms.Markup.AttributeSet
import WebForms.Markup.TagName
import WebForms.Text.Position

/-!
# The markup tree

A parsed page is a tree of nodes, each with the span of text it covers. Elements hold the nodes
between their tags; directives, server blocks, comments and text are leaves.

## Main definitions

* `Tag`, `Directive`, `ServerBlock` — the nodes that carry data
* `Node` — a node of the tree, `Node.preorder` the nodes of a tree, parents first
-/

namespace WebForms

/-- The flavour of a server block, chosen by the character after its opening. -/
inductive BlockKind where
  /-- Statements that are run. -/
  | code
  /-- A value that is written to the page. -/
  | render
  /-- A value that is bound from data. -/
  | dataBinding
  /-- A value that is looked up among the resources. -/
  | resource
  /-- A value that is written with markup characters encoded. -/
  | htmlEncoded
  deriving DecidableEq, Repr

namespace BlockKind

/-- The flavour that the marker after the opening selects; blocks of code have none. -/
def ofMarker? : Char → Option BlockKind
  | '=' => some render
  | '#' => some dataBinding
  | '$' => some resource
  | ':' => some htmlEncoded
  | _ => none

/-- The block stands for a value rather than for statements. -/
def yieldsValue : BlockKind → Bool
  | code => false
  | _ => true

end BlockKind

/-- An element: its name and attributes, and where its tags stand. -/
structure Tag where
  name : TagName
  attributes : AttributeSet
  startTag : Span
  /-- The closing tag, when there is one. -/
  endTag : Option Span := none
  selfClosing : Bool := false
  deriving DecidableEq, Repr

namespace Tag

/-- The identifier of the element, without surrounding space. -/
def id? (t : Tag) : Option String :=
  (t.attributes.get? "id").bind Text.trimmed?

/-- The element runs at the server. -/
def runsAtServer (t : Tag) : Bool :=
  match t.attributes.get? "runat" with
  | some v => Text.sameName v "server"
  | none => false

end Tag

/-- A directive: its name and attributes. -/
structure Directive where
  name : String
  attributes : AttributeSet
  deriving DecidableEq, Repr

/-- A server block: its flavour, the text up to its end, and where that text starts. -/
structure ServerBlock where
  kind : BlockKind
  text : String
  textStart : Position
  deriving DecidableEq, Repr

/-- The nodes about which nothing but their place is kept. -/
inductive PlainKind where
  | text
  | comment
  | serverComment
  | docType
  deriving DecidableEq, Repr

/-- What a node is. -/
inductive NodeKind where
  | document
  | tag (t : Tag)
  | directive (d : Directive)
  | block (e : ServerBlock)
  | plain (k : PlainKind)
  deriving DecidableEq, Repr

/-- A node of the markup tree. -/
inductive Node where
  | mk (kind : NodeKind) (span : Span) (children : List Node)
  deriving Repr

namespace Node

instance : Inhabited Node := ⟨⟨.document, {}, []⟩⟩

/-- What the node is. -/
def kind : Node → NodeKind
  | mk kind _ _ => kind

/-- The text that the node covers. -/
def span : Node → Span
  | mk _ span _ => span

/-- The nodes inside, in order. -/
def children : Node → List Node
  | mk _ _ children => children

/-- The element, if the node is one. -/
def tag? (n : Node) : Option Tag :=
  match n.kind with
  | .tag t => some t
  | _ => none

/-- The directive, if the node is one. -/
def directive? (n : Node) : Option Directive :=
  match n.kind with
  | .directive d => some d
  | _ => none

mutual

/-- The nodes of the tree with their depths, parents first, when the root has depth `depth`. -/
def preorderFrom (depth : Nat) : Node → List (Nat × Node)
  | mk kind span children => (depth, mk kind span children) :: preorderList (depth + 1) children

/-- The nodes of the trees, one tree after the other. -/
def preorderList (depth : Nat) : List Node → List (Nat × Node)
  | [] => []
  | n :: ns => preorderFrom depth n ++ preorderList depth ns

end

/-- The nodes of the tree, parents first. -/
def preorder (n : Node) : List Node := (n.preorderFrom 0).map (·.2)

/-- The directives of the tree in order. -/
def directives (n : Node) : List Directive := n.preorder.filterMap directive?

/-- The elements of the tree in order. -/
def tags (n : Node) : List Tag := n.preorder.filterMap tag?

end Node

end WebForms
