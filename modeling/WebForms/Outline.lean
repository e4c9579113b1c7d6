import WebForms.Json.Value
import WebForms.Markup.Node

/-!
# The outline of a page

The outline shows elements, directives and server blocks, nested as in the tree; text, comments
and declarations are left out. The span of an element reaches from its start tag to the end of its
closing tag, moved by a number of columns that a client may choose. Columns are words of 32 bits,
and their sum is not checked: one that such a word cannot hold starts again at zero.

## Main definitions

* `Position.shift` — a position some columns on
* `OutlineEntry` — an entry with those below it
* `Node.outline` — the outline of a page
* `OutlineEntry.toJson` — an entry as editors take it
-/

namespace WebForms

/-- The position `offset` columns on, added as words of 32 bits. -/
def Position.shift (offset : Nat) (p : Position) : Position where
  line := p.line
  column := (p.column.toUInt32 + offset.toUInt32).toNat

/-- What an element spans: its start tag and all up to the end of its closing tag. -/
def Tag.extent (t : Tag) : Span := ⟨t.startTag.start, (t.endTag.getD t.startTag).stop⟩

/-- What an entry of the outline stands for. -/
inductive SymbolKind where
  | tag
  | directive
  | block
  deriving DecidableEq, Repr

/-- An entry of the outline with the entries below it. -/
inductive OutlineEntry where
  | mk (label : String) (kind : SymbolKind) (span : Span) (children : List OutlineEntry)
  deriving Repr

namespace OutlineEntry

/-- The text of the entry. -/
def label : OutlineEntry → String
  | mk label _ _ _ => label

/-- What the entry stands for. -/
def kind : OutlineEntry → SymbolKind
  | mk _ kind _ _ => kind

/-- The text that the entry leads to. -/
def span : OutlineEntry → Span
  | mk _ _ span _ => span

/-- The entries below. -/
def children : OutlineEntry → List OutlineEntry
  | mk _ _ _ children => children

/-- The number of characters of a server block that are shown. -/
def shownCharacters : Nat := 10

/-- The label of a server block: the beginning of its text. -/
def blockLabel (text : String) : String :=
  let cs := Text.trimChars text.toList
  if cs.isEmpty then "<% %>"
  else
    let more := if shownCharacters < cs.length then "..." else ""
    "<% " ++ String.ofList (cs.take shownCharacters) ++ more ++ " %>"

/-- The label of an element: its name, and its identifier if it has one. -/
def tagLabel (t : Tag) : String :=
  match t.id? with
  | some id => "<" ++ t.name.qualified ++ "#" ++ id ++ ">"
  | none => "<" ++ t.name.qualified ++ ">"

/-- The span of an element, moved by `offset` columns. -/
def tagSpan (offset : Nat) (t : Tag) : Span :=
  ⟨t.extent.start.shift offset, t.extent.stop.shift offset⟩

/-- The label, kind and span of a node that the outline shows. -/
def ofNode? (offset : Nat) (kind : NodeKind) (span : Span) :
    Option (String × SymbolKind × Span) :=
  match kind with
  | .tag t => some (tagLabel t, .tag, tagSpan offset t)
  | .directive d => some ("<%@ " ++ d.name ++ " %>", .directive, span)
  | .block e => some (blockLabel e.text, .block, span)
  | .document | .plain _ => none

mutual

/-- The entries with their depths, parents first, when the entry has depth `depth`. -/
def preorderFrom (depth : Nat) : OutlineEntry → List (Nat × OutlineEntry)
  | mk label kind span children =>
    (depth, mk label kind span children) :: preorderList (depth + 1) children

/-- The entries of a list with their depths. -/
def preorderList (depth : Nat) : List OutlineEntry → List (Nat × OutlineEntry)
  | [] => []
  | e :: es => preorderFrom depth e ++ preorderList depth es

end

/-- The number under which editors know a kind of symbol. -/
def symbolNumber : SymbolKind → Nat
  | .tag => 19
  | .directive => 20
  | .block => 12

end OutlineEntry

namespace Node

mutual

/-- The entry of a node, if the outline shows it. -/
def outlineEntry? (offset : Nat) : Node → Option OutlineEntry
  | mk kind span children =>
    match OutlineEntry.ofNode? offset kind span with
    | some (label, k, s) => some (.mk label k s (outlineList offset children))
    | none => none

/-- The entries of a list of nodes. -/
def outlineList (offset : Nat) : List Node → List OutlineEntry
  | [] => []
  | n :: ns =>
    match outlineEntry? offset n with
    | some e => e :: outlineList offset ns
    | none => outlineList offset ns

end

/-- The outline of the page with that root. -/
def outline (root : Node) (offset : Nat) : List OutlineEntry := outlineList offset root.children

end Node

/-- A position as editors take it. -/
def Position.toJson (p : Position) : Json :=
  .obj [("line", .nat p.line), ("character", .nat p.column)]

/-- A span as editors take it. -/
def Span.toJson (s : Span) : Json :=
  .obj [("start", s.start.toJson), ("end", s.stop.toJson)]

namespace OutlineEntry

mutual

/-- The entry as editors take it. -/
def toJson : OutlineEntry → Json
  | mk label kind span children =>
    .obj ([("name", .str label), ("kind", .nat (symbolNumber kind)), ("range", span.toJson),
      ("selectionRange", span.toJson)] ++
      if children.isEmpty then [] else [("children", .arr (listToJson children))])

/-- The entries as editors take them. -/
def listToJson : List OutlineEntry → List Json
  | [] => []
  | e :: es => toJson e :: listToJson es

end

end OutlineEntry

end WebForms
