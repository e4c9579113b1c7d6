import WebForms.Types.Control

/-!
# Catalogs

A catalog is a type index together with the control descriptors that have been asked for. A
descriptor is made once and kept, under the lower-cased name of its type, until the index is
replaced. What is asked of a page needs the descriptor of one control type at most, and this may be
made from the index or taken from a catalog.

## Main definitions

* `Catalog.descriptor` — the descriptor of a type, and the catalog that keeps it
* `Catalog.renew` — another index, with no descriptors kept
* `Lookup` — a value that depends on the descriptor of one type at most, `Lookup.fromIndex` and
  `Catalog.lookUp` the value itself
-/

namespace WebForms

/-- A type index and the descriptors that have been made from it. -/
structure Catalog where
  index : TypeIndex
  descriptors : Std.HashMap String ControlDescriptor := {}

namespace Catalog

/-- The descriptor of a type, made now unless it is kept already. -/
def descriptor (c : Catalog) (t : TypeDefinition) : ControlDescriptor × Catalog :=
  let key := t.fullName.toLower
  match c.descriptors[key]? with
  | some d => (d, c)
  | none =>
    let d := ControlDescriptor.ofType c.index t
    (d, { c with descriptors := c.descriptors.insert key d })

/-- The catalog of another index. -/
def renew (_ : Catalog) (index : TypeIndex) : Catalog := { index }

/-- The number of descriptors that are kept. -/
def kept (c : Catalog) : Nat := c.descriptors.size

end Catalog

/-- A value that depends on the descriptor of one control type at most. -/
inductive Lookup (α : Type) where
  | known (a : α)
  | describe (t : TypeDefinition) (value : ControlDescriptor → α)

namespace Lookup

/-- The value that depends on the descriptor of `t`, if there is such a type. -/
def ofType? {α : Type} (t : Option TypeDefinition) (value : Option ControlDescriptor → α) :
    Lookup α :=
  match t with
  | none => known (value none)
  | some t => describe t fun d => value (some d)

/-- The value, with the descriptor made from an index. -/
def fromIndex {α : Type} (ix : TypeIndex) : Lookup α → α
  | known a => a
  | describe t value => value (.ofType ix t)

end Lookup

/-- The value, with the descriptor taken from the catalog, and the catalog that keeps it. -/
def Catalog.lookUp {α : Type} (c : Catalog) : Lookup α → α × Catalog
  | .known a => (a, c)
  | .describe t value =>
    let (d, c) := c.descriptor t
    (value d, c)

end WebForms
