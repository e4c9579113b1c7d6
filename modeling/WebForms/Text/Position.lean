/-!
# Positions and spans

A position is a line and a column, both counted from zero; a column counts UTF-16 code units.
Positions are ordered line first. Reading a character moves a position on: a line feed starts a
new line, any other character adds its width to the column.

## Main definitions

* `utf16Size` — the number of UTF-16 code units of a character
* `Position`, `Position.advance`, `Position.advanceAll`
* `Span` — a half-open stretch of text between two positions
-/

namespace WebForms

/-- The number of UTF-16 code units of `c`: two beyond the basic plane, else one. -/
def utf16Size (c : Char) : Nat :=
  if c.toNat < 0x10000 then 1 else 2

/-- A place in a text: line and UTF-16 column, both counted from zero. -/
structure Position where
  line : Nat := 0
  column : Nat := 0
  deriving DecidableEq, Repr, Inhabited

namespace Position

/-- Lines are compared first, then columns. -/
protected def Precedes (p q : Position) : Prop :=
  p.line < q.line ∨ p.line = q.line ∧ p.column < q.column

instance : LT Position := ⟨Position.Precedes⟩

instance : LE Position := ⟨fun p q => p.line < q.line ∨ p.line = q.line ∧ p.column ≤ q.column⟩

theorem lt_iff {p q : Position} :
    p < q ↔ p.line < q.line ∨ p.line = q.line ∧ p.column < q.column := Iff.rfl

theorem le_iff {p q : Position} :
    p ≤ q ↔ p.line < q.line ∨ p.line = q.line ∧ p.column ≤ q.column := Iff.rfl

instance (p q : Position) : Decidable (p < q) := decidable_of_iff _ lt_iff.symm

instance (p q : Position) : Decidable (p ≤ q) := decidable_of_iff _ le_iff.symm

/-- The later of two positions. -/
protected def max (p q : Position) : Position :=
  if p ≤ q then q else p

/-- The position after reading `c` at `p`. -/
def advance (p : Position) (c : Char) : Position :=
  if c = '\n' then ⟨p.line + 1, 0⟩ else ⟨p.line, p.column + utf16Size c⟩

/-- The position after reading all of `cs` at `p`. -/
def advanceAll (p : Position) (cs : List Char) : Position :=
  cs.foldl advance p

@[simp] theorem advanceAll_nil (p : Position) : p.advanceAll [] = p := rfl

@[simp] theorem advanceAll_cons (p : Position) (c : Char) (cs : List Char) :
    p.advanceAll (c :: cs) = (p.advance c).advanceAll cs := rfl

@[simp] theorem advanceAll_append (p : Position) (cs ds : List Char) :
    p.advanceAll (cs ++ ds) = (p.advanceAll cs).advanceAll ds :=
  List.foldl_append

end Position

/-- A half-open stretch of text. -/
structure Span where
  start : Position := {}
  stop : Position := {}
  deriving DecidableEq, Repr, Inhabited

end WebForms
