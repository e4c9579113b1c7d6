import WebForms.Text.Hex
import WebForms.Text.Split

/-!
# Tables of characters

A large table is written as a text: numbers in hexadecimal with white space between them, and a
semicolon between rows. A class of characters is a single row of boundaries, the code points at
which membership changes: the first is the first member, the next the first after that run, and
so on in turn.

## Main definitions

* `hexRows`, `hexBounds` — the rows of a table, the boundaries of a class
* `insideBounds` — membership in a class that is given by its boundaries
* `keyedRows`, `rowOf?` — a table that is looked up by its first column
-/

namespace WebForms.Text

/-- The numbers that are written in hexadecimal with white space between them. -/
def hexNumbers (cs : List Char) : List Nat :=
  ((splitAll (fun c => c == ' ' || c == '\n') cs).filter (!·.isEmpty)).map hexNumber

/-- The rows of a table, between semicolons. -/
def hexRows (table : String) : List (List Nat) :=
  (splitAll (· == ';') table.toList).map hexNumbers

/-- The boundaries of a class of characters. -/
def hexBounds (table : String) : Array Nat := (hexNumbers table.toList).toArray

/-- Membership of the code point `n` in the class whose boundaries are `bounds`: the number of
boundaries up to it is odd. -/
def insideBounds (bounds : Array Nat) (n : Nat) : Bool :=
  bounds.foldl (fun inside b => if b ≤ n then !inside else inside) false

/-- The rows of a table, each as the code point in its first column and the rest. -/
def keyedRows (table : String) : Array (Nat × List Nat) :=
  ((hexRows table).filterMap fun row => row.head?.map (·, row.tail)).toArray

/-- What the row for the code point `n` says. -/
def rowOf? (rows : Array (Nat × List Nat)) (n : Nat) : Option (List Nat) :=
  (rows.find? (·.1 == n)).map (·.2)

end WebForms.Text
