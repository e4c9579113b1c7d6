import WebForms.Text.Position

/-!
# Byte offsets

Texts are addressed from outside by UTF-8 byte offsets. An offset inside a character stands for
the place before it, and one beyond the text for its end.

## Main definitions

* `byteLength`, `unitLength` — the size of a text in UTF-8 bytes and in UTF-16 units
* `takeBytes`, `dropBytes` — the text cut at a byte offset
* `offsetOf?` — the byte offset of a position, counting lines by line feeds
-/

namespace WebForms.Text

/-- The number of UTF-8 bytes of `cs`. -/
def byteLength (cs : List Char) : Nat := cs.foldr (fun c n => c.utf8Size + n) 0

/-- The number of UTF-16 code units of `cs`. -/
def unitLength (cs : List Char) : Nat := cs.foldr (fun c n => utf16Size c + n) 0

@[simp] theorem byteLength_nil : byteLength [] = 0 := rfl

@[simp] theorem byteLength_cons (c : Char) (cs : List Char) :
    byteLength (c :: cs) = c.utf8Size + byteLength cs := rfl

@[simp] theorem byteLength_append (cs ds : List Char) :
    byteLength (cs ++ ds) = byteLength cs + byteLength ds := by
  induction cs with
  | nil => simp
  | cons c cs ih => simp only [List.cons_append, byteLength_cons, ih, Nat.add_assoc]

@[simp] theorem unitLength_nil : unitLength [] = 0 := rfl

@[simp] theorem unitLength_cons (c : Char) (cs : List Char) :
    unitLength (c :: cs) = utf16Size c + unitLength cs := rfl

/-- The longest run of whole characters at the front of `cs` that fits into `n` bytes. -/
def takeBytes : Nat → List Char → List Char
  | _, [] => []
  | n, c :: cs => if c.utf8Size ≤ n then c :: takeBytes (n - c.utf8Size) cs else []

/-- What `takeBytes n cs` leaves of `cs`. -/
def dropBytes : Nat → List Char → List Char
  | _, [] => []
  | n, c :: cs => if c.utf8Size ≤ n then dropBytes (n - c.utf8Size) cs else c :: cs

theorem byteLength_takeBytes_le (n : Nat) (cs : List Char) :
    byteLength (takeBytes n cs) ≤ n := by
  induction cs generalizing n with
  | nil => simp [takeBytes]
  | cons c cs ih =>
    by_cases h : c.utf8Size ≤ n
    · have := ih (n - c.utf8Size)
      simp only [takeBytes, h, if_true, byteLength_cons]
      omega
    · simp [takeBytes, h]

theorem takeBytes_append_dropBytes (n : Nat) (cs : List Char) :
    takeBytes n cs ++ dropBytes n cs = cs := by
  induction cs generalizing n with
  | nil => rfl
  | cons c cs ih => by_cases h : c.utf8Size ≤ n <;> simp [takeBytes, dropBytes, h, ih]

/-- The byte offset at which column `column` of a line stands when the line begins at `offset`; a
column beyond the line stands for its end. -/
def columnOffset (offset column : Nat) : List Char → Nat
  | [] => offset
  | c :: cs =>
    if column = 0 ∨ c = '\n' then offset
    else columnOffset (offset + c.utf8Size) (column - utf16Size c) cs

/-- The byte offset of a position in `cs` when `cs` begins at `offset`; none when there are fewer
lines. Lines end at line feeds only. -/
def offsetFrom? (offset : Nat) : Nat → Nat → List Char → Option Nat
  | 0, column, cs => some (columnOffset offset column cs)
  | _ + 1, _, [] => none
  | line + 1, column, c :: cs =>
    offsetFrom? (offset + c.utf8Size) (if c = '\n' then line else line + 1) column cs

/-- The byte offset of a position in the text `cs`. -/
def offsetOf? (cs : List Char) (p : Position) : Option Nat :=
  offsetFrom? 0 p.line p.column cs

end WebForms.Text
