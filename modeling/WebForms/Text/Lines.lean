import WebForms.Text.Offset

/-!
# Lines of a document

A document that is being edited is addressed by line and column, and its lines end at every
Unicode line break, a carriage return with its line feed being one break. Each line keeps its
break, so the lines put together are the text, and a column may point behind the break.

## Main definitions

* `lines` — the lines of a text, always at least one
* `indexIn?`, `index?` — the character index of a position; a column inside a surrogate pair means
  the character's start, and the line after the last one stands for the end of the text
* `positionIn`, `positionAt` — the position of a character index, of a byte offset
-/

namespace WebForms.Text

/-- A character that ends a line of a document. -/
def isLineBreak (c : Char) : Bool :=
  let n := c.toNat
  (10 ≤ n && n ≤ 13) || n == 0x85 || n == 0x2028 || n == 0x2029

/-- Puts a character in front of the first line. -/
def consFirst (c : Char) : List (List Char) → List (List Char)
  | [] => [[c]]
  | l :: ls => (c :: l) :: ls

/-- The lines of a text, each with the break that ends it; after a final break stands an empty
line. -/
def lines : List Char → List (List Char)
  | [] => [[]]
  | '\r' :: '\n' :: cs => ['\r', '\n'] :: lines cs
  | c :: cs => if isLineBreak c then [c] :: lines cs else consFirst c (lines cs)

/-- The number of characters in front of column `column` of a line, if the line is long enough. -/
def columnIndex? : List Char → Nat → Option Nat
  | _, 0 => some 0
  | [], _ + 1 => none
  | c :: cs, n + 1 =>
    if utf16Size c ≤ n + 1 then (columnIndex? cs (n + 1 - utf16Size c)).map (· + 1) else some 0

/-- The character index of a position among the given lines. -/
def indexIn? : List (List Char) → Nat → Nat → Option Nat
  | [], 0, 0 => some 0
  | [], _, _ => none
  | l :: _, 0, column => columnIndex? l column
  | l :: ls, line + 1, column => (indexIn? ls line column).map (l.length + ·)

/-- The character index of a position in the text `cs`. -/
def index? (cs : List Char) (p : Position) : Option Nat :=
  indexIn? (lines cs) p.line p.column

/-- The position of the character index `i` among the given lines, the first of which has number
`line`. -/
def positionIn (line : Nat) : List (List Char) → Nat → Position
  | [], _ => ⟨line, 0⟩
  | [l], i => ⟨line, unitLength (l.take i)⟩
  | l :: l' :: ls, i =>
    if i < l.length then ⟨line, unitLength (l.take i)⟩
    else positionIn (line + 1) (l' :: ls) (i - l.length)

/-- The position of the byte offset `offset` in the text `cs`. -/
def positionAt (cs : List Char) (offset : Nat) : Position :=
  positionIn 0 (lines cs) (takeBytes offset cs).length

end WebForms.Text
