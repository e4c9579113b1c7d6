import WebForms.Text.Letters
import WebForms.Text.Numerals
import WebForms.Text.Table

/-!
# Character classes

Markup and code are read by Unicode properties: white space, letters, digits and word characters.
ASCII is answered directly; beyond it a class is given by its boundaries. Letters and numerals are
those of Unicode 17, word characters those of Unicode 16.

## Main definitions

* `isBlank` — the property White_Space
* `isLetter` — the property Alphabetic
* `isAlphanumeric` — alphabetic or numeric
* `isWordChar` — what a word may hold
-/

namespace WebForms.Text

/-- White space: the tab and line controls, the spaces, and the line and paragraph separators. -/
def isBlank (c : Char) : Bool :=
  let n := c.toNat
  (9 ≤ n && n ≤ 13) || n == 32 || n == 0x85 || n == 0xA0 || n == 0x1680
    || (0x2000 ≤ n && n ≤ 0x200A) || n == 0x2028 || n == 0x2029 || n == 0x202F
    || n == 0x205F || n == 0x3000

/-- A letter, in the sense of the property Alphabetic. -/
def isLetter (c : Char) : Bool :=
  if c.toNat < 128 then c.isAlpha
  else insideBounds letterBounds c.toNat || insideBounds recentLetterBounds c.toNat

/-- A numeric character of any script. -/
def isNumeral (c : Char) : Bool :=
  if c.toNat < 128 then c.isDigit
  else insideBounds numeralBounds c.toNat || insideBounds recentNumeralBounds c.toNat

/-- A letter or a numeric character. -/
def isAlphanumeric (c : Char) : Bool :=
  isLetter c || isNumeral c

/-- A character that a word may hold: a letter, mark, decimal digit, connector or joiner. -/
def isWordChar (c : Char) : Bool :=
  if c.toNat < 128 then c.isAlphanum || c == '_'
  else insideBounds letterBounds c.toNat || insideBounds joinerBounds c.toNat

end WebForms.Text
