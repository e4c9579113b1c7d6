import WebForms.Domain.Composition
import WebForms.Domain.Direction
import WebForms.Domain.Joining
import WebForms.Domain.Mapping
import WebForms.Domain.Punycode

/-!
# Domain names

A domain name is a row of labels between dots. It is known by one written form in ASCII: its
characters are mapped and composed, and a label with characters beyond ASCII is written in
Punycode behind a tag. A label that has the tag already is read, and has to be a label that would
have been written so.

## Main definitions

* `readLabel?` — the characters of a label, if they are in order
* `toAscii?` — the written form of a name
-/

namespace WebForms.Domain

/-- What a label in Punycode begins with. -/
def tag : List Char := ['x', 'n', '-', '-']

/-- A character of ASCII that may not stand in a name. -/
def isForbidden (c : Char) : Bool :=
  c.toNat ≤ 0x20 || c.toNat = 0x7F ||
    ['%', '#', '/', ':', '<', '>', '?', '@', '[', '\\', ']', '^', '|'].contains c

/-- All characters belong to ASCII. -/
def isAscii (cs : List Char) : Bool := cs.all (·.toNat < 128)

/-- The characters of a label go together: none of them is forbidden, it does not begin with a mark
or with the tag, and join controls stand where they may. -/
def labelFits (label : List Char) : Bool :=
  !label.any isForbidden && !tag.isPrefixOf label && !label.head?.any isMark && joinersFit label

/-- The label that is written in Punycode as `cs`: it is one that has to be written so, and mapping
it changes nothing. -/
def decodeLabel? (cs : List Char) : Option (List Char) := do
  let label ← Punycode.decode? cs
  if isAscii label then none
  if (← mapName? label) = label ∧ normalize label = label then some label else none

/-- The characters of a mapped label, if they are in order. -/
def readLabel? (cs : List Char) : Option (List Char) := do
  let label ← if tag.isPrefixOf cs then decodeLabel? (cs.drop tag.length) else some cs
  if labelFits label then some label else none

/-- The written form of a label. -/
def writeLabel (label : List Char) : List Char :=
  if isAscii label then label else tag ++ Punycode.encode label

/-- The labels of a name, if they are in order: where one runs to the left, all keep to their
directions. -/
def readLabels? (cs : List Char) : Option (List (List Char)) := do
  let mapped ← mapName? cs
  let labels ← (Text.splitAll (· == '.') (normalize mapped)).mapM readLabel?
  if labels.any runsLeft && !labels.all keepsDirection then none else some labels

/-- The written form of a name. -/
def toAscii? (cs : List Char) : Option (List Char) :=
  (readLabels? cs).map fun labels => ['.'].intercalate (labels.map writeLabel)

end WebForms.Domain
