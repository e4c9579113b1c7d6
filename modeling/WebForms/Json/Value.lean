import WebForms.Text.Hex

/-!
# Values of the interchange format

Messages, settings and type index files are written in JSON. A value keeps the members of an
object in the order in which they stand, repeated names included, since a reader of records has to
notice a repetition. Integers that a 64-bit word can hold are told apart from all other numbers.

## Main definitions

* `Json` — a value
* `Json.render` — the text of a value, without spaces
-/

namespace WebForms

/-- A value of the interchange format. -/
inductive Json where
  | null
  | bool (b : Bool)
  /-- An integer that a signed or unsigned 64-bit word can hold. -/
  | int (n : Int)
  /-- Any other number, as it is written. -/
  | number (text : String)
  | str (s : String)
  | arr (items : List Json)
  | obj (members : List (String × Json))
  /-- Well-formed text whose string contents are no text: it may be skipped, not used. -/
  | unreadable
  deriving Inhabited, Repr

namespace Json

/-- A natural number as a value. -/
def nat (n : Nat) : Json := .int n

/-- A string, or null where there is none. -/
def optStr : Option String → Json
  | some s => .str s
  | none => .null

/-- The members that are present. -/
def sparse (members : List (String × Option Json)) : Json :=
  .obj (members.filterMap fun (name, value?) => value?.map (name, ·))

/-- The value of the first member of that name. -/
def get? (name : String) : Json → Option Json
  | .obj members => members.lookup name
  | _ => none

/-- One character of a string literal: quotes, backslashes and control characters are escaped, by a
letter where there is one. -/
def escapeChar (c : Char) : List Char :=
  if c = '"' then ['\\', '"']
  else if c = '\\' then ['\\', '\\']
  else if c = '\x08' then ['\\', 'b']
  else if c = '\t' then ['\\', 't']
  else if c = '\n' then ['\\', 'n']
  else if c = '\x0c' then ['\\', 'f']
  else if c = '\r' then ['\\', 'r']
  else if c.toNat < 32 then
    ['\\', 'u', '0', '0', Text.lowerHexDigit (c.toNat / 16), Text.lowerHexDigit (c.toNat % 16)]
  else [c]

/-- Appends the characters of a string literal, escaped, to `out`. -/
def writeChars (out : String) (cs : List Char) : String :=
  cs.foldl (fun out c => (escapeChar c).foldl String.push out) out

/-- Appends a string literal to `out`. -/
def writeString (out s : String) : String :=
  (writeChars (out.push '"') s.toList).push '"'

mutual

/-- Appends the text of a value to `out`. -/
def write (out : String) : Json → String
  | .null => out ++ "null"
  | .unreadable => out ++ "null"
  | .bool true => out ++ "true"
  | .bool false => out ++ "false"
  | .int n => out ++ toString n
  | .number text => out ++ text
  | .str s => writeString out s
  | .arr [] => out ++ "[]"
  | .arr (v :: vs) => (writeItems (write (out.push '[') v) vs).push ']'
  | .obj [] => out ++ "\x7b\x7d"
  | .obj ((name, v) :: ms) =>
    (writeMembers (write ((writeString (out.push '\x7b') name).push ':') v) ms).push '\x7d'

/-- Appends the further items of an array. -/
def writeItems (out : String) : List Json → String
  | [] => out
  | v :: vs => writeItems (write (out.push ',') v) vs

/-- Appends the further members of an object. -/
def writeMembers (out : String) : List (String × Json) → String
  | [] => out
  | (name, v) :: ms => writeMembers (write ((writeString (out.push ',') name).push ':') v) ms

end

/-- The text of a value. -/
def render (v : Json) : String := write "" v

end Json

end WebForms
