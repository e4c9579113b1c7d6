import WebForms.Text.Hex
import WebForms.Text.Utf8

/-!
# Percent encoding

In an address, a character outside a given set is written as the bytes of its UTF-8 form, each as
a percent sign with two hexadecimal digits.

## Main definitions

* `percentEncode` — a text with the characters of a set encoded
* `percentDecode` — the characters that an encoded text stands for
* `inFragment`, `inQuery`, `inPath`, `inSegment`, `inUserInfo` — the sets of the address parts
-/

namespace WebForms.Text

/-- A byte as a percent sign and two digits. -/
def percentByte (b : UInt8) : List Char :=
  ['%', upperHexDigit (b.toNat / 16), upperHexDigit (b.toNat % 16)]

/-- The characters with those of the set `encoded` percent-encoded. -/
def percentEncodeChars (encoded : Char → Bool) (cs : List Char) : List Char :=
  cs.flatMap fun c =>
    if encoded c then (String.singleton c).toUTF8.toList.flatMap percentByte else [c]

/-- The text with the characters of the set `encoded` percent-encoded. -/
def percentEncode (encoded : Char → Bool) (s : String) : String :=
  String.ofList (percentEncodeChars encoded s.toList)

/-- The bytes that an encoded text stands for; a percent sign without digits stands for itself. -/
def percentBytes : List Char → List UInt8
  | [] => []
  | '%' :: a :: b :: cs =>
    match hexDigitValue? a, hexDigitValue? b with
    | some x, some y => UInt8.ofNat (16 * x + y) :: percentBytes cs
    | _, _ => '%'.toUInt8 :: percentBytes (a :: b :: cs)
  | c :: cs => (String.singleton c).toUTF8.toList ++ percentBytes cs

/-- The characters that an encoded text stands for. -/
def percentDecode (cs : List Char) : List Char := decodeUtf8 (percentBytes cs)

/-- Control characters and everything beyond ASCII, which are encoded in all parts. -/
def inControls (c : Char) : Bool :=
  c.toNat < 0x20 || 0x7E < c.toNat

/-- What is encoded in a fragment. -/
def inFragment (c : Char) : Bool :=
  inControls c || [' ', '"', '<', '>', '\x60'].contains c

/-- What is encoded in a query; the quote only where `special` is set. -/
def inQuery (special : Bool) (c : Char) : Bool :=
  inControls c || [' ', '"', '#', '<', '>'].contains c || (special && c == '\'')

/-- What is encoded in a path. -/
def inPath (c : Char) : Bool :=
  inFragment c || ['#', '?', '\x7b', '\x7d'].contains c

/-- What is encoded in a segment that is made from a file name. -/
def inSegment (c : Char) : Bool :=
  inPath c || ['/', '%', '\\'].contains c

/-- What is encoded in a user name or password. -/
def inUserInfo (c : Char) : Bool :=
  inPath c || ['/', ':', ';', '=', '@', '[', '\\', ']', '^', '|'].contains c

end WebForms.Text
