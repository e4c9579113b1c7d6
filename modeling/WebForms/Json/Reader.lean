import WebForms.Json.Value

/-!
# Reading values

A text is read by recursive descent over its characters. White space may stand around every token
and nothing else may follow the value. Escapes in a string are UTF-16 units: two that form a
surrogate pair are one character, and a string with a lone surrogate is well formed but
unreadable, as is an object one of whose names is.

## Main definitions

* `Json.readString` — a string literal after its opening quote
* `Json.readNumber` — a number
* `Json.readValue` — a value; the fuel bounds the nesting and the number of items
* `Json.parse?` — the value of a whole text
-/

namespace WebForms.Json

/-- White space between tokens. -/
def isSpace (c : Char) : Bool :=
  c == ' ' || c == '\n' || c == '\t' || c == '\r'

/-- The characters from the first token on. -/
def skipSpace (cs : List Char) : List Char :=
  cs.dropWhile isSpace

/-! ### Strings -/

/-- The unit that four hexadecimal digits stand for. -/
def hexUnit? (a b c d : Char) : Option Nat := do
  return (← Text.hexDigitValue? a) * 4096 + (← Text.hexDigitValue? b) * 256 +
    (← Text.hexDigitValue? c) * 16 + (← Text.hexDigitValue? d)

/-- The character that a one-letter escape stands for. -/
def escaped? : Char → Option Char
  | '"' => some '"'
  | '\\' => some '\\'
  | '/' => some '/'
  | 'b' => some '\x08'
  | 'f' => some '\x0c'
  | 'n' => some '\n'
  | 'r' => some '\r'
  | 't' => some '\t'
  | _ => none

/-- A piece of a string literal: a character, or the UTF-16 unit of a numeric escape. -/
inductive Piece where
  | char (c : Char)
  | unit (n : Nat)
  deriving DecidableEq, Repr

/-- The text of the pieces, with surrogate pairs joined; none when a surrogate stands alone. -/
def joinPieces? : List Piece → Option (List Char)
  | [] => some []
  | .char c :: ps => (joinPieces? ps).map (c :: ·)
  | .unit n :: ps =>
    if n < 0xD800 ∨ 0xE000 ≤ n then (joinPieces? ps).map (Char.ofNat n :: ·)
    else match ps with
      | .unit m :: qs =>
        if n < 0xDC00 ∧ 0xDC00 ≤ m ∧ m < 0xE000 then
          (joinPieces? qs).map (Char.ofNat (0x10000 + (n - 0xD800) * 0x400 + (m - 0xDC00)) :: ·)
        else none
      | _ => none

/-- The pieces of a string literal up to its closing quote, and what follows the quote. -/
def readPieces : List Char → Option (List Piece × List Char)
  | [] => none
  | '"' :: cs => some ([], cs)
  | '\\' :: 'u' :: a :: b :: c :: d :: cs => do
    let n ← hexUnit? a b c d
    let (ps, rest) ← readPieces cs
    return (.unit n :: ps, rest)
  | '\\' :: e :: cs => do
    let c ← escaped? e
    let (ps, rest) ← readPieces cs
    return (.char c :: ps, rest)
  | c :: cs => do
    if c = '\\' ∨ c.toNat < 32 then none
    let (ps, rest) ← readPieces cs
    return (.char c :: ps, rest)

/-- A string literal after its opening quote; its contents are missing when they are no text. -/
def readString (cs : List Char) : Option (Option String × List Char) := do
  let (ps, rest) ← readPieces cs
  return ((joinPieces? ps).map String.ofList, rest)

/-! ### Numbers -/

/-- The value of a row of decimal digits. -/
def decimal (ds : List Char) : Nat :=
  ds.foldl (fun n d => 10 * n + (d.toNat - 48)) 0

/-- The digits at the front of `cs`, at least one, and what follows them. -/
def readDigits (cs : List Char) : Option (List Char × List Char) :=
  match cs.takeWhile Char.isDigit with
  | [] => none
  | ds => some (ds, cs.dropWhile Char.isDigit)

/-- The fractional part of a number, if there is one. -/
def readFraction : List Char → Option (List Char × List Char)
  | '.' :: cs => (readDigits cs).map fun (ds, rest) => ('.' :: ds, rest)
  | cs => some ([], cs)

/-- The exponent of a number, if there is one. -/
def readExponent : List Char → Option (List Char × List Char)
  | c :: cs =>
    if c = 'e' ∨ c = 'E' then
      match cs with
      | s :: ds =>
        if s = '+' ∨ s = '-' then (readDigits ds).map fun (ds, rest) => (c :: s :: ds, rest)
        else (readDigits cs).map fun (ds, rest) => (c :: ds, rest)
      | [] => none
    else some ([], c :: cs)
  | [] => some ([], [])

/-- The number with that sign and those digits, when it is written without fraction and exponent.
Zero with a sign is no integer. -/
def integer (negative : Bool) (ds : List Char) : Json :=
  let n := decimal ds
  let text := String.ofList ds
  if negative then
    if n = 0 ∨ 1 <<< 63 < n then .number ("-" ++ text) else .int (-n)
  else if n < UInt64.size then .int n
  else .number text

/-- A number at the front of `cs`. -/
def readNumber (cs : List Char) : Option (Json × List Char) := do
  let (negative, cs) := match cs with
    | '-' :: rest => (true, rest)
    | _ => (false, cs)
  let (ds, cs) ← readDigits cs
  if ds.head? = some '0' ∧ ds.length ≠ 1 then none
  let (fraction, cs) ← readFraction cs
  let (exponent, cs) ← readExponent cs
  if fraction.isEmpty ∧ exponent.isEmpty then
    return (integer negative ds, cs)
  else
    let sign := if negative then ['-'] else []
    return (.number (String.ofList (sign ++ ds ++ fraction ++ exponent)), cs)

/-! ### Values -/

/-- The object with those members, unless one of the names is unreadable. -/
def ofMembers (members : List (Option String × Json)) : Json :=
  match members.mapM fun (name?, v) => name?.map (·, v) with
  | some ms => .obj ms
  | none => .unreadable

mutual

/-- A value at the front of `cs`, and what follows it. -/
def readValue : Nat → List Char → Option (Json × List Char)
  | 0, _ => none
  | fuel + 1, cs =>
    match skipSpace cs with
    | 'n' :: 'u' :: 'l' :: 'l' :: rest => some (.null, rest)
    | 't' :: 'r' :: 'u' :: 'e' :: rest => some (.bool true, rest)
    | 'f' :: 'a' :: 'l' :: 's' :: 'e' :: rest => some (.bool false, rest)
    | '"' :: rest => do
      let (s?, rest) ← readString rest
      return (s?.elim .unreadable .str, rest)
    | '[' :: rest =>
      match skipSpace rest with
      | ']' :: rest => some (.arr [], rest)
      | rest => do
        let (vs, rest) ← readItems fuel rest
        return (.arr vs, rest)
    | '\x7b' :: rest =>
      match skipSpace rest with
      | '\x7d' :: rest => some (.obj [], rest)
      | rest => do
        let (ms, rest) ← readMembers fuel rest
        return (ofMembers ms, rest)
    | rest => readNumber rest

/-- The items of an array up to its closing bracket. -/
def readItems : Nat → List Char → Option (List Json × List Char)
  | 0, _ => none
  | fuel + 1, cs => do
    let (v, rest) ← readValue fuel cs
    match skipSpace rest with
    | ',' :: rest =>
      let (vs, rest) ← readItems fuel rest
      return (v :: vs, rest)
    | ']' :: rest => return ([v], rest)
    | _ => none

/-- The members of an object up to its closing brace. -/
def readMembers : Nat → List Char → Option (List (Option String × Json) × List Char)
  | 0, _ => none
  | fuel + 1, cs =>
    match skipSpace cs with
    | '"' :: rest => do
      let (name?, rest) ← readString rest
      match skipSpace rest with
      | ':' :: rest =>
        let (v, rest) ← readValue fuel rest
        match skipSpace rest with
        | ',' :: rest =>
          let (ms, rest) ← readMembers fuel rest
          return ((name?, v) :: ms, rest)
        | '\x7d' :: rest => return ([(name?, v)], rest)
        | _ => none
      | _ => none
    | _ => none

end

/-- The value of the whole text `s`. -/
def parse? (s : String) : Option Json := do
  let cs := s.toList
  let (v, rest) ← readValue (cs.length + 1) cs
  if (skipSpace rest).isEmpty then some v else none

end WebForms.Json
