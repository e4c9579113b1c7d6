import WebForms.Text.Hex
import WebForms.Text.Split

/-!
# Addresses of 128 bits

An address is written as eight groups of hexadecimal digits between colons, where two colons in a
row stand for as many zeros as are missing. The last two groups may be written as the four decimal
numbers of a shorter address.

## Main definitions

* `Ipv6`, `Ipv6.text` — an address and its written form
* `Ipv6.parse?` — reading an address
-/

namespace WebForms

/-- An address of eight groups of 16 bits. -/
structure Ipv6 where
  groups : Vector UInt16 8
  deriving DecidableEq, Repr

namespace Ipv6

/-! ### Writing -/

/-- The groups between colons. -/
def groupText (groups : List UInt16) : List Char :=
  [':'].intercalate (groups.map fun g => Text.lowerHex g.toNat)

/-- Where the first of the longest rows of zeros begins, and its length. -/
def longestZeros (groups : List UInt16) : Nat × Nat :=
  (List.range groups.length).foldl (fun best i =>
    let n := ((groups.drop i).takeWhile (· == 0)).length
    if best.2 < n then (i, n) else best) (0, 0)

/-- The written form of an address; two or more zeros are left out. -/
def text (a : Ipv6) : String :=
  let groups := a.groups.toList
  let (start, count) := longestZeros groups
  if count < 2 then String.ofList (groupText groups)
  else String.ofList
    (groupText (groups.take start) ++ [':', ':'] ++ groupText (groups.drop (start + count)))

/-! ### Reading -/

/-- A group of one to four hexadecimal digits. -/
def readGroup? (cs : List Char) : Option UInt16 :=
  if !cs.isEmpty && cs.length ≤ 4 && cs.all fun c => (Text.hexDigitValue? c).isSome then
    some (UInt16.ofNat (Text.hexNumber cs))
  else none

/-- A decimal number below 256 without a zero in front. -/
def readByte? (cs : List Char) : Option Nat :=
  let n := cs.foldl (fun n c => 10 * n + (c.toNat - 48)) 0
  if !cs.isEmpty && cs.all Char.isDigit && (cs.length == 1 || cs.head? != some '0') && n < 256 then
    some n
  else none

/-- The two groups that are written as four decimal numbers. -/
def readBytes? (cs : List Char) : Option (List UInt16) := do
  let [a, b, c, d] ← (Text.splitAll (· == '.') cs).mapM readByte? | none
  return [UInt16.ofNat (256 * a + b), UInt16.ofNat (256 * c + d)]

/-- The groups between colons; there may be none. -/
def readGroups? (cs : List Char) : Option (List UInt16) :=
  if cs.isEmpty then some [] else (Text.splitAll (· == ':') cs).mapM readGroup?

/-- The groups between colons, the last two of which may be written in decimal. -/
def readFinalGroups? (cs : List Char) : Option (List UInt16) :=
  let (front, last) := match Text.splitLast? (· == ':') cs with
    | some (front, last) => (some front, last)
    | none => (none, cs)
  if last.contains '.' then do
    let front ← match front with
      | some front => if front.isEmpty then none else readGroups? front
      | none => some []
    return front ++ (← readBytes? last)
  else readGroups? cs

/-- The parts in front of and behind the first two colons in a row. -/
def splitGap? : List Char → Option (List Char × List Char)
  | ':' :: ':' :: cs => some ([], cs)
  | c :: cs => (splitGap? cs).map fun (l, r) => (c :: l, r)
  | [] => none

/-- The address with the given groups. -/
def ofList? (groups : List UInt16) : Option Ipv6 :=
  if h : groups.length = 8 then some ⟨groups.toArray, by simpa using h⟩ else none

/-- Reads an address. Two colons stand for at least one zero. -/
def parse? (cs : List Char) : Option Ipv6 :=
  match splitGap? cs with
  | none => (readFinalGroups? cs).bind ofList?
  | some (left, right) => do
    let left ← readGroups? left
    let right ← readFinalGroups? right
    if left.length + right.length < 8 then
      ofList? (left ++ List.replicate (8 - left.length - right.length) 0 ++ right)
    else none

end Ipv6

end WebForms
