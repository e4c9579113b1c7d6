import WebForms.Text.Hex
import WebForms.Text.Split

/-!
# Addresses of 32 bits

An address is written as four numbers below 256 between dots. It is also read when it has fewer
numbers, the last of which then fills the places that are left, and when a number is written to
base 8 after a zero or to base 16 after `0x`.

## Main definitions

* `Ipv4`, `Ipv4.text` — an address and its written form
* `Ipv4.isMeant` — the last part of a name is a number, so that the name has to be an address
* `Ipv4.parse?` — reading an address
-/

namespace WebForms

/-- An address of 32 bits. -/
structure Ipv4 where
  value : UInt32
  deriving DecidableEq, Repr

namespace Ipv4

/-- The written form of an address. -/
def text (a : Ipv4) : String :=
  let n := a.value.toNat
  ".".intercalate ([n >>> 24, n >>> 16 % 256, n >>> 8 % 256, n % 256].map toString)

/-- The value of a row of digits to the base `base`. -/
def readDigits? (base : Nat) (cs : List Char) : Option Nat :=
  cs.foldlM (fun n c => (Text.hexDigitValue? c).bind fun d =>
    if d < base then some (base * n + d) else none) 0

/-- The value of a number, whose base is told by what it begins with. Without further digits it is
zero. -/
def readNumber? : List Char → Option Nat
  | [] => none
  | ['0'] => some 0
  | '0' :: c :: cs => if c = 'x' ∨ c = 'X' then readDigits? 16 cs else readDigits? 8 (c :: cs)
  | cs => readDigits? 10 cs

/-- The parts between dots; a dot at the end does not count. -/
def parts (cs : List Char) : List (List Char) :=
  let ps := Text.splitAll (· == '.') cs
  if 1 < ps.length && ps.getLast? == some [] then ps.dropLast else ps

/-- The last part of a name is a number, or a row of digits that is none. -/
def isMeant (cs : List Char) : Bool :=
  match (parts cs).getLast? with
  | some part => (!part.isEmpty && part.all Char.isDigit) || (readNumber? part).isSome
  | none => false

/-- The address with the given numbers: the last one fills the places that are left. -/
def ofNumbers? (numbers : List Nat) : Option Ipv4 := do
  let last ← numbers.getLast?
  let front := numbers.dropLast
  let room := 1 <<< (8 * (4 - front.length))
  if 3 < front.length ∨ front.any (255 < ·) ∨ room ≤ last then none
  let high := front.foldl (fun n m => 256 * n + m) 0
  return ⟨UInt32.ofNat (high * room + last)⟩

/-- Reads an address. -/
def parse? (cs : List Char) : Option Ipv4 := do ofNumbers? (← (parts cs).mapM readNumber?)

end Ipv4

end WebForms
