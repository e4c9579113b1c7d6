/-!
# Numbers with a fraction

A number that is no 64-bit integer is kept as a binary floating-point number, and written with the
fewest decimal digits that lie nearer to it than to any other such number.

## Main definitions

* `Decimal.ofText`, `Decimal.toFloat` — the number in a text
* `Binary`, `Binary.shortest` — a floating-point number in exact terms, and its fewest digits
* `floatText` — a floating-point number as it is written
-/

namespace WebForms

/-! ### Reading -/

/-- A number as digits and a power of ten. -/
structure Decimal where
  digits : Nat := 0
  exponent : Int := 0
  deriving DecidableEq, Repr

namespace Decimal

/-- The number with one more digit behind it, unless a 64-bit word has no room for it. -/
def push? (d : Decimal) (digit : Char) : Option Decimal :=
  let n := 10 * d.digits + (digit.toNat - 48)
  if n < UInt64.size then some { d with digits := n } else none

/-- The number with more digits in front of the point; those without room only raise the power. -/
def pushWhole (d : Decimal) : List Char → Decimal
  | [] => d
  | c :: cs =>
    match d.push? c with
    | some d => d.pushWhole cs
    | none => { d with exponent := d.exponent + (cs.length + 1) }

/-- The number with more digits behind the point; those without room are dropped. -/
def pushFraction (d : Decimal) : List Char → Decimal
  | [] => d
  | c :: cs =>
    match d.push? c with
    | some d => { d with exponent := d.exponent - 1 }.pushFraction cs
    | none => d

/-- The value of an exponent, with or without a sign. -/
def exponentOf (cs : List Char) : Int :=
  let value (cs : List Char) : Int := (cs.foldl (fun n c => 10 * n + (c.toNat - 48)) 0 : Nat)
  match cs with
  | '-' :: cs => -value cs
  | '+' :: cs => value cs
  | cs => value cs

/-- The number in a text without a sign. -/
def ofText (cs : List Char) : Decimal :=
  let (whole, rest) := cs.span Char.isDigit
  let d := pushWhole {} whole
  let (d, rest) := match rest with
    | '.' :: rest => (d.pushFraction (rest.takeWhile Char.isDigit), rest.dropWhile Char.isDigit)
    | rest => (d, rest)
  { d with exponent := d.exponent + exponentOf rest.tail }

/-- A power of ten. -/
def power (n : Nat) : Float := Float.ofScientific 1 false n

/-- Divides by a power of ten, in steps that can be represented. -/
def divide (f : Float) (n : Nat) : Float :=
  if n ≤ 308 then f / power n else if f == 0 then f else divide (f / power 308) (n - 308)
termination_by n

/-- The floating-point number for a number. -/
def toFloat (d : Decimal) : Float :=
  let f := (UInt64.ofNat d.digits).toFloat
  if d.digits = 0 then f
  else if 0 ≤ d.exponent then f * power (min d.exponent.toNat 309)
  else divide f d.exponent.natAbs

end Decimal

/-! ### Writing -/

/-- A positive floating-point number in exact terms: `mantissa` times a power of two. `narrow` tells
that the next smaller number is half as far away as the next larger one. -/
structure Binary where
  mantissa : Nat
  exponent : Int
  narrow : Bool
  deriving DecidableEq, Repr

namespace Binary

/-- The number with the given bits, without regard to its sign. -/
def ofBits (bits : UInt64) : Binary :=
  let fraction : Nat := bits.toNat % (1 <<< 52)
  let scale : Nat := (bits.toNat >>> 52) % (1 <<< 11)
  if scale = 0 then ⟨fraction, -1074, false⟩
  else ⟨fraction + 1 <<< 52, (scale : Int) - 1075, fraction = 0 ∧ 1 < scale⟩

/-- The bounds of what lies nearer to the number than to any other, and the number between them, in
quarters of the power of two. -/
def quarters (b : Binary) : Nat × Nat × Nat :=
  (4 * b.mantissa - if b.narrow then 1 else 2, 4 * b.mantissa, 4 * b.mantissa + 2)

/-- A multiple of `10 ^ p` that lies within the bounds, the one nearest to the number. The bounds
count as within if the mantissa is even. -/
def onGrid? (b : Binary) (p : Int) : Option Nat :=
  let (low, middle, high) := b.quarters
  let two := 1 <<< (b.exponent - 2).toNat
  let half := 1 <<< (2 - b.exponent).toNat
  let unit := Nat.pow 10 p.toNat * half
  let scale := two * Nat.pow 10 (-p).toNat
  let within (n : Nat) : Bool :=
    let v := n * unit
    if b.mantissa % 2 = 0 then low * scale ≤ v && v ≤ high * scale
    else low * scale < v && v < high * scale
  let below := middle * scale / unit
  let rest := 2 * (middle * scale % unit)
  let nearest := if rest < unit ∨ (rest = unit ∧ below % 2 = 0) then below else below + 1
  let other := if nearest = below then below + 1 else below
  if 0 < nearest ∧ within nearest then some nearest
  else if 0 < other ∧ within other then some other
  else none

/-- The digits and the power of ten of the shortest decimal: the coarsest grid of powers of ten
that has a point within the bounds gives the fewest digits. -/
def shortest (b : Binary) : Nat × Int :=
  ((List.range 640).findSome? fun (i : Nat) =>
    let p : Int := 310 - (i : Int)
    (b.onGrid? p).map (·, p)).getD (0, 0)

end Binary

/-- Digits with a point after `place` of them; far from the point an exponent is written. -/
def placePoint (digits : List Char) (place : Int) : List Char :=
  let count : Int := digits.length
  if count ≤ place ∧ place ≤ 16 then
    digits ++ List.replicate (place - count).toNat '0' ++ ['.', '0']
  else if 0 < place ∧ place ≤ 16 then
    digits.take place.toNat ++ '.' :: digits.drop place.toNat
  else if -5 < place ∧ place ≤ 0 then '0' :: '.' :: List.replicate place.natAbs '0' ++ digits
  else
    digits.take 1 ++ (if count = 1 then [] else '.' :: digits.drop 1) ++
      'e' :: (toString (place - 1)).toList

/-- A floating-point number as it is written. -/
def floatText (f : Float) : String :=
  let sign := if f.toBits >>> 63 = 0 then [] else ['-']
  let b := Binary.ofBits f.toBits
  if b.mantissa = 0 then String.ofList (sign ++ ['0', '.', '0'])
  else
    let (digits, exponent) := b.shortest
    let text := (toString digits).toList
    String.ofList (sign ++ placePoint text (exponent + text.length))

/-- A number with a fraction or exponent, or too large for an integer, in its shortest form. -/
def numberText (text : String) : String :=
  match text.toList with
  | '-' :: cs => floatText (-(Decimal.ofText cs).toFloat)
  | cs => floatText (Decimal.ofText cs).toFloat

end WebForms
