/-!
# Hexadecimal digits

## Main definitions

* `hexDigitValue?`, `hexNumber` — the value of a digit in either case, of a row of digits
* `lowerHexDigit`, `upperHexDigit` — the digit of a value
* `lowerHex` — the shortest row of digits of a value
-/

namespace WebForms.Text

/-- The value of a hexadecimal digit in either case. -/
def hexDigitValue? (c : Char) : Option Nat :=
  if c.isDigit then some (c.toNat - 48)
  else if 'a' ≤ c ∧ c ≤ 'f' then some (c.toNat - 87)
  else if 'A' ≤ c ∧ c ≤ 'F' then some (c.toNat - 55)
  else none

/-- The value of a row of hexadecimal digits. -/
def hexNumber (digits : List Char) : Nat :=
  digits.foldl (fun n d => 16 * n + (hexDigitValue? d).getD 0) 0

/-- The digit of value `n < 16`, in lower case. -/
def lowerHexDigit (n : Nat) : Char :=
  Char.ofNat (if n < 10 then 48 + n else 87 + n)

/-- The digit of value `n < 16`, in upper case. -/
def upperHexDigit (n : Nat) : Char :=
  Char.ofNat (if n < 10 then 48 + n else 55 + n)

/-- The shortest row of digits of value `n`, in lower case. -/
def lowerHex (n : Nat) : List Char :=
  if n < 16 then [lowerHexDigit n] else lowerHex (n / 16) ++ [lowerHexDigit (n % 16)]
termination_by n

theorem hexDigitValue?_lowerHexDigit {n : Nat} (h : n < 16) :
    hexDigitValue? (lowerHexDigit n) = some n := by
  revert n
  decide

end WebForms.Text
