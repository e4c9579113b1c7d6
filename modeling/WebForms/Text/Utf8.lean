/-!
# Reading UTF-8

Bytes that are no UTF-8 are read all the same: every longest beginning of a sequence that does not
go on, and every byte that begins none, is read as the replacement character.

## Main definitions

* `decodeUtf8` — the characters that bytes stand for
-/

namespace WebForms.Text

/-- What stands for bytes that are no UTF-8. -/
def replacement : Char := '\uFFFD'

/-- A sequence that has begun: how many bytes are missing, the range of the next one, and the value
so far. -/
structure ByteSequence where
  missing : Nat
  low : Nat
  high : Nat
  value : Nat

/-- A sequence with `missing` further bytes, the next one of any value. -/
def ByteSequence.plain (missing value : Nat) : ByteSequence := ⟨missing, 0x80, 0xBF, value⟩

/-- The sequence that a byte begins; overlong forms, surrogates and values beyond the last code
point are kept out by the range of the second byte. -/
def ByteSequence.begin? (b : Nat) : Option ByteSequence :=
  if 0xC2 ≤ b ∧ b ≤ 0xDF then some (plain 1 (b - 0xC0))
  else if b = 0xE0 then some ⟨2, 0xA0, 0xBF, 0⟩
  else if b = 0xED then some ⟨2, 0x80, 0x9F, 0xD⟩
  else if 0xE1 ≤ b ∧ b ≤ 0xEF then some (plain 2 (b - 0xE0))
  else if b = 0xF0 then some ⟨3, 0x90, 0xBF, 0⟩
  else if 0xF1 ≤ b ∧ b ≤ 0xF3 then some (plain 3 (b - 0xF0))
  else if b = 0xF4 then some ⟨3, 0x80, 0x8F, 4⟩
  else none

/-- The characters of `bytes` behind a sequence that may have begun. -/
def decodeUtf8From (open? : Option ByteSequence) : List UInt8 → List Char
  | [] => if open?.isSome then [replacement] else []
  | byte :: bytes =>
    let b := byte.toNat
    let fresh (lost : List Char) : List Char :=
      if b < 0x80 then lost ++ Char.ofNat b :: decodeUtf8From none bytes
      else match ByteSequence.begin? b with
        | some s => lost ++ decodeUtf8From (some s) bytes
        | none => lost ++ replacement :: decodeUtf8From none bytes
    match open? with
    | none => fresh []
    | some s =>
      if s.low ≤ b ∧ b ≤ s.high then
        let value := 64 * s.value + b % 64
        if s.missing = 1 then Char.ofNat value :: decodeUtf8From none bytes
        else decodeUtf8From (some (.plain (s.missing - 1) value)) bytes
      else fresh [replacement]

/-- The characters that bytes stand for. -/
def decodeUtf8 (bytes : List UInt8) : List Char := decodeUtf8From none bytes

end WebForms.Text
