import WebForms.Text.Split

/-!
# Punycode

A label with characters beyond ASCII is written in ASCII: first its ASCII characters, then, for
every other character in the order of the code points, how many steps a count over code points and
places makes before it reaches the character. A number of steps is written in digits to base 36,
lowest first, with thresholds that tell which digit is the last; they follow a bias that adapts to
the numbers written so far.

## Main definitions

* `encode` — the written form of a label
* `decode?` — the label of a written form
-/

namespace WebForms.Punycode

/-! ### Digits -/

/-- The digit of value `d < 36`. -/
def digit (d : Nat) : Char := Char.ofNat (if d < 26 then 97 + d else 22 + d)

/-- The value of a digit in either case. -/
def digitValue? (c : Char) : Option Nat :=
  if 'a' ≤ c ∧ c ≤ 'z' then some (c.toNat - 97)
  else if 'A' ≤ c ∧ c ≤ 'Z' then some (c.toNat - 65)
  else if c.isDigit then some (c.toNat - 22)
  else none

/-- Below which value the digit at the place `k` is the last one. -/
def threshold (bias k : Nat) : Nat := max 1 (min 26 (k - bias))

theorem threshold_pos (bias k : Nat) : 1 ≤ threshold bias k := by
  simp only [threshold]
  omega

/-! ### Numbers of steps -/

/-- Halves a number of steps by 35 until it is small, and counts the places passed from `k` on. -/
def shrink (delta k : Nat) : Nat × Nat :=
  if 455 < delta then shrink (delta / 35) (k + 36) else (delta, k)
termination_by delta

/-- The bias after a number of steps that leads to the `count`-th character. -/
def nextBias (delta count : Nat) (first : Bool) : Nat :=
  let delta := if first then delta / 700 else delta / 2
  let (delta, k) := shrink (delta + delta / count) 0
  k + 36 * delta / (delta + 38)

/-- The digits of a number of steps from the place `k` on. -/
def encodeDelta (bias k delta : Nat) : List Char :=
  let t := threshold bias k
  if delta < t then [digit delta]
  else digit (t + (delta - t) % (36 - t)) :: encodeDelta bias (k + 36) ((delta - t) / (36 - t))
termination_by delta
decreasing_by
  have h := threshold_pos bias k
  exact Nat.lt_of_le_of_lt (Nat.div_le_self _ _) (by omega)

/-- The number of steps in the digits from the place `k` on, each unit of which counts `weight`,
and what follows them. -/
def decodeDelta? (bias k weight : Nat) : List Char → Option (Nat × List Char)
  | [] => none
  | c :: cs =>
    match digitValue? c with
    | none => none
    | some d =>
      let t := threshold bias k
      if d < t then some (d * weight, cs)
      else (decodeDelta? bias (k + 36) (weight * (36 - t)) cs).map fun (n, rest) =>
        (d * weight + n, rest)

/-- Reading a number of steps takes at least one digit. -/
theorem length_lt_of_decodeDelta? {bias : Nat} {cs : List Char} {k weight : Nat}
    {r : Nat × List Char} (h : decodeDelta? bias k weight cs = some r) :
    r.2.length < cs.length := by
  induction cs generalizing k weight r with
  | nil => simp [decodeDelta?] at h
  | cons c cs ih =>
    simp only [decodeDelta?] at h
    split at h
    · simp at h
    · split at h
      · cases h; simp
      · obtain ⟨s, hs, rfl⟩ := Option.map_eq_some_iff.1 h
        have := ih hs
        simp only [List.length_cons]
        omega

/-! ### Writing a label -/

/-- How far a label has been written. -/
structure Encoder where
  written : List Char
  /-- The steps since the last character. -/
  delta : Nat := 0
  bias : Nat := 72
  /-- The number of characters that have been written. -/
  count : Nat

/-- Passes one character of the label on the round for the code point `n`. -/
def Encoder.pass (basic n : Nat) (e : Encoder) (c : Char) : Encoder :=
  if c.toNat < n then { e with delta := e.delta + 1 }
  else if c.toNat = n then {
    written := e.written ++ encodeDelta e.bias 36 e.delta
    bias := nextBias e.delta (e.count + 1) (e.count == basic)
    count := e.count + 1 }
  else e

/-- One round for each of the code points, the first of which is no less than `n`. -/
def Encoder.rounds (label : List Char) (basic : Nat) (e : Encoder) (n : Nat) :
    List Nat → Encoder
  | [] => e
  | m :: ms =>
    let e := { e with delta := e.delta + (m - n) * (e.count + 1) }
    let e := label.foldl (·.pass basic m) e
    Encoder.rounds label basic { e with delta := e.delta + 1 } (m + 1) ms

/-- The written form of a label. -/
def encode (label : List Char) : List Char :=
  let basic := label.filter (·.toNat < 128)
  let others := ((label.map Char.toNat).filter (128 ≤ ·)).eraseDups.mergeSort
  let front := if basic.isEmpty then [] else basic ++ ['-']
  (Encoder.rounds label basic.length { written := front, count := basic.length } 128 others).written

/-! ### Reading a label -/

/-- Inserts the characters that the digits stand for into `label`; the count has reached the code
point `n` and the place `i`. -/
def insertAll? (bias n i : Nat) (label digits : List Char) : Option (List Char) :=
  match digits with
  | [] => some label
  | d :: ds =>
    match h : decodeDelta? bias 36 1 (d :: ds) with
    | none => none
    | some (delta, rest) =>
      let count := label.length + 1
      let m := n + (i + delta) / count
      let place := (i + delta) % count
      if m.isValidChar then
        insertAll? (nextBias delta count (i == 0)) m (place + 1)
          (label.insertIdx place (Char.ofNat m)) rest
      else none
termination_by digits.length
decreasing_by
  have := length_lt_of_decodeDelta? h
  simpa using this

/-- The label of a written form: what stands in front of the last hyphen are its ASCII
characters, of which there has to be one. -/
def decode? (cs : List Char) : Option (List Char) :=
  match Text.splitLast? (· == '-') cs with
  | some (basic, digits) =>
    if !basic.isEmpty && basic.all (·.toNat < 128) then insertAll? 72 128 0 basic digits else none
  | none => insertAll? 72 128 0 [] cs

end WebForms.Punycode
