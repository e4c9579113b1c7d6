import Mathlib.Algebra.Group.Int.Defs
import Mathlib.Tactic.SplitIfs
import WebForms.Json.Reader

/-!
# Values are read back as they are written

A value is written without spaces, and every character of its text tells the reader what to do: the
first one says which kind of value begins, a bracket, a comma or a quote says where it ends. Only a
number ends where something follows that cannot belong to it, so each kind of value is shown to be
read back in front of any text that no number goes on with.

## Main definitions

* `Json.Written` — the values that have a text of their own
* `Json.characters` — the text of a value as a list of characters
* `Json.ReadsBack` — this text is read as the value, whatever follows

## Main results

* `Json.parse?_render` — a written value is read back
-/

namespace WebForms.Json

/-! ### Strings -/

/-- What an escaped character is read as: one without a letter of its own is a numeric escape. -/
def pieceOf (c : Char) : Piece :=
  if c.toNat < 32 ∧ c ∉ ['\x08', '\t', '\n', '\x0c', '\r'] then .unit c.toNat else .char c

/-- The characters of a string literal. -/
def literal (s : String) : List Char := '"' :: (s.toList.flatMap escapeChar ++ ['"'])

/-- The two digits of a control character stand for its code. -/
theorem hexUnit?_control {n : Nat} (h : n < 32) :
    hexUnit? '0' '0' (Text.lowerHexDigit (n / 16)) (Text.lowerHexDigit (n % 16)) = some n := by
  have high := Text.hexDigitValue?_lowerHexDigit (n := n / 16) (by omega)
  have low := Text.hexDigitValue?_lowerHexDigit (n := n % 16) (by omega)
  have zero : Text.hexDigitValue? '0' = some 0 := by decide
  simp only [hexUnit?, high, low, zero, Option.bind_eq_bind, Option.bind_some, Option.pure_def]
  congr 1
  omega

/-- A character that is not escaped is read as it is. -/
theorem readPieces_cons {c : Char} {cs : List Char} (quote : c ≠ '"') (backslash : c ≠ '\\')
    (control : 32 ≤ c.toNat) :
    readPieces (c :: cs) = (readPieces cs).map fun p => (.char c :: p.1, p.2) := by
  have other : ¬ (c = '\\' ∨ c.toNat < 32) := by
    rintro (rfl | below)
    · exact backslash rfl
    · omega
  rw [readPieces]
  · simp only [other, if_false]
    cases readPieces cs <;> rfl
  · exact quote
  · rintro _ _ _ _ _ rfl
    exact fun _ => backslash rfl
  · rintro _ _ rfl
    exact fun _ => backslash rfl

/-- An escaped character is read as its piece. -/
theorem readPieces_escapeChar (c : Char) (cs : List Char) :
    readPieces (escapeChar c ++ cs) = (readPieces cs).map fun p => (pieceOf c :: p.1, p.2) := by
  unfold escapeChar
  split_ifs with quote backslash b t n f r control
  -- The first seven characters have a letter of their own.
  iterate 7
    · subst c
      cases h : readPieces cs <;> simp [readPieces, escaped?, pieceOf, h]
  · have piece : pieceOf c = .unit c.toNat := if_pos ⟨control, by simp [b, t, n, f, r]⟩
    rw [piece]
    simp only [List.cons_append, List.nil_append, readPieces, hexUnit?_control control]
    cases readPieces cs <;> rfl
  · have piece : pieceOf c = .char c := if_neg fun h => control h.1
    rw [piece]
    exact readPieces_cons quote backslash (Nat.le_of_not_lt control)

/-- A numeric escape that is no surrogate stands for one character. -/
theorem joinPieces?_unit {n : Nat} (single : n < 0xD800 ∨ 0xE000 ≤ n) (ps : List Piece) :
    joinPieces? (.unit n :: ps) = (joinPieces? ps).map (Char.ofNat n :: ·) := by
  rw [joinPieces?.eq_def]
  exact if_pos single

/-- The pieces of an escaped text stand for the text. -/
theorem joinPieces?_map_pieceOf (cs : List Char) : joinPieces? (cs.map pieceOf) = some cs := by
  induction cs with
  | nil => rfl
  | cons c cs ih =>
    by_cases control : c.toNat < 32 ∧ c ∉ ['\x08', '\t', '\n', '\x0c', '\r']
    · -- A control character is no surrogate, so the piece stands for itself.
      have single : c.toNat < 0xD800 ∨ 0xE000 ≤ c.toNat := by omega
      rw [List.map_cons, pieceOf, if_pos control, joinPieces?_unit single, ih, Char.ofNat_toNat,
        Option.map_some]
    · rw [List.map_cons, pieceOf, if_neg control, joinPieces?, ih, Option.map_some]

theorem readPieces_escaped (cs rest : List Char) :
    readPieces (cs.flatMap escapeChar ++ '"' :: rest) = some (cs.map pieceOf, rest) := by
  induction cs with
  | nil => rfl
  | cons c cs ih =>
    rw [List.flatMap_cons, List.append_assoc, readPieces_escapeChar, ih]
    rfl

/-- A string literal is read back. -/
theorem readString_escaped (s : String) (rest : List Char) :
    readString (s.toList.flatMap escapeChar ++ '"' :: rest) = some (some s, rest) := by
  rw [readString, readPieces_escaped]
  simp [joinPieces?_map_pieceOf]

/-! ### Integers -/

/-- No number goes on with this text. -/
def Stops (rest : List Char) : Prop :=
  ∀ c ∈ rest.head?, c.isDigit = false ∧ c ≠ '.' ∧ c ≠ 'e' ∧ c ≠ 'E'

variable {rest : List Char}

/-- The digits in front of such a text are read as far as they go. -/
theorem readDigits_append {ds : List Char} (digits : ∀ d ∈ ds, d.isDigit = true) (some' : ds ≠ [])
    (h : Stops rest) : readDigits (ds ++ rest) = some (ds, rest) := by
  have stop : rest.takeWhile Char.isDigit = [] ∧ rest.dropWhile Char.isDigit = rest := by
    cases rest with
    | nil => exact ⟨rfl, rfl⟩
    | cons c rest =>
      have other : c.isDigit = false := (h c rfl).1
      simp [other]
  unfold readDigits
  rw [List.takeWhile_append_of_pos digits, List.dropWhile_append_of_pos digits, stop.1, stop.2,
    List.append_nil]
  cases ds with
  | nil => exact absurd rfl some'
  | cons d ds => rfl

theorem readFraction_of_stops (h : Stops rest) : readFraction rest = some ([], rest) := by
  unfold readFraction
  split
  · exact absurd rfl (h _ rfl).2.1
  · rfl

theorem readExponent_of_stops (h : Stops rest) : readExponent rest = some ([], rest) := by
  unfold readExponent
  split
  next c cs =>
    obtain ⟨-, -, lower, upper⟩ := h c rfl
    rw [if_neg (not_or.mpr ⟨lower, upper⟩)]
  · rfl

theorem decimal_toDigits (n : Nat) : decimal (Nat.toDigits 10 n) = n :=
  Nat.ofDigitChars_ten_toDigits

/-- Only zero is written with a zero in front. -/
theorem eq_zero_of_head?_toDigits {n : Nat} (h : (Nat.toDigits 10 n).head? = some '0') : n = 0 := by
  induction n using Nat.strongRecOn with
  | ind n ih =>
    by_cases small : n < 10
    · simpa [Nat.toDigits_of_lt_base small] using h
    · have nonempty : (Nat.toDigits 10 (n / 10)).head?.isSome = true := by
        simp [Nat.toDigits_ne_nil]
      rw [Nat.toDigits_of_base_le (by omega) (by omega), List.head?_append,
        Option.or_eq_left_of_isSome nonempty] at h
      have zero := ih (n / 10) (by omega) h
      omega

/-- The digits of a number are read as this number, with the sign that stands in front. -/
theorem readDigits_toDigits (n : Nat) (h : Stops rest) :
    readDigits (Nat.toDigits 10 n ++ rest) = some (Nat.toDigits 10 n, rest) ∧
      ¬ ((Nat.toDigits 10 n).head? = some '0' ∧ (Nat.toDigits 10 n).length ≠ 1) := by
  constructor
  · exact readDigits_append
      (fun d hd => Nat.isDigit_of_mem_toDigits (by omega) (by omega) hd) Nat.toDigits_ne_nil h
  · rintro ⟨zero, long⟩
    obtain rfl := eq_zero_of_head?_toDigits zero
    exact long rfl

/-- A natural number is read behind the sign that stands in front of it. -/
theorem readNumber_digits (n : Nat) (h : Stops rest) :
    readNumber (Nat.toDigits 10 n ++ rest) =
        some (integer false (Nat.toDigits 10 n), rest) ∧
      readNumber ('-' :: (Nat.toDigits 10 n ++ rest)) =
        some (integer true (Nat.toDigits 10 n), rest) := by
  obtain ⟨digits, front⟩ := readDigits_toDigits n h
  constructor
  · have unsigned : ∀ cs, Nat.toDigits 10 n ++ rest ≠ '-' :: cs := by
      intro cs signed
      cases split : Nat.toDigits 10 n with
      | nil => exact Nat.toDigits_ne_nil split
      | cons d ds =>
        have digit : d.isDigit = true :=
          Nat.isDigit_of_mem_toDigits (b := 10) (n := n) (by omega) (by omega) (by simp [split])
        rw [split] at signed
        obtain ⟨rfl, -⟩ := List.cons.inj signed
        exact absurd digit (by decide)
    unfold readNumber
    split
    next negative cs sign =>
      split at sign
      next signed => exact absurd signed (unsigned _)
      next =>
        obtain ⟨rfl, rfl⟩ := Prod.mk.inj sign
        simp [digits, front, readFraction_of_stops h, readExponent_of_stops h]
  · simp [readNumber, digits, front, readFraction_of_stops h, readExponent_of_stops h]

/-- An integer that a 64-bit word can hold is read back. -/
theorem readNumber_toString {n : Int} (low : -(2 ^ 63) ≤ n) (high : n < 2 ^ 64) (h : Stops rest) :
    readNumber ((toString n).toList ++ rest) = some (.int n, rest) := by
  cases n with
  | ofNat m =>
    have text : (toString (Int.ofNat m)).toList = Nat.toDigits 10 m := Nat.toList_repr
    have bound : m < UInt64.size := by
      have size : UInt64.size = 2 ^ 64 := rfl
      rw [Int.ofNat_eq_natCast] at high
      omega
    rw [text, (readNumber_digits m h).1]
    simp [integer, decimal_toDigits, bound]
  | negSucc m =>
    have text : (toString (Int.negSucc m)).toList = '-' :: Nat.toDigits 10 (m + 1) := by
      rw [Int.toString_eq_repr, Int.repr, String.toList_append, Nat.toList_repr]
      rfl
    have bound : ¬ (m + 1 = 0 ∨ 1 <<< 63 < m + 1) := by
      have size : 1 <<< 63 = 2 ^ 63 := rfl
      omega
    rw [text, List.cons_append, (readNumber_digits (m + 1) h).2, integer]
    simp only [decimal_toDigits, if_true, if_neg bound]
    rfl

/-! ### The text of a value -/

/-- Values that have a text of their own: all but numbers that are no 64-bit integers. -/
inductive Written : Json → Prop
  | null : Written .null
  | bool (b : Bool) : Written (.bool b)
  | int {n : Int} (low : -(2 ^ 63) ≤ n) (high : n < 2 ^ 64) : Written (.int n)
  | str (s : String) : Written (.str s)
  | arr {items : List Json} (h : ∀ v ∈ items, Written v) : Written (.arr items)
  | obj {members : List (String × Json)} (h : ∀ m ∈ members, Written m.2) : Written (.obj members)

mutual

/-- The characters of the text of a value. -/
def characters : Json → List Char
  | .null => "null".toList
  | .unreadable => "null".toList
  | .bool true => "true".toList
  | .bool false => "false".toList
  | .int n => (toString n).toList
  | .number text => text.toList
  | .str s => literal s
  | .arr [] => ['[', ']']
  | .arr (v :: vs) => '[' :: (v.characters ++ itemCharacters vs)
  | .obj [] => ['\x7b', '\x7d']
  | .obj ((name, v) :: ms) =>
    '\x7b' :: (literal name ++ ':' :: (v.characters ++ memberCharacters ms))

/-- The further items of an array, with its closing bracket. -/
def itemCharacters : List Json → List Char
  | [] => [']']
  | v :: vs => ',' :: (v.characters ++ itemCharacters vs)

/-- The further members of an object, with its closing brace. -/
def memberCharacters : List (String × Json) → List Char
  | [] => ['\x7d']
  | (name, v) :: ms => ',' :: (literal name ++ ':' :: (v.characters ++ memberCharacters ms))

end

theorem toList_foldl_push (out : String) (cs : List Char) :
    (cs.foldl String.push out).toList = out.toList ++ cs := by
  induction cs generalizing out with
  | nil => simp
  | cons c cs ih => simp [ih]

theorem toList_writeChars (out : String) (cs : List Char) :
    (writeChars out cs).toList = out.toList ++ cs.flatMap escapeChar := by
  unfold writeChars
  induction cs generalizing out with
  | nil => simp
  | cons c cs ih =>
    rw [List.foldl_cons, ih, toList_foldl_push, List.flatMap_cons, List.append_assoc]

theorem toList_writeString (out s : String) :
    (writeString out s).toList = out.toList ++ literal s := by
  simp [writeString, toList_writeChars, literal]

mutual

/-- Writing a value appends its characters. -/
theorem toList_write (out : String) : (v : Json) →
    (write out v).toList = out.toList ++ v.characters
  | .null | .unreadable | .bool true | .bool false | .int n | .number text => by
    simp [write, characters]
  | .str s => by rw [write, characters, toList_writeString]
  | .arr [] => by simp [write, characters]
  | .arr (v :: vs) => by
    rw [write, characters, String.toList_push, toList_writeItems _ vs, toList_write _ v]
    simp
  | .obj [] => by simp [write, characters]
  | .obj ((name, v) :: ms) => by
    rw [write, characters, String.toList_push, toList_writeMembers _ ms, toList_write _ v]
    simp [toList_writeString]

theorem toList_writeItems (out : String) : (vs : List Json) →
    (writeItems out vs).toList ++ [']'] = out.toList ++ itemCharacters vs
  | [] => by simp [writeItems, itemCharacters]
  | v :: vs => by
    rw [writeItems, itemCharacters, toList_writeItems _ vs, toList_write _ v]
    simp

theorem toList_writeMembers (out : String) : (ms : List (String × Json)) →
    (writeMembers out ms).toList ++ ['\x7d'] = out.toList ++ memberCharacters ms
  | [] => by simp [writeMembers, memberCharacters]
  | (name, v) :: ms => by
    rw [writeMembers, memberCharacters, toList_writeMembers _ ms, toList_write _ v]
    simp [toList_writeString]

end

theorem toList_render (v : Json) : v.render.toList = v.characters := by
  rw [render, toList_write]
  simp

/-! ### Reading it -/

/-- The value is read off its characters, when the fuel is no less than their number. -/
def ReadsBack (v : Json) : Prop :=
  ∀ (fuel : Nat) (rest : List Char), Stops rest → v.characters.length ≤ fuel →
    readValue fuel (v.characters ++ rest) = some (v, rest)

theorem skipSpace_cons {c : Char} (h : isSpace c = false) (cs : List Char) :
    skipSpace (c :: cs) = c :: cs :=
  List.dropWhile_cons_of_neg (by simp [h])

/-- An integer begins with a sign or a digit. -/
theorem exists_toList_toString (n : Int) :
    ∃ c cs, (toString n).toList = c :: cs ∧ (c = '-' ∨ c.isDigit = true) := by
  cases n with
  | ofNat m =>
    have text : (toString (Int.ofNat m)).toList = Nat.toDigits 10 m := Nat.toList_repr
    cases split : Nat.toDigits 10 m with
    | nil => exact absurd split Nat.toDigits_ne_nil
    | cons d ds =>
      have digit : d.isDigit = true :=
        Nat.isDigit_of_mem_toDigits (b := 10) (n := m) (by omega) (by omega) (by simp [split])
      exact ⟨d, ds, text.trans split, .inr digit⟩
  | negSucc m =>
    refine ⟨'-', Nat.toDigits 10 (m + 1), ?_, .inl rfl⟩
    rw [Int.toString_eq_repr, Int.repr, String.toList_append, Nat.toList_repr]
    rfl

/-- A sign or a digit is no space and begins nothing but a number. -/
theorem ne_of_sign_or_digit {c d : Char} (h : c = '-' ∨ c.isDigit = true) (sign : d ≠ '-')
    (digit : d.isDigit = false) : c ≠ d := by
  rintro rfl
  rcases h with minus | number
  · exact sign minus
  · rw [digit] at number
    exact absurd number (by decide)

/-- A value begins with neither space nor a closing bracket. -/
theorem exists_characters {v : Json} (h : v.Written) :
    ∃ c cs, v.characters = c :: cs ∧ isSpace c = false ∧ c ≠ ']' := by
  cases h with
  | null => exact ⟨'n', _, rfl, rfl, by decide⟩
  | bool b => cases b <;> exact ⟨_, _, rfl, rfl, by decide⟩
  | int =>
    obtain ⟨c, cs, text, begins⟩ := exists_toList_toString _
    refine ⟨c, cs, text, ?_, ne_of_sign_or_digit begins (by decide) (by decide)⟩
    have other (d : Char) (sign : d ≠ '-') (digit : d.isDigit = false) : (c == d) = false :=
      beq_eq_false_iff_ne.mpr (ne_of_sign_or_digit begins sign digit)
    rw [isSpace, other ' ' (by decide) (by decide), other '\n' (by decide) (by decide),
      other '\t' (by decide) (by decide), other '\r' (by decide) (by decide)]
    rfl
  | str => exact ⟨'"', _, rfl, rfl, by decide⟩
  | @arr items => cases items <;> exact ⟨'[', _, rfl, rfl, by decide⟩
  | @obj members => cases members <;> exact ⟨'\x7b', _, rfl, rfl, by decide⟩

/-- What begins with a sign or a digit is read as a number. -/
theorem readValue_number {c : Char} {cs : List Char} (h : c = '-' ∨ c.isDigit = true)
    (space : isSpace c = false) (fuel : Nat) :
    readValue (fuel + 1) (c :: cs) = readNumber (c :: cs) := by
  have other (d : Char) (sign : d ≠ '-') (digit : d.isDigit = false) : c ≠ d :=
    ne_of_sign_or_digit h sign digit
  rw [readValue, skipSpace_cons space]
  split
  next eq => exact absurd (List.cons.inj eq).1 (other 'n' (by decide) (by decide))
  next eq => exact absurd (List.cons.inj eq).1 (other 't' (by decide) (by decide))
  next eq => exact absurd (List.cons.inj eq).1 (other 'f' (by decide) (by decide))
  next eq => exact absurd (List.cons.inj eq).1 (other '"' (by decide) (by decide))
  next eq => exact absurd (List.cons.inj eq).1 (other '[' (by decide) (by decide))
  next eq => exact absurd (List.cons.inj eq).1 (other '\x7b' (by decide) (by decide))
  next => rfl

theorem stops_cons {c : Char} {cs : List Char}
    (h : c.isDigit = false ∧ c ≠ '.' ∧ c ≠ 'e' ∧ c ≠ 'E') : Stops (c :: cs) := by
  rintro _ ⟨⟩
  exact h

/-- What stands behind an item of an array is no part of it. -/
theorem stops_itemCharacters (vs : List Json) (rest : List Char) :
    Stops (itemCharacters vs ++ rest) := by
  cases vs with
  | nil => exact stops_cons (by decide)
  | cons v vs => exact stops_cons (by decide)

theorem stops_memberCharacters (ms : List (String × Json)) (rest : List Char) :
    Stops (memberCharacters ms ++ rest) := by
  cases ms with
  | nil => exact stops_cons (by decide)
  | cons m ms => exact stops_cons (by decide)

/-- The items of an array are read one after the other, up to its closing bracket. -/
theorem readItems_characters {v : Json} {vs : List Json} (h : ∀ w ∈ v :: vs, w.ReadsBack)
    {fuel : Nat} (enough : v.characters.length + (itemCharacters vs).length ≤ fuel) :
    readItems fuel (v.characters ++ (itemCharacters vs ++ rest)) = some (v :: vs, rest) := by
  induction vs generalizing v fuel with
  | nil =>
    simp only [itemCharacters, List.length_cons, List.length_nil] at enough
    obtain ⟨fuel, rfl⟩ : ∃ n, fuel = n + 1 := ⟨fuel - 1, by omega⟩
    have first := h v List.mem_cons_self fuel _ (stops_itemCharacters [] rest) (by omega)
    rw [readItems, first]
    rfl
  | cons w ws ih =>
    simp only [itemCharacters, List.length_cons, List.length_append] at enough
    obtain ⟨fuel, rfl⟩ : ∃ n, fuel = n + 1 := ⟨fuel - 1, by omega⟩
    have first := h v List.mem_cons_self fuel _ (stops_itemCharacters (w :: ws) rest) (by omega)
    have enough' : w.characters.length + (itemCharacters ws).length ≤ fuel := by omega
    have others := ih (fun u hu => h u (List.mem_cons_of_mem v hu)) enough'
    rw [readItems, first]
    simp only [itemCharacters, List.cons_append, List.append_assoc, Option.bind_eq_bind,
      Option.bind_some, skipSpace_cons (c := ',') rfl, others]
    rfl

/-- The members of an object are read one after the other, up to its closing brace. -/
theorem readMembers_characters {name : String} {v : Json} {ms : List (String × Json)}
    (h : ∀ m ∈ (name, v) :: ms, m.2.ReadsBack) {fuel : Nat}
    (enough : v.characters.length + (memberCharacters ms).length < fuel) :
    readMembers fuel (literal name ++ ':' :: (v.characters ++ (memberCharacters ms ++ rest))) =
      some (((name, v) :: ms).map fun m => (some m.1, m.2), rest) := by
  induction ms generalizing name v fuel with
  | nil =>
    simp only [memberCharacters, List.length_cons, List.length_nil] at enough
    obtain ⟨fuel, rfl⟩ : ∃ n, fuel = n + 1 := ⟨fuel - 1, by omega⟩
    have reads : v.ReadsBack := h (name, v) List.mem_cons_self
    have first := reads fuel _ (stops_memberCharacters [] rest) (by omega)
    rw [readMembers, literal, List.cons_append, skipSpace_cons (c := '"') rfl]
    simp only [List.append_assoc, List.cons_append, List.nil_append, readString_escaped,
      Option.bind_eq_bind, Option.bind_some, skipSpace_cons (c := ':') rfl, first]
    rfl
  | cons m ms ih =>
    obtain ⟨name', w⟩ := m
    simp only [memberCharacters, List.length_cons, List.length_append] at enough
    obtain ⟨fuel, rfl⟩ : ∃ n, fuel = n + 1 := ⟨fuel - 1, by omega⟩
    have reads : v.ReadsBack := h (name, v) List.mem_cons_self
    have first := reads fuel _ (stops_memberCharacters ((name', w) :: ms) rest) (by omega)
    have enough' : w.characters.length + (memberCharacters ms).length < fuel := by omega
    have others := ih (fun u hu => h u (List.mem_cons_of_mem _ hu)) enough'
    rw [readMembers, literal, List.cons_append, skipSpace_cons (c := '"') rfl]
    simp only [List.append_assoc, List.cons_append, List.nil_append, readString_escaped,
      Option.bind_eq_bind, Option.bind_some, skipSpace_cons (c := ':') rfl, first]
    simp only [memberCharacters, List.cons_append, List.append_assoc,
      skipSpace_cons (c := ',') rfl, others]
    rfl

/-- Members with readable names make an object. -/
theorem ofMembers_map_some (ms : List (String × Json)) :
    ofMembers (ms.map fun m => (some m.1, m.2)) = .obj ms := by
  have all : (ms.map fun m => ((some m.1 : Option String), m.2)).mapM
      (fun m => m.1.map (·, m.2)) = some ms := by
    induction ms with
    | nil => rfl
    | cons m ms ih => simp [List.mapM_cons, ih]
  unfold ofMembers
  rw [all]

/-- No value is read without fuel, and none has an empty text. -/
theorem ReadsBack.of_succ {v : Json} (written : v.Written)
    (h : ∀ fuel rest, Stops rest → v.characters.length ≤ fuel + 1 →
      readValue (fuel + 1) (v.characters ++ rest) = some (v, rest)) : v.ReadsBack := by
  intro fuel rest stops enough
  obtain ⟨c, cs, text, -⟩ := exists_characters written
  have pos : 0 < fuel := by
    rw [text, List.length_cons] at enough
    omega
  obtain ⟨fuel, rfl⟩ : ∃ n, fuel = n + 1 := ⟨fuel - 1, by omega⟩
  exact h fuel rest stops enough

/-- The text of a value is read as this value, whatever follows. -/
theorem Written.readsBack {v : Json} (h : v.Written) : v.ReadsBack := by
  induction h with
  | null => exact .of_succ .null fun fuel rest _ _ => rfl
  | bool b =>
    refine .of_succ (.bool b) fun fuel rest _ _ => ?_
    cases b with
    | false => rfl
    | true => rfl
  | str s =>
    refine .of_succ (.str s) fun fuel rest _ _ => ?_
    rw [readValue, characters, literal, List.cons_append, skipSpace_cons (c := '"') rfl]
    simp [readString_escaped]
  | @int n low high =>
    refine .of_succ (.int low high) fun fuel rest stops _ => ?_
    obtain ⟨c, cs, text, space, -⟩ := exists_characters (.int low high)
    obtain ⟨d, ds, text', begins⟩ := exists_toList_toString n
    obtain ⟨rfl, rfl⟩ := List.cons.inj (text.symm.trans text')
    have read := readNumber_toString low high stops
    rw [text', List.cons_append] at read
    rw [text, List.cons_append, readValue_number begins space, read]
  | @arr items h ih =>
    refine .of_succ (.arr h) fun fuel rest _ enough => ?_
    cases items with
    | nil => rfl
    | cons v vs =>
      -- The first item begins with no bracket, so the array is not taken for an empty one.
      obtain ⟨c, cs, text, space, other⟩ := exists_characters (h v List.mem_cons_self)
      simp only [characters, List.length_cons, List.length_append] at enough
      have enough' : v.characters.length + (itemCharacters vs).length ≤ fuel := by omega
      have items : readItems fuel (v.characters ++ (itemCharacters vs ++ rest)) =
          some (v :: vs, rest) := readItems_characters ih enough'
      rw [text, List.cons_append] at items
      rw [characters, text, readValue]
      simp only [List.cons_append, List.append_assoc, skipSpace_cons (c := '[') rfl]
      rw [skipSpace_cons space]
      split
      next eq => exact absurd (List.cons.inj eq).1 other
      next =>
        rw [items]
        rfl
  | @obj members h ih =>
    refine .of_succ (.obj h) fun fuel rest _ enough => ?_
    cases members with
    | nil => rfl
    | cons m ms =>
      obtain ⟨name, v⟩ := m
      simp only [characters, literal, List.length_cons, List.length_append] at enough
      have enough' : v.characters.length + (memberCharacters ms).length < fuel := by omega
      have members : readMembers fuel (literal name ++ ':' :: (v.characters ++
          (memberCharacters ms ++ rest))) =
            some (((name, v) :: ms).map fun m => (some m.1, m.2), rest) :=
        readMembers_characters ih enough'
      rw [literal, List.cons_append] at members
      rw [characters, literal, readValue]
      simp only [List.cons_append, List.append_assoc, skipSpace_cons (c := '\x7b') rfl,
        skipSpace_cons (c := '"') rfl] at members ⊢
      split
      next eq => exact absurd (List.cons.inj eq).1 (by decide)
      next =>
        rw [members]
        exact congrArg (fun object => some (object, rest)) (ofMembers_map_some _)

/-- A written value is read back from its text. -/
theorem parse?_render {v : Json} (h : v.Written) : parse? v.render = some v := by
  have read := h.readsBack (v.characters.length + 1) [] nofun (by omega)
  rw [List.append_nil] at read
  rw [parse?, toList_render]
  simp only [read]
  rfl

end WebForms.Json
