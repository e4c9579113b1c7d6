import Mathlib.Data.List.Infix
import WebForms.Proofs.Code.InsertionSlices

/-!
# Counting braces

In a language with braces, the body of a class begins with the first brace behind its declaration
and ends with the brace that closes it. Braces are counted to find it: those of a text that is
balanced cancel out, so that the first one that is left over closes what was open in front. From the
brace that closes the body, the place for a new member moves back to the start of the line if the
brace is the first thing in it.

## Main definitions

* `Closes`, `Balanced` — texts by the groups that their braces open and close

## Main results

* `bodyEnd?_eq_some_iff` — the body of a class by count
* `exists_blankLineStart_eq` — the place in the line of a brace
* `Language.insertionOffset?_cSharp_eq_some_iff` — the place for a new member in parts of the source
-/

namespace WebForms

open Text

/-! ### Texts -/

/-- The text closes the groups that it opens, and `depth` groups that are open in front of it. -/
def Closes (depth : Nat) (cs : List Char) : Prop :=
  (∀ front, front <+: cs → front.count '\x7d' ≤ depth + front.count '\x7b') ∧
    cs.count '\x7d' = depth + cs.count '\x7b'

instance (depth : Nat) (cs : List Char) : Decidable (Closes depth cs) :=
  decidable_of_iff
    ((∀ front ∈ cs.inits, front.count '\x7d' ≤ depth + front.count '\x7b') ∧
      cs.count '\x7d' = depth + cs.count '\x7b')
    (by simp only [List.mem_inits, Closes])

/-- The text opens groups and closes them again, and closes no other. -/
def Balanced (cs : List Char) : Prop := Closes 0 cs

instance : DecidablePred Balanced := fun cs => inferInstanceAs (Decidable (Closes 0 cs))

section

variable {depth index start i stop : Nat} {c : Char} {cs ds front back : List Char}

@[simp] theorem closes_nil_iff : Closes depth [] ↔ depth = 0 := by
  simp [Closes, eq_comm]

/-- The first character of a text counts for all its beginnings but the empty one. -/
theorem closes_cons_iff :
    Closes depth (c :: cs) ↔
      (∀ front, front <+: cs →
        (c :: front).count '\x7d' ≤ depth + (c :: front).count '\x7b') ∧
        (c :: cs).count '\x7d' = depth + (c :: cs).count '\x7b' := by
  refine and_congr_left fun _ => ⟨fun h front within => h _ ?_, fun h front within => ?_⟩
  · exact List.cons_prefix_cons.mpr ⟨rfl, within⟩
  · obtain rfl | ⟨rest, rfl, behind⟩ := List.prefix_cons_iff.mp within
    · exact Nat.zero_le _
    · exact h rest behind

theorem closes_open_iff : Closes depth ('\x7b' :: cs) ↔ Closes (depth + 1) cs := by
  rw [closes_cons_iff]
  simp [Closes, Nat.add_right_comm, Nat.add_assoc]

theorem closes_close_iff :
    Closes depth ('\x7d' :: cs) ↔ ∃ outer, depth = outer + 1 ∧ Closes outer cs := by
  have opens (front : List Char) : ('\x7d' :: front).count '\x7b' = front.count '\x7b' :=
    List.count_cons_of_ne (by decide)
  rw [closes_cons_iff]
  simp only [List.count_cons_self, opens]
  constructor
  · rintro ⟨enough, all⟩
    -- The brace itself has a group to close.
    have first : 0 + 1 ≤ depth + 0 := enough [] List.nil_prefix
    obtain ⟨outer, rfl⟩ : ∃ outer, depth = outer + 1 := ⟨depth - 1, by omega⟩
    refine ⟨outer, rfl, fun front within => ?_, by omega⟩
    have := enough front within
    omega
  · rintro ⟨outer, rfl, enough, all⟩
    refine ⟨fun front within => ?_, by omega⟩
    have := enough front within
    omega

theorem closes_other_iff (opens : c ≠ '\x7b') (closes : c ≠ '\x7d') :
    Closes depth (c :: cs) ↔ Closes depth cs := by
  rw [closes_cons_iff]
  simp [Closes, opens, closes]

/-- What is balanced without braces at its end is balanced. -/
theorem Balanced.of_append (h : Balanced (cs ++ ds)) (opens : '\x7b' ∉ ds) (closes : '\x7d' ∉ ds) :
    Balanced cs := by
  obtain ⟨enough, all⟩ := h
  refine ⟨fun front within => enough front (within.trans (List.prefix_append cs ds)), ?_⟩
  rwa [List.count_append, List.count_append, List.count_eq_zero_of_not_mem opens,
    List.count_eq_zero_of_not_mem closes] at all

/-- A balanced text in front makes no difference. -/
theorem Balanced.closes_append_iff (h : Balanced cs) :
    Closes depth (cs ++ ds) ↔ Closes depth ds := by
  obtain ⟨enough, all⟩ := h
  have counts (front : List Char) :
      (cs ++ front).count '\x7d' ≤ depth + (cs ++ front).count '\x7b' ↔
        front.count '\x7d' ≤ depth + front.count '\x7b' := by
    simp only [List.count_append]
    omega
  have total : (cs ++ ds).count '\x7d' = depth + (cs ++ ds).count '\x7b' ↔
      ds.count '\x7d' = depth + ds.count '\x7b' := by
    simp only [List.count_append]
    omega
  rw [Closes, Closes, total]
  refine and_congr_left fun _ => ⟨fun enough' front within => ?_, fun enough' front within => ?_⟩
  · exact (counts front).mp (enough' _ ((List.prefix_append_right_inj cs).mpr within))
  · obtain inside | ⟨rest, rfl⟩ :=
      List.prefix_or_prefix_of_prefix within (List.prefix_append cs ds)
    · have := enough front inside
      omega
    · exact (counts rest).mpr (enough' rest ((List.prefix_append_right_inj cs).mp within))

/-! ### The body of a class -/

/-- Behind the first character of a text, its other characters are one place further on. -/
theorem add_one_add_length (index : Nat) (c : Char) (cs : List Char) :
    index + 1 + cs.length = index + (c :: cs).length := by
  rw [List.length_cons, Nat.add_assoc, Nat.add_comm 1]

/-- A brace that closes the last open group is found behind a text that closes all others. -/
theorem closingBrace?_append (h : Closes depth front) (back : List Char) :
    closingBrace? depth index (front ++ '\x7d' :: back) = some (index + front.length) := by
  induction front generalizing depth index with
  | nil =>
    obtain rfl := closes_nil_iff.mp h
    rfl
  | cons c front ih =>
    have next := add_one_add_length index c front
    by_cases opens : c = '\x7b'
    · subst opens
      rw [List.cons_append, closingBrace?, ih (closes_open_iff.mp h), next]
    by_cases closes : c = '\x7d'
    · subst closes
      obtain ⟨outer, rfl, rest⟩ := closes_close_iff.mp h
      rw [List.cons_append, closingBrace?, ih rest, next]
    · have rest := (closes_other_iff opens closes).mp h
      rw [List.cons_append, closingBrace?, ih rest, next]
      · exact opens
      · exact closes

/-- The brace that is found to close the last open group stands behind a text that closes all
others. -/
theorem exists_closes_of_closingBrace? (h : closingBrace? depth index cs = some i) :
    ∃ front back, cs = front ++ '\x7d' :: back ∧ Closes depth front ∧ i = index + front.length := by
  fun_induction closingBrace? depth index cs with
  | case1 => cases h
  | case2 depth index cs ih =>
    obtain ⟨front, back, rfl, closes, rfl⟩ := ih h
    exact ⟨'\x7b' :: front, back, rfl, closes_open_iff.mpr closes, add_one_add_length ..⟩
  | case3 index cs =>
    obtain rfl := Option.some.inj h
    exact ⟨[], cs, rfl, closes_nil_iff.mpr rfl, rfl⟩
  | case4 index cs depth ih =>
    obtain ⟨front, back, rfl, closes, rfl⟩ := ih h
    exact ⟨'\x7d' :: front, back, rfl, closes_close_iff.mpr ⟨depth, rfl, closes⟩,
      add_one_add_length ..⟩
  | case5 depth index c cs opens closes ih =>
    obtain ⟨front, back, rfl, closed, rfl⟩ := ih h
    exact ⟨c :: front, back, rfl, (closes_other_iff opens closes).mpr closed,
      add_one_add_length ..⟩

/-- What stands in front of the first character that fails a test is where the test holds. -/
theorem takeWhile_append_cons {p : Char → Bool} (holds : ∀ d ∈ front, p d) (fails : ¬ p c)
    (back : List Char) : (front ++ c :: back).takeWhile p = front := by
  rw [List.takeWhile_append_of_pos holds, List.takeWhile_cons_of_neg fails, List.append_nil]

/-- The body that is found begins with the first brace behind the declaration and is balanced. -/
theorem bodyEnd?_eq_some_iff :
    bodyEnd? cs start = some stop ↔
      ∃ lead inner back, cs.drop start = lead ++ '\x7b' :: (inner ++ '\x7d' :: back) ∧
        '\x7b' ∉ lead ∧ Balanced inner ∧ stop = start + (lead ++ '\x7b' :: inner).length := by
  constructor
  · intro found
    obtain ⟨skipped, brace, -⟩ := Option.bind_eq_some_iff.mp found
    obtain ⟨tail, body, closed⟩ := bodyEnd?_eq brace
    obtain ⟨within, -, earlier⟩ := List.findIdx?_eq_some_iff_getElem.mp brace
    rw [closed] at found
    obtain ⟨inner, back, rfl, balanced, rfl⟩ := exists_closes_of_closingBrace? found
    refine ⟨(cs.drop start).take skipped, inner, back, ?_, ?_, balanced, ?_⟩
    · rw [← body, ← List.drop_drop, List.take_append_drop]
    · intro mem
      obtain ⟨k, hk, at'⟩ := List.mem_take_iff_getElem.mp mem
      exact absurd (earlier k (by omega)) (by simp [at'])
    · rw [List.length_append, List.length_take_of_le (Nat.le_of_lt within), List.length_cons]
      omega
  · rintro ⟨lead, inner, back, split, first, balanced, rfl⟩
    have skipped : (cs.drop start).findIdx? (· == '\x7b') = some lead.length := by
      have none : lead.findIdx? (· == '\x7b') = none :=
        List.findIdx?_eq_none_iff.mpr fun d hd => by simpa using ne_of_mem_of_not_mem hd first
      rw [split, List.findIdx?_append, none, List.findIdx?_cons]
      simp
    obtain ⟨tail, body, closed⟩ := bodyEnd?_eq skipped
    rw [← List.drop_drop, split, List.drop_left, List.cons.injEq] at body
    rw [closed, ← body.2, closingBrace?_append balanced, List.length_append, List.length_cons]
    congr 1
    omega

/-! ### The place for a new member -/

/-- In front of a place stands white space, up to the start of the line or none at all, and it is
where this begins that a new member is written. -/
theorem exists_blankLineStart_eq (front back : List Char) :
    ∃ before gap, front = before ++ gap ∧ (∀ d ∈ gap, isBlank d) ∧
      (gap = [] ∨ before = [] ∨ before.getLast? = some '\n') ∧
      (front ++ back).take (blankLineStart (front ++ back) front.length) = before := by
  have split := List.takeWhile_append_dropWhile (p := (· != '\n')) (l := front.reverse)
  have ends := List.head?_dropWhile_not (· != '\n') front.reverse
  rw [blankLineStart, List.take_left]
  generalize front.reverse.takeWhile (· != '\n') = line at split ⊢
  generalize front.reverse.dropWhile (· != '\n') = rest at split ends
  have whole : front = rest.reverse ++ line.reverse := by
    rw [← List.reverse_append, split, List.reverse_reverse]
  split_ifs with blank
  · refine ⟨rest.reverse, line.reverse, whole, ?_, .inr ?_, ?_⟩
    · simpa using blank
    · cases rest with
      | nil => exact .inl rfl
      | cons c rest => exact .inr (by simpa using ends)
    · rw [whole, List.append_assoc]
      exact List.take_left' (by simp)
  · exact ⟨front, [], (List.append_nil front).symm, nofun, .inl rfl, List.take_left⟩

/-- The place that is found is in the line of the brace that closes the first one behind the first
declaration. -/
theorem Language.insertionOffset?_cSharp_eq_some_iff {className : String} {offset : Nat} :
    cSharp.insertionOffset? (String.ofList cs) className = some offset ↔
      ∃ declared lead inner back, cs = declared ++ lead ++ '\x7b' :: inner ++ '\x7d' :: back ∧
        declarationEnd? cSharp.classSyntax (unqualifiedName className).toList cs =
          some declared.length ∧
        '\x7b' ∉ lead ∧ Balanced inner ∧
        byteLength (cs.take (blankLineStart cs (declared ++ lead ++ '\x7b' :: inner).length)) =
          offset := by
  rw [insertionOffset?, String.toList_ofList, Option.map_eq_some_iff]
  constructor
  · rintro ⟨i, found, rfl⟩
    obtain ⟨start, declared, found⟩ := Option.bind_eq_some_iff.mp found
    obtain ⟨stop, ended, found⟩ := Option.bind_eq_some_iff.mp found
    obtain rfl := Option.some.inj found
    obtain ⟨lead, inner, back, split, first, balanced, rfl⟩ := bodyEnd?_eq_some_iff.mp ended
    have inside : start ≤ cs.length := by simpa using declarationEndFrom?_le declared
    have length : (cs.take start).length = start := List.length_take_of_le inside
    refine ⟨cs.take start, lead, inner, back, ?_, by rw [declared, length], first, balanced, ?_⟩
    · rw [List.append_assoc, List.append_assoc, List.cons_append, ← split, List.take_append_drop]
    · rw [List.append_assoc, List.length_append, length]
  · rintro ⟨declared, lead, inner, back, split, found, first, balanced, rfl⟩
    refine ⟨_, ?_, rfl⟩
    have ended : bodyEnd? cs declared.length =
        some (declared ++ lead ++ '\x7b' :: inner).length := by
      refine bodyEnd?_eq_some_iff.mpr ⟨lead, inner, back, ?_, first, balanced, ?_⟩
      · rw [split]
        simp
      · simp
    rw [insertionIndex?, found]
    simp [classEnd?, ended]

end

end WebForms
