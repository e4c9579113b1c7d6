import WebForms.Proofs.Code.Braces

/-!
# The end of a class in words

In a language without braces, a class ends with a line of its own, and so does every class that is
nested in it. The place for a new member is the first such line behind the declaration, whichever
class it ends. Here a body is given by its lines and its nested classes, to any depth, and the place
that is found is compared with the line that ends the class itself.

## Main definitions

* `ClassBody` — the lines of a class and the classes nested in it
* `ClassBody.upToFirstEnd` — the body up to the first line that ends a class
* `ClassInLines` — a source around the first declaration of a class

## Main results

* `ClassInLines.insertionOffset?_source` — the place that is found, and when it is the right one
-/

namespace WebForms

open Text

/-! ### Lines -/

/-- A line that does not begin with the words that end a class. -/
def IsOtherLine (line : List Char) : Prop := '\n' ∉ line ∧ beginsEndClass line = false

/-- A line that begins with the words that end a class. -/
def IsEndLine (line : List Char) : Prop := '\n' ∉ line ∧ beginsEndClass line = true

instance : DecidablePred IsOtherLine := fun _ => inferInstanceAs (Decidable (_ ∧ _))

instance : DecidablePred IsEndLine := fun _ => inferInstanceAs (Decidable (_ ∧ _))

section

variable {line rest pattern front back cs : List Char} {same : Char → Char → Bool} {c : Char}
  {start index : Nat} {atLine : Bool}

/-- A word without a line feed is not found across one. -/
theorem afterPrefix?_append_feed (solid : pattern.any (same · '\n') = false)
    (line rest : List Char) :
    afterPrefix? same pattern (line ++ '\n' :: rest) =
      (afterPrefix? same pattern line).map (· ++ '\n' :: rest) := by
  induction pattern generalizing line with
  | nil => rfl
  | cons p pattern ih =>
    rw [List.any_cons, Bool.or_eq_false_iff] at solid
    obtain ⟨other, solid⟩ := solid
    cases line with
    | nil => simp [afterPrefix?, other]
    | cons c line =>
      rw [List.cons_append, afterPrefix?, afterPrefix?, ih solid]
      split <;> rfl

/-- White space within a line ends with the line. -/
theorem dropWhile_isLineSpace_append_feed (line rest : List Char) :
    (line ++ '\n' :: rest).dropWhile isLineSpace = line.dropWhile isLineSpace ++ '\n' :: rest := by
  induction line with
  | nil => rfl
  | cons c line ih =>
    rw [List.cons_append, List.dropWhile_cons, List.dropWhile_cons, ih]
    split <;> rfl

/-- Whether a line ends a class does not depend on the lines behind it. -/
theorem beginsEndClass_append_feed (line rest : List Char) :
    beginsEndClass (line ++ '\n' :: rest) = beginsEndClass line := by
  unfold beginsEndClass
  rw [dropWhile_isLineSpace_append_feed, afterPrefix?_append_feed (by decide)]
  cases afterPrefix? sameFolded "End".toList (line.dropWhile isLineSpace) with
  | none => rfl
  | some more =>
    cases more with
    | nil => rfl
    | cons c more =>
      simp only [Option.map_some, List.cons_append]
      rw [dropWhile_isLineSpace_append_feed, afterPrefix?_append_feed (by decide)]
      cases afterPrefix? sameFolded "Class".toList (more.dropWhile isLineSpace) with
      | none => rfl
      | some after =>
        cases after with
        | nil => rfl
        | cons d after => rfl

/-- Where no line begins that ends a class, the search goes on with the next character. -/
theorem endLineFrom?_cons
    (passes : atLine = true → start ≤ index → beginsEndClass (c :: cs) = false) :
    endLineFrom? start index atLine (c :: cs) =
      endLineFrom? start (index + 1) (c == '\n') cs := by
  rw [endLineFrom?, if_neg]
  simpa using passes

/-- No line is looked at in front of the place where the search starts. -/
theorem endLineFrom?_front (other : c ≠ '\n') (before : index + front.length < start) :
    endLineFrom? start index atLine (front ++ c :: rest) =
      endLineFrom? start (index + front.length + 1) false rest := by
  have early : ¬ start ≤ index := by omega
  induction front generalizing index atLine with
  | nil =>
    rw [List.nil_append, endLineFrom?_cons fun _ started => absurd started early,
      beq_eq_false_iff_ne.mpr other]
    rfl
  | cons d front ih =>
    rw [List.length_cons] at before
    rw [List.cons_append, endLineFrom?_cons fun _ started => absurd started early,
      ih (by omega) (by omega), add_one_add_length]

/-- The rest of a line in front of which none begins is passed over. -/
theorem endLineFrom?_rest (inLine : '\n' ∉ line) :
    endLineFrom? start index false (line ++ '\n' :: rest) =
      endLineFrom? start (index + line.length + 1) true rest := by
  induction line generalizing index with
  | nil => rfl
  | cons c line ih =>
    obtain ⟨other, behind⟩ := List.ne_and_not_mem_of_not_mem_cons inLine
    rw [List.cons_append, endLineFrom?_cons, beq_eq_false_iff_ne.mpr other.symm, ih behind,
      add_one_add_length]
    nofun

/-- A line that ends no class is passed over. -/
theorem endLineFrom?_other (other : IsOtherLine line) :
    endLineFrom? start index true (line ++ '\n' :: rest) =
      endLineFrom? start (index + line.length + 1) true rest := by
  obtain ⟨inLine, continues⟩ := other
  rw [← beginsEndClass_append_feed line rest] at continues
  cases line with
  | nil =>
    rw [List.nil_append] at continues ⊢
    rw [endLineFrom?_cons fun _ _ => continues]
    rfl
  | cons c line =>
    obtain ⟨other, behind⟩ := List.ne_and_not_mem_of_not_mem_cons inLine
    rw [List.cons_append] at continues ⊢
    rw [endLineFrom?_cons fun _ _ => continues, beq_eq_false_iff_ne.mpr other.symm,
      endLineFrom?_rest behind, add_one_add_length]

/-- At the start of a line there is nothing in front of it. -/
theorem blankLineStart_feed (front back : List Char) (feed : front.getLast? = some '\n') :
    blankLineStart (front ++ back) front.length = front.length := by
  obtain ⟨front, rfl⟩ := List.getLast?_eq_some_iff.mp feed
  rw [blankLineStart, List.take_left, List.reverse_append]
  rfl

/-- A line that ends a class is found when the search has started. -/
theorem endLineFrom?_end (ends : IsEndLine line) (started : start ≤ index)
    (last : back = [] ∨ back.head? = some '\n') :
    endLineFrom? start index true (line ++ back) = some index := by
  obtain ⟨-, begins⟩ := ends
  have begins' : beginsEndClass (line ++ back) = true := by
    obtain rfl | feed := last
    · rwa [List.append_nil]
    · obtain ⟨rest, rfl⟩ := List.head?_eq_some_iff.mp feed
      rwa [beginsEndClass_append_feed]
  cases line with
  | nil => exact nomatch begins
  | cons c line =>
    rw [List.cons_append] at begins' ⊢
    rw [endLineFrom?, begins', if_pos (by simp [started])]

end

/-! ### Bodies -/

/-- The body of a class: lines, and classes nested in it, each with the line that declares it, its
own body and the line that ends it. -/
inductive ClassBody where
  | nil
  | line (text : List Char) (rest : ClassBody)
  | nested (header : List Char) (inner : ClassBody) (ending : List Char) (rest : ClassBody)

namespace ClassBody

/-- The text of the body. -/
def source : ClassBody → List Char
  | nil => []
  | line text rest => text ++ '\n' :: rest.source
  | nested header inner ending rest =>
    header ++ '\n' :: (inner.source ++ (ending ++ '\n' :: rest.source))

/-- Nested classes end with the words for it, and no other line begins with them. -/
def WellFormed : ClassBody → Prop
  | nil => True
  | line text rest => IsOtherLine text ∧ rest.WellFormed
  | nested header inner ending rest =>
    IsOtherLine header ∧ inner.WellFormed ∧ IsEndLine ending ∧ rest.WellFormed

/-- No class is nested in the body. -/
def IsFlat : ClassBody → Prop
  | nil => True
  | line _ rest => rest.IsFlat
  | nested .. => False

/-- The text of the body up to the first line that ends a class, which is that of the first nested
class to end. -/
def upToFirstEnd : ClassBody → List Char
  | nil => []
  | line text rest => text ++ '\n' :: rest.upToFirstEnd
  | nested header inner _ _ => header ++ '\n' :: inner.upToFirstEnd

variable {start index : Nat} {ending back : List Char}

theorem upToFirstEnd_prefix (body : ClassBody) : body.upToFirstEnd <+: body.source := by
  induction body with
  | nil => exact List.prefix_rfl
  | line text rest ih =>
    exact (List.prefix_append_right_inj text).mpr (List.cons_prefix_cons.mpr ⟨rfl, ih⟩)
  | nested header inner ending rest ih _ =>
    exact (List.prefix_append_right_inj header).mpr
      (List.cons_prefix_cons.mpr ⟨rfl, ih.trans (List.prefix_append ..)⟩)

/-- The first line that ends a class is behind the whole body if and only if no class is nested in
it. -/
theorem upToFirstEnd_eq_source_iff (body : ClassBody) :
    body.upToFirstEnd = body.source ↔ body.IsFlat := by
  induction body with
  | nil => exact iff_of_true rfl trivial
  | line text rest ih => simp [upToFirstEnd, source, IsFlat, ih]
  | nested header inner ending rest _ _ =>
    refine iff_of_false (fun same => ?_) id
    -- At least the line that ends the nested class is missing.
    have length := congrArg List.length same
    have le := inner.upToFirstEnd_prefix.length_le
    simp [upToFirstEnd, source] at length
    omega

/-- Behind the start of the search, the first line that ends a class is found. -/
theorem endLineFrom?_source (body : ClassBody) (wellFormed : body.WellFormed)
    (ends : IsEndLine ending) (last : back = [] ∨ back.head? = some '\n')
    (started : start ≤ index) :
    endLineFrom? start index true (body.source ++ (ending ++ back)) =
      some (index + body.upToFirstEnd.length) := by
  induction body generalizing index ending back with
  | nil =>
    rw [source, List.nil_append]
    exact endLineFrom?_end ends started last
  | line text rest ih =>
    obtain ⟨other, behind⟩ := wellFormed
    rw [source, List.append_assoc, List.cons_append, endLineFrom?_other other,
      ih behind ends last (by omega), upToFirstEnd, List.length_append, List.length_cons]
    congr 1
    omega
  | nested header inner ending' rest ih _ =>
    obtain ⟨other, nested, closes, -⟩ := wellFormed
    rw [source, List.append_assoc, List.cons_append, List.append_assoc, List.append_assoc,
      endLineFrom?_other other, ih nested closes (.inr rfl) (by omega), upToFirstEnd,
      List.length_append, List.length_cons]
    congr 1
    omega

/-- The first line that ends a class begins behind a line feed. -/
theorem getLast?_feed_upToFirstEnd (body : ClassBody) :
    ('\n' :: body.upToFirstEnd).getLast? = some '\n' := by
  induction body with
  | nil => rfl
  | line text rest ih =>
    rw [upToFirstEnd, ← List.cons_append, List.getLast?_append, ih]
    rfl
  | nested header inner ending rest ih _ =>
    rw [upToFirstEnd, ← List.cons_append, List.getLast?_append, ih]
    rfl

end ClassBody

/-! ### Classes -/

/-- A source around the first declaration of a class, up to whose name `declared` goes. The body
begins with the next line, and a line of its own ends it. -/
structure ClassInLines (name : List Char) where
  declared : List Char
  tail : List Char
  body : ClassBody
  ending : List Char
  back : List Char
  first : declarationEnd? Language.visualBasic.classSyntax name
    (declared ++ tail ++ '\n' :: (body.source ++ (ending ++ back))) = some declared.length
  named : ∃ c, declared.getLast? = some c ∧ c ≠ '\n'
  inLine : '\n' ∉ tail
  wellFormed : body.WellFormed
  ends : IsEndLine ending
  last : back = [] ∨ back.head? = some '\n'

namespace ClassInLines

variable {name : List Char}

/-- The source up to the first line of the body. -/
def upToBody (c : ClassInLines name) : List Char := c.declared ++ c.tail ++ ['\n']

/-- The source up to the first line behind the declaration that ends a class. -/
def upToFirstEnd (c : ClassInLines name) : List Char := c.upToBody ++ c.body.upToFirstEnd

/-- The source up to the line that ends the class. -/
def upToEnd (c : ClassInLines name) : List Char := c.upToBody ++ c.body.source

/-- All of the source. -/
def source (c : ClassInLines name) : List Char := c.upToEnd ++ (c.ending ++ c.back)

theorem source_eq (c : ClassInLines name) :
    c.source = c.declared ++ c.tail ++ '\n' :: (c.body.source ++ (c.ending ++ c.back)) := by
  simp [source, upToEnd, upToBody]

/-- The first line behind the declaration that ends a class is the first one in the body, or else
the line that ends the class. -/
theorem endLineFrom?_source (c : ClassInLines name) :
    endLineFrom? c.declared.length 0 true c.source = some c.upToFirstEnd.length := by
  obtain ⟨d, last, other⟩ := c.named
  obtain ⟨front, declared⟩ := List.getLast?_eq_some_iff.mp last
  have length : c.declared.length = front.length + 1 := by simp [declared]
  have split : c.source =
      front ++ d :: (c.tail ++ '\n' :: (c.body.source ++ (c.ending ++ c.back))) := by
    rw [source_eq, declared]
    simp
  -- The search starts behind the name, and the first line that begins there is in the body.
  rw [split, endLineFrom?_front other (by omega), endLineFrom?_rest c.inLine,
    c.body.endLineFrom?_source c.wellFormed c.ends c.last (by omega)]
  simp [upToFirstEnd, upToBody, length]
  omega

theorem upToFirstEnd_prefix (c : ClassInLines name) : c.upToFirstEnd <+: c.upToEnd :=
  (List.prefix_append_right_inj c.upToBody).mpr c.body.upToFirstEnd_prefix

theorem getLast?_upToFirstEnd (c : ClassInLines name) : c.upToFirstEnd.getLast? = some '\n' := by
  rw [upToFirstEnd, upToBody, List.append_assoc, List.singleton_append, List.getLast?_append,
    c.body.getLast?_feed_upToFirstEnd]
  rfl

/-- The place that is found is the start of the first line that ends a class. -/
theorem insertionOffset?_eq {className : String}
    (c : ClassInLines (unqualifiedName className).toList) :
    Language.visualBasic.insertionOffset? (String.ofList c.source) className =
      some (byteLength c.upToFirstEnd) := by
  obtain ⟨rest, split⟩ := c.upToFirstEnd_prefix.trans (List.prefix_append _ (c.ending ++ c.back))
  have start : blankLineStart c.source c.upToFirstEnd.length = c.upToFirstEnd.length := by
    rw [source, ← split, blankLineStart_feed _ _ c.getLast?_upToFirstEnd]
  have first := c.first
  rw [← source_eq] at first
  rw [Language.insertionOffset?, String.toList_ofList, Language.insertionIndex?, first]
  simp only [Option.bind_eq_bind, Option.bind_some, Language.classEnd?, c.endLineFrom?_source,
    Option.pure_def, start, Option.map_some]
  rw [source, ← split, List.take_left]

/-- The place for a new member is the start of the first line behind the declaration that ends a
class. That is the line that ends the class itself if and only if no other class is nested in it. -/
theorem insertionOffset?_source {className : String}
    (c : ClassInLines (unqualifiedName className).toList) :
    Language.visualBasic.insertionOffset? (String.ofList c.source) className =
        some (byteLength c.upToFirstEnd) ∧
      (Language.visualBasic.insertionOffset? (String.ofList c.source) className =
        some (byteLength c.upToEnd) ↔ c.body.IsFlat) := by
  refine ⟨c.insertionOffset?_eq, ?_⟩
  rw [c.insertionOffset?_eq, Option.some_inj, ← c.body.upToFirstEnd_eq_source_iff]
  constructor
  · intro size
    have same := eq_of_byteLength_eq c.upToFirstEnd_prefix List.prefix_rfl size
    exact List.append_cancel_left same
  · intro same
    rw [upToFirstEnd, same, upToEnd]

/-- A class with an empty class nested in it. -/
def withInner : ClassInLines (unqualifiedName "N.Form").toList where
  declared := "Class Form".toList
  tail := []
  body := .nested "Class Inner".toList .nil "End Class".toList .nil
  ending := "End Class".toList
  back := []
  first := by decide +kernel
  named := ⟨'m', rfl, by decide⟩
  inLine := List.not_mem_nil
  wellFormed := ⟨by decide, trivial, by decide, trivial⟩
  ends := by decide
  last := .inl rfl

/-- The line that ends the nested class is taken for the end of the outer one. -/
theorem insertionOffset?_ne_upToEnd :
    String.ofList withInner.source = "Class Form\nClass Inner\nEnd Class\nEnd Class" ∧
      Language.visualBasic.insertionOffset?
        "Class Form\nClass Inner\nEnd Class\nEnd Class" "N.Form" ≠
          some (byteLength withInner.upToEnd) := by
  decide +kernel

end ClassInLines

end WebForms
