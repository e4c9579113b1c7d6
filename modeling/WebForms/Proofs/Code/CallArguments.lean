import WebForms.Proofs.Code.AccessChains

/-!
# The arguments in front of a caret

The call in which a caret stands is found backwards, at the first parenthesis that is not closed in
front of the caret. The arguments that have been written so far are passed on the way: their commas
tell which of them the caret stands in. Commas in a literal or in a group of parentheses do not
count, and parentheses in a literal open nothing.

Arguments have the form of a tree, since groups hold arguments again. The search takes one part of
the tree after the other, from the last one on, and stands behind each part as it stood in front of
it, but for the commas outside of all groups. A quote within a literal is written twice, so that the
literal ends where quotes are even.

## Main definitions

* `ArgumentText` — arguments, up to a caret
* `ArgumentText.source`, `ArgumentText.commas` — how they are written, and the commas between them

## Main results

* `openCallFrom?_source` — arguments are passed over
* `openCall?_source` — the call that is written in front of a caret is found
-/

namespace WebForms

/-- The character has no meaning of its own among arguments. -/
def IsPlain (c : Char) : Prop := c ≠ '"' ∧ c ≠ ',' ∧ c ≠ '(' ∧ c ≠ ')'

instance : DecidablePred IsPlain := fun _ => inferInstanceAs (Decidable (_ ∧ _))

/-- Arguments of a call as they have been written up to a caret: plain characters, commas, literals
and groups of arguments in parentheses, in any order. -/
inductive ArgumentText where
  | nil
  | plain (c : Char) (isPlain : IsPlain c) (rest : ArgumentText)
  | comma (rest : ArgumentText)
  | literal (contents : List Char) (rest : ArgumentText)
  | group (inner rest : ArgumentText)

/-- The contents of a literal as they are written: each quote twice, and all other characters as
they are. -/
def quotesDoubled (contents : List Char) : List Char :=
  contents.flatMap fun c => if c = '"' then ['"', '"'] else [c]

namespace ArgumentText

/-- The text of the arguments. -/
def source : ArgumentText → List Char
  | nil => []
  | plain c _ rest => c :: rest.source
  | comma rest => ',' :: rest.source
  | literal contents rest => '"' :: (quotesDoubled contents ++ '"' :: rest.source)
  | group inner rest => '(' :: (inner.source ++ ')' :: rest.source)

/-- The number of commas outside of literals and groups. -/
def commas : ArgumentText → Nat
  | nil => 0
  | plain _ _ rest => rest.commas
  | comma rest => rest.commas + 1
  | literal _ rest => rest.commas
  | group _ rest => rest.commas

end ArgumentText

section

variable {c : Char}

/-! ### Characters -/

theorem openCallFrom?_quote (depth commas : Nat) (inString : Bool) (rs : List Char) :
    openCallFrom? depth commas inString ('"' :: rs) =
      openCallFrom? depth commas (!inString) rs := by
  rw [openCallFrom?_cons, if_pos rfl]

theorem openCallFrom?_inString (other : c ≠ '"') (depth commas : Nat) (rs : List Char) :
    openCallFrom? depth commas true (c :: rs) = openCallFrom? depth commas true rs := by
  rw [openCallFrom?_cons, if_neg other, if_pos rfl]

theorem openCallFrom?_close (depth commas : Nat) (rs : List Char) :
    openCallFrom? depth commas false (')' :: rs) = openCallFrom? (depth + 1) commas false rs := by
  rw [openCallFrom?_cons]
  rfl

theorem openCallFrom?_open (depth commas : Nat) (rs : List Char) :
    openCallFrom? (depth + 1) commas false ('(' :: rs) = openCallFrom? depth commas false rs := by
  rw [openCallFrom?_cons]
  rfl

theorem openCallFrom?_comma (depth commas : Nat) (rs : List Char) :
    openCallFrom? depth commas false (',' :: rs) =
      openCallFrom? depth (if depth = 0 then commas + 1 else commas) false rs := by
  rw [openCallFrom?_cons]
  cases depth <;> rfl

theorem openCallFrom?_plain (h : IsPlain c) (depth commas : Nat) (rs : List Char) :
    openCallFrom? depth commas false (c :: rs) = openCallFrom? depth commas false rs := by
  obtain ⟨quote, comma, opens, closes⟩ := h
  rw [openCallFrom?_cons, if_neg quote, if_neg Bool.false_ne_true, if_neg closes, if_neg opens,
    if_neg fun both => comma both.1]

/-! ### Arguments -/

/-- The contents of a literal are passed over. -/
theorem openCallFrom?_quotesDoubled (contents : List Char) (depth commas : Nat) (rs : List Char) :
    openCallFrom? depth commas true ((quotesDoubled contents).reverse ++ rs) =
      openCallFrom? depth commas true rs := by
  induction contents generalizing rs with
  | nil => rfl
  | cons c contents ih =>
    rw [quotesDoubled, List.flatMap_cons, List.reverse_append, List.append_assoc]
    refine (ih _).trans ?_
    by_cases quote : c = '"'
    · -- Of two quotes, the first one ends a literal and the second one begins another.
      simp only [quote, if_true, List.reverse_cons, List.reverse_nil, List.nil_append,
        List.cons_append, openCallFrom?_quote, Bool.not_true, Bool.not_false]
    · simp only [quote, if_false, List.reverse_singleton, List.singleton_append]
      exact openCallFrom?_inString quote depth commas rs

/-- Arguments are passed over. Their commas count if no group has been entered, and otherwise the
search goes on as if they were not there. -/
theorem openCallFrom?_source (a : ArgumentText) (depth commas : Nat) (rs : List Char) :
    openCallFrom? depth commas false (a.source.reverse ++ rs) =
      openCallFrom? depth (if depth = 0 then commas + a.commas else commas) false rs := by
  induction a generalizing depth commas rs with
  | nil => simp [ArgumentText.source, ArgumentText.commas]
  | plain c isPlain rest ih =>
    rw [ArgumentText.source, List.reverse_cons, List.append_assoc, ih, List.singleton_append,
      openCallFrom?_plain isPlain, ArgumentText.commas]
  | comma rest ih =>
    rw [ArgumentText.source, List.reverse_cons, List.append_assoc, ih, List.singleton_append,
      openCallFrom?_comma, ArgumentText.commas]
    cases depth with
    | zero => simp only [if_true, Nat.add_assoc]
    | succ depth => simp only [Nat.succ_ne_zero, if_false]
  | literal contents rest ih =>
    have backwards : (ArgumentText.literal contents rest).source.reverse ++ rs =
        rest.source.reverse ++ '"' :: ((quotesDoubled contents).reverse ++ '"' :: rs) := by
      simp [ArgumentText.source]
    rw [backwards, ih, openCallFrom?_quote, Bool.not_false, openCallFrom?_quotesDoubled,
      openCallFrom?_quote, Bool.not_true, ArgumentText.commas]
  | group inner rest ihInner ih =>
    have backwards : (ArgumentText.group inner rest).source.reverse ++ rs =
        rest.source.reverse ++ ')' :: (inner.source.reverse ++ '(' :: rs) := by
      simp [ArgumentText.source]
    -- Within the group, the search has entered at least one.
    rw [backwards, ih, openCallFrom?_close, ihInner, if_neg (Nat.succ_ne_zero depth),
      openCallFrom?_open, ArgumentText.commas]

/-! ### Calls -/

/-- The parenthesis behind a chain and a name opens a call of that name. -/
theorem callAt?_source {context : List Char} {method : String} (apart : IsContext context)
    (segments : List WrittenSegment) (named : method ≠ "")
    (isWord : ∀ c ∈ method.toList, isIdentifierChar c = true) (commas : Nat) :
    callAt? commas (context ++ WrittenSegment.sourceAll segments ++ method.toList).reverse =
      some
        { target := segments.map WrittenSegment.segment, method
          activeParameter := commas } := by
  have read := apart.readAs segments isWord
  simp only [callAt?, read.access]
  simp [named]

/-- The call that is written in front of a caret is found, with the chain in front of its name and
the number of commas between its arguments, whatever stands in front that does not go on with the
chain. -/
theorem openCall?_source {context : List Char} {method : String} (apart : IsContext context)
    (segments : List WrittenSegment) (named : method ≠ "")
    (isWord : ∀ c ∈ method.toList, isIdentifierChar c = true) (arguments : ArgumentText) :
    openCall? (context ++ WrittenSegment.sourceAll segments ++ method.toList ++
        '(' :: arguments.source).reverse =
      some
        { target := segments.map WrittenSegment.segment, method
          activeParameter := arguments.commas } := by
  rw [List.reverse_append, List.reverse_cons, List.append_assoc, List.singleton_append, openCall?,
    openCallFrom?_source, if_pos rfl, Nat.zero_add, openCallFrom?_cons]
  exact callAt?_source apart segments named isWord arguments.commas

/-- A literal with a parenthesis and a quote, and a call with a comma, in front of the second comma.
-/
def literalAndCall : ArgumentText :=
  .literal "a, \"(".toList <| .comma <| .plain 'f' (by decide) <|
    .group (.plain 'x' (by decide) <| .comma <| .plain 'y' (by decide) .nil) <| .comma <|
      .plain ' ' (by decide) .nil

theorem openCall?_source_literalAndCall :
    (IsContext "g(".toList ∧ "Find" ≠ "" ∧ ∀ c ∈ "Find".toList, isIdentifierChar c = true) ∧
      openCall? "g(Page.Find(a.B(1, (c)).D, \"x\").Find(\"a, \"\"(\",f(x,y), ".toList.reverse =
        some
          { target := [⟨"Page", false⟩, ⟨"Find", true⟩], method := "Find"
            activeParameter := 2 } := by
  have apart : IsContext "g(".toList := by simp [IsContext]; decide
  have word : ∀ c ∈ "Find".toList, isIdentifierChar c = true := List.all_eq_true.mp (by decide)
  exact ⟨⟨apart, by decide, word⟩,
    openCall?_source apart nestedCall (by decide) word literalAndCall⟩

end

end WebForms
