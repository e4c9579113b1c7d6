import Mathlib.Data.Bool.AllAny
import WebForms.Proofs.Scanner.BlockOpenings
import WebForms.Proofs.Scanner.StartTags

/-!
# Values without quotes

The value of an attribute may stand without quotes, if there is no white space in it and none of the
marks that have a meaning in a tag. It is read up to the white space or the angle bracket behind it,
and then slashes and percent signs are characters like others.

This is not so for the first character of the value. A slash or a percent sign ends the value
before it has begun, as it would end a tag or a directive. The attribute is read as empty, and
what was meant as its value is read as names of attributes that have no value either. So an
address that begins with a slash is lost, and so is a number of percent that begins with the sign.
In every other case the value is read as it is written.

## Main definitions

* `IsValueChar`, `UnquotedTag` — a start tag with one attribute, as it is written without quotes
* `Scanner.InBareTag` — a start tag in which no attribute has a value

## Main results

* `Scanner.matches_unquoted` — from its second character on, a value is read as it is written
* `Node.exists_parse_unquoted` — a value without quotes is read as it is written, or not at all
* `UnquotedTag.isReadWhole_iff` — which values are read as they are written
-/

namespace WebForms

/-- A character that may stand in a value without quotes. -/
def IsValueChar (c : Char) : Prop :=
  ¬ Text.isBlank c ∧ c ≠ '"' ∧ c ≠ '\'' ∧ c ≠ '<' ∧ c ≠ '>' ∧ c ≠ '='

instance : DecidablePred IsValueChar := fun _ => inferInstanceAs (Decidable (_ ∧ _))

/-- A start tag with one attribute, whose value stands without quotes. -/
structure UnquotedTag where
  name : MarkupName
  attributeName : MarkupName
  /-- The first character of the value. -/
  first : Char
  rest : List Char
  plain : ∀ c ∈ first :: rest, IsValueChar c

namespace UnquotedTag

/-- The value of the attribute. -/
def value (w : UnquotedTag) : String := String.ofList (w.first :: w.rest)

/-- What stands in front of the value. -/
def opening (w : UnquotedTag) : List Char :=
  ['<'] ++ w.name.source ++ [' '] ++ w.attributeName.source ++ ['=']

/-- The tag as it is written. -/
def source (w : UnquotedTag) : List Char := w.opening ++ (w.first :: w.rest) ++ ['>']

end UnquotedTag

/-- The first entry is found by its name. -/
theorem AttributeSet.get?_eq_of_head? {a : AttributeSet} {name value : String}
    (head : a.entries.head? = some (name, value)) : a.get? name = some value := by
  obtain ⟨es⟩ := a
  cases es with
  | nil => cases head
  | cons e es =>
    obtain rfl := Option.some.inj head
    simp [get?]

namespace Scanner

variable {t u : Scanner} {c : Char} {cs : List Char} {ps : List Pending} {n key : String}
  {a : AttributeSet} {start : Position}

/-! ### Values -/

/-- A character that is neither a slash nor a percent sign begins a value. -/
theorem matches_unquotedFirst (hs : t.state = .attributeValue .element .pending)
    (plain : IsValueChar c) (begins : c ≠ '/' ∧ c ≠ '%') :
    (t.advance c).Matches
      { t with state := .attributeValue .element .unquoted, attrValue := t.attrValue.push c } := by
  obtain ⟨blank, double, single, -, close, -⟩ := plain
  have stepped : t.step c = t.inAttributeValue .element .pending c := by rw [step, hs]
  have goesOn : ¬ (c = '>' ∨ c = '%' ∨ c = '/') := by
    rintro (ends | ends | ends)
    · exact close ends
    · exact begins.2 ends
    · exact begins.1 ends
  simp only [inAttributeValue, if_neg blank, if_neg double, if_neg single, if_neg goesOn] at stepped
  rw [advance, stepped]
  exact ⟨_, _, _, rfl⟩

/-- From its second character on, a value is read as it is written. -/
theorem matches_unquoted (hs : t.state = .attributeValue .element .unquoted)
    (plain : ∀ c ∈ cs, IsValueChar c) :
    (t.advanceAll cs).Matches { t with attrValue := t.attrValue ++ String.ofList cs } := by
  induction cs generalizing t with
  | nil =>
    rw [String.ofList_nil, String.append_empty]
    exact .refl t
  | cons c cs ih =>
    obtain ⟨⟨blank, -, -, -, close, -⟩, plain⟩ := List.forall_mem_cons.mp plain
    have stepped : t.step c = t.inAttributeValue .element .unquoted c := by rw [step, hs]
    have goesOn : ¬ (Text.isBlank c ∨ c = '>' ∨ AttributeHost.element = .directive ∧ c = '%') := by
      rintro (ends | ends | ⟨ends, -⟩)
      · exact blank ends
      · exact close ends
      · cases ends
    simp only [inAttributeValue, if_neg goesOn] at stepped
    refine (ih (t := t.advance c) (by rw [advance, stepped]; exact hs) plain).trans ?_
    rw [advance, stepped, push_append_ofList]
    exact ⟨_, _, _, rfl⟩

/-- A character that does to two scanners the same in the same place makes them the same. -/
theorem advance_eq_advance (step : t.step c = u.step c) (position : t.position = u.position)
    (offset : t.offset = u.offset) : t.advance c = u.advance c := by
  rw [advance, advance, step, position, offset]

/-- Behind the end of a value, the tag goes on as if it had held the attribute before. -/
theorem advance_endValue (stepped : t.step c = t.endAttribute.inBetween .element c)
    (hp : t.pending = .element n a start :: ps) (named : t.attrName.isEmpty = false) :
    t.advance c =
      ({ t with
        state := .tag
        pending := .element n (a.insert t.attrName t.attrValue) start :: ps
        attrName := ""
        attrValue := "" } : Scanner).advance c := by
  refine advance_eq_advance ?_ rfl rfl
  rw [stepped, endAttribute_element hp named]
  rfl

/-- The end of the tag records it, with the value. -/
theorem exists_events_close_unquoted {name value : String}
    (h : t.Matches
      { state := .attributeValue .element .unquoted, pending := [.element n a {}]
        attrName := name, attrValue := value })
    (named : name.isEmpty = false) :
    ∃ opensScope,
      (t.advance '>').finish.events =
        #[.startTag
          { name := TagName.parse n, attributes := a.insert name value
            startTag := ⟨{}, (t.advance '>').position⟩ } opensScope] := by
  have stepped : t.step '>' = t.endAttribute.inBetween .element '>' := by
    have inside : t.step '>' = t.inAttributeValue .element .unquoted '>' := by rw [step, h.state]
    rw [inside, inAttributeValue, if_pos (.inr (.inl rfl))]
  have hname : t.attrName = name := h.attrName
  have hvalue : t.attrValue = value := h.attrValue
  rw [advance_endValue stepped h.pending (hname ▸ named), hname, hvalue]
  have closed : ({ t with
      state := .tag
      pending := [.element n (a.insert name value) {}]
      attrName := ""
      attrValue := "" } : Scanner).Matches
        { state := .tag, pending := [.element n (a.insert name value) {}] } := by
    obtain ⟨_, _, _, rfl⟩ := h
    exact ⟨_, _, _, rfl⟩
  exact exists_events_close (.inr rfl) closed

/-! ### Tags without values -/

/-- All that has been read is the beginning of a start tag. Its first attribute is `key`, and this
has no value. -/
def InBareTag (t : Scanner) (n key : String) : Prop :=
  ∃ state attrName lastAttr selfClosing a, (state = .tag ∨ state = .attributeName .element) ∧
    a.entries.head? = some (key, "") ∧
    t.Matches { state, pending := [.element n a {}], attrName, lastAttr, selfClosing }

/-- A further attribute without a value stands behind the first one. -/
theorem head?_entries_insert (head : a.entries.head? = some (key, "")) (name : String) :
    (a.insert name "").entries.head? = some (key, "") := by
  obtain ⟨es⟩ := a
  cases es with
  | nil => cases head
  | cons e es =>
    obtain rfl := Option.some.inj head
    rw [AttributeSet.insert, AttributeSet.insertEntry]
    split <;> rfl

theorem offset_endAttribute (t : Scanner) : t.endAttribute.offset = t.offset := by
  unfold Scanner.endAttribute
  split
  · rfl
  · split <;> rfl

/-- The attribute whose name has been read, if there is one, has no value. -/
theorem InBareTag.endAttribute (h : t.InBareTag n key) (lastAttr : Option String) :
    ({ t.endAttribute with state := .tag, lastAttr } : Scanner).InBareTag n key := by
  obtain ⟨state, attrName, _, selfClosing, a, -, head, _, _, _, rfl⟩ := h
  unfold Scanner.endAttribute
  split
  · exact ⟨.tag, _, _, _, a, .inl rfl, head, _, _, _, rfl⟩
  · exact ⟨.tag, _, _, _, _, .inl rfl, head?_entries_insert head attrName, _, _, _, rfl⟩

/-- A character that is no part of a name comes behind the name of an attribute, if one is being
read. -/
theorem InBareTag.exists_advance_eq (h : t.InBareTag n key) (ends : isNameChar c = false)
    (other : c ≠ '=') :
    ∃ u : Scanner, u.InBareTag n key ∧ u.state = .tag ∧ t.advance c = u.advance c := by
  have whole := h
  obtain ⟨state, _, _, _, _, rfl | rfl, -, matched⟩ := h
  · exact ⟨t, whole, matched.state, rfl⟩
  · refine ⟨_, whole.endAttribute (some t.attrName), rfl, advance_eq_advance ?_ ?_ ?_⟩
    · have stepped : t.step c = t.inAttributeName .element c := by rw [step, matched.state]
      rw [stepped, inAttributeName, if_neg (by simp [ends]), if_neg other]
      rfl
    · exact (position_endAttribute t).symm
    · exact (offset_endAttribute t).symm

/-- Between attributes, a character of a name begins an attribute, and others have no effect but
that a slash may end the tag. -/
theorem InBareTag.advance_tag (h : t.InBareTag n key) (hs : t.state = .tag) (plain : IsValueChar c) :
    (t.advance c).InBareTag n key := by
  obtain ⟨blank, -, -, angle, close, equals⟩ := plain
  obtain ⟨state, _, _, _, a, -, head, matched⟩ := h
  obtain rfl : state = .tag := matched.state.symm.trans hs
  have stepped : t.step c = t.inTag c := by rw [step, hs]
  obtain ⟨_, _, _, rfl⟩ := matched
  rw [advance, stepped, inTag, if_neg blank, if_neg close]
  split_ifs with slash given
  · exact ⟨.tag, _, _, _, a, .inl rfl, head, _, _, _, rfl⟩
  · exact absurd given.1 equals
  · exact ⟨.attributeName .element, _, _, _, a, .inr rfl, head, _, _, _, rfl⟩
  · exact ⟨.tag, _, _, _, a, .inl rfl, head, _, _, _, rfl⟩

/-- No character of a value gives a value to an attribute. -/
theorem InBareTag.advance (h : t.InBareTag n key) (plain : IsValueChar c) :
    (t.advance c).InBareTag n key := by
  by_cases ends : isNameChar c = false
  · obtain ⟨u, bare, hs, same⟩ := h.exists_advance_eq ends plain.2.2.2.2.2
    rw [same]
    exact bare.advance_tag hs plain
  · have whole := h
    obtain ⟨state, _, _, _, a, rfl | rfl, head, matched⟩ := h
    · exact whole.advance_tag matched.state plain
    · -- The name of an attribute goes on.
      have stepped : t.step c = t.inAttributeName .element c := by rw [step, matched.state]
      rw [inAttributeName, if_pos (by simpa using ends)] at stepped
      obtain ⟨_, _, _, rfl⟩ := matched
      rw [Scanner.advance, stepped]
      exact ⟨.attributeName .element, _, _, _, a, .inr rfl, head, _, _, _, rfl⟩

theorem InBareTag.advanceAll (h : t.InBareTag n key) (plain : ∀ c ∈ cs, IsValueChar c) :
    (t.advanceAll cs).InBareTag n key := by
  induction cs generalizing t with
  | nil => exact h
  | cons c cs ih =>
    obtain ⟨first, plain⟩ := List.forall_mem_cons.mp plain
    exact ih (h.advance first) plain

/-- The end of the tag records it. -/
theorem InBareTag.exists_events (h : t.InBareTag n key) :
    ∃ (a : AttributeSet) (selfClosing opensScope : Bool), a.entries.head? = some (key, "") ∧
      (t.advance '>').finish.events =
        #[.startTag
          { name := TagName.parse n, attributes := a
            startTag := ⟨{}, (t.advance '>').position⟩, selfClosing } opensScope] := by
  have ends : isNameChar '>' = false := by decide
  obtain ⟨u, bare, hs, same⟩ := h.exists_advance_eq ends (by decide)
  obtain ⟨state, _, _, selfClosing, a, -, head, matched⟩ := bare
  obtain rfl : state = .tag := matched.state.symm.trans hs
  obtain ⟨opensScope, events⟩ := exists_events_close (.inr rfl) matched
  exact ⟨a, selfClosing, opensScope, head, by rw [same]; exact events⟩

/-! ### Whole tags -/

/-- The value of the attribute is what comes next. -/
theorem matches_opening (w : UnquotedTag) :
    (({} : Scanner).advanceAll w.opening).Matches
      { state := .attributeValue .element .pending
        pending := [.element w.name.text {} {}]
        attrName := w.attributeName.text } := by
  have source : w.opening =
      '<' :: w.name.source ++ ([' '] ++ (w.attributeName.source ++ ['='])) := by
    simp [UnquotedTag.opening]
  obtain ⟨state, _, _, _, between, named⟩ := inStartTag_name w.name
  rw [source, advanceAll_append]
  generalize ({} : Scanner).advanceAll ('<' :: w.name.source) = t at named ⊢
  have blank : ∀ c ∈ [' '], Text.isBlank c := by simp [Text.isBlank]
  refine (matches_attributeStart (by rwa [named.state]) blank (List.cons_ne_nil _ _)
    w.attributeName).trans ?_
  obtain ⟨_, _, _, rfl⟩ := named
  exact ⟨_, _, _, rfl⟩

/-- A value that begins with neither mark is read as it is written. -/
theorem matches_value_of_begins (w : UnquotedTag) (begins : w.first ≠ '/' ∧ w.first ≠ '%') :
    (({} : Scanner).advanceAll (w.opening ++ (w.first :: w.rest))).Matches
      { state := .attributeValue .element .unquoted
        pending := [.element w.name.text {} {}]
        attrName := w.attributeName.text
        attrValue := w.value } := by
  obtain ⟨first, rest⟩ := List.forall_mem_cons.mp w.plain
  have opened := matches_opening w
  rw [advanceAll_append, advanceAll_cons]
  generalize ({} : Scanner).advanceAll w.opening = t at opened ⊢
  have begun := matches_unquotedFirst opened.state first begins
  generalize t.advance w.first = t₁ at begun ⊢
  refine (matches_unquoted begun.state rest).trans ?_
  obtain ⟨_, _, _, rfl⟩ := begun
  obtain ⟨_, _, _, rfl⟩ := opened
  rw [push_append_ofList, String.empty_append, ← UnquotedTag.value]
  exact ⟨_, _, _, rfl⟩

/-- A value that begins with one of the marks is not given to the attribute. -/
theorem inBareTag_of_marks (w : UnquotedTag) (marks : w.first = '/' ∨ w.first = '%') :
    (({} : Scanner).advanceAll (w.opening ++ (w.first :: w.rest))).InBareTag w.name.text
      w.attributeName.text := by
  obtain ⟨first, rest⟩ := List.forall_mem_cons.mp w.plain
  have opened := matches_opening w
  rw [advanceAll_append, advanceAll_cons]
  generalize ({} : Scanner).advanceAll w.opening = t at opened ⊢
  -- The mark ends the value and is read again between attributes.
  have stepped : t.step w.first = t.endAttribute.inBetween .element w.first := by
    rw [step, opened.state]
    obtain mark | mark := marks
    · rw [mark]
      rfl
    · rw [mark]
      rfl
  have hname : t.attrName = w.attributeName.text := opened.attrName
  have hvalue : t.attrValue = "" := opened.attrValue
  rw [advance_endValue stepped opened.pending (hname ▸ w.attributeName.isEmpty_text), hname, hvalue]
  have bare : ({ t with
      state := .tag
      pending := [.element w.name.text (({} : AttributeSet).insert w.attributeName.text "") {}]
      attrName := ""
      attrValue := "" } : Scanner).InBareTag w.name.text w.attributeName.text := by
    obtain ⟨_, _, _, rfl⟩ := opened
    exact ⟨.tag, _, _, _, _, .inl rfl, rfl, _, _, _, rfl⟩
  exact (bare.advance first).advanceAll rest

/-- The angle bracket behind the value records the tag and nothing else. The attribute has the
value if this begins with neither mark, and otherwise it has none. -/
theorem exists_events_unquoted (w : UnquotedTag) :
    ∃ (a : AttributeSet) (selfClosing opensScope : Bool),
      (readAll (String.ofList w.source)).finish.events =
        #[.startTag
          { name := TagName.parse w.name.text, attributes := a
            startTag := ⟨{}, Text.place w.source⟩, selfClosing } opensScope] ∧
      (w.first ≠ '/' ∧ w.first ≠ '%' → a = ⟨[(w.attributeName.text, w.value)]⟩) ∧
      (w.first = '/' ∨ w.first = '%' → a.entries.head? = some (w.attributeName.text, "")) := by
  have read : readAll (String.ofList w.source) =
      (({} : Scanner).advanceAll (w.opening ++ (w.first :: w.rest))).advance '>' := by
    rw [readAll, String.toList_ofList, UnquotedTag.source, advanceAll_append, advanceAll_cons,
      advanceAll_nil]
  have place : (readAll (String.ofList w.source)).position = Text.place w.source := by
    rw [readAll, position_advanceAll, String.toList_ofList]
  by_cases marks : w.first = '/' ∨ w.first = '%'
  · obtain ⟨a, selfClosing, opensScope, head, events⟩ := (inBareTag_of_marks w marks).exists_events
    rw [← read, place] at events
    refine ⟨a, selfClosing, opensScope, events, ?_, fun _ => head⟩
    intro begins
    exact absurd marks (not_or.mpr begins)
  · have begins := not_or.mp marks
    have matched := matches_value_of_begins w begins
    obtain ⟨opensScope, events⟩ := exists_events_close_unquoted matched (MarkupName.isEmpty_text _)
    rw [← read, place] at events
    exact ⟨_, _, opensScope, events, fun _ => rfl, fun given => absurd given marks⟩

end Scanner

/-- A start tag with a value that stands without quotes is read as one element, whatever the value
is. Its attribute has the value as it is written and is the only one, or it has no value at all. -/
theorem Node.exists_parse_unquoted (w : UnquotedTag) :
    ∃ tag : Tag,
      parse (String.ofList w.source) =
        .mk .document ⟨{}, Text.place w.source⟩ [.mk (.tag tag) ⟨{}, Text.place w.source⟩ []] ∧
      tag.name = TagName.parse w.name.text ∧
      (w.first ≠ '/' ∧ w.first ≠ '%' → tag.attributes = ⟨[(w.attributeName.text, w.value)]⟩) ∧
      (w.first = '/' ∨ w.first = '%' → tag.attributes.get? w.attributeName.text = some "") := by
  obtain ⟨a, selfClosing, opensScope, events, whole, bare⟩ := Scanner.exists_events_unquoted w
  refine ⟨{ name := TagName.parse w.name.text, attributes := a
            startTag := ⟨{}, Text.place w.source⟩, selfClosing }, ?_, rfl, whole, ?_⟩
  · rw [parse_eq, events, Scanner.readAll, Scanner.position_advanceAll, String.toList_ofList]
    exact ofEvents_startTag _ opensScope _
  · intro marks
    exact AttributeSet.get?_eq_of_head? (bare marks)

namespace UnquotedTag

/-- An element is read whose only attribute has the value as it is written. -/
def IsReadWhole (w : UnquotedTag) : Prop :=
  ∃ tag ∈ (Node.parse (String.ofList w.source)).tags,
    tag.attributes = ⟨[(w.attributeName.text, w.value)]⟩

theorem value_ne_empty (w : UnquotedTag) : w.value ≠ "" := by
  simp [value]

/-- If the attribute is read without a value, no other element makes up for it. -/
theorem not_isReadWhole_of_marks {w : UnquotedTag} (marks : w.first = '/' ∨ w.first = '%') :
    ¬ w.IsReadWhole := by
  rintro ⟨tag, mem, whole⟩
  obtain ⟨read, tree, -, -, bare⟩ := Node.exists_parse_unquoted w
  rw [tree] at mem
  obtain rfl : tag = read := List.mem_singleton.mp mem
  have found : tag.attributes.get? w.attributeName.text = some w.value := by
    rw [whole]
    exact AttributeSet.get?_eq_of_head? rfl
  exact w.value_ne_empty (Option.some.inj (found.symm.trans (bare marks)))

/-- A value without quotes is read as it is written unless it begins with a slash or a percent
sign. -/
theorem isReadWhole_iff (w : UnquotedTag) : w.IsReadWhole ↔ w.first ≠ '/' ∧ w.first ≠ '%' := by
  constructor
  · intro whole
    exact not_or.mp fun marks => not_isReadWhole_of_marks marks whole
  · intro begins
    obtain ⟨tag, tree, -, whole, -⟩ := Node.exists_parse_unquoted w
    refine ⟨tag, ?_, whole begins⟩
    rw [tree]
    exact List.mem_singleton.mpr rfl

/-- The address of a page, from the root of its site. -/
def slashed : UnquotedTag where
  name := ⟨'a', [], by decide, by simp⟩
  attributeName := ⟨'h', ['r', 'e', 'f'], by decide, List.all_eq_true.mp (by decide)⟩
  first := '/'
  rest := "index.aspx".toList
  plain := List.all_iff_forall_prop.mp (by decide)

/-- The address is lost. -/
theorem not_isReadWhole_slashed :
    String.ofList slashed.source = "<a href=/index.aspx>" ∧ ¬ slashed.IsReadWhole :=
  ⟨rfl, not_isReadWhole_of_marks (.inl rfl)⟩

end UnquotedTag

end WebForms
