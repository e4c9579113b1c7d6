import WebForms.Proofs.Scanner.EventOrder
import WebForms.Proofs.Scanner.Sources
import WebForms.Proofs.Scanner.Values

/-!
# Written start tags are read back

A start tag is written as a name and quoted attributes between white space, and ends with an angle
bracket, behind a slash if nothing follows. Reading such a text gives the tag back: the tree of the
text holds one element, with the attributes as they were written and in the same order, provided
that no two of them have the same name.

## Main definitions

* `MarkupName`, `WrittenAttribute`, `WrittenTag` — a start tag, as it is written
* `Scanner.InStartTag` — the beginning of a start tag has been read, and nothing else

## Main results

* `Node.parse_source` — a written start tag is read back
-/

namespace WebForms

/-! ### Written tags -/

/-- A name of an element or attribute. -/
structure MarkupName where
  first : Char
  rest : List Char
  starts : isNameStart first
  continues : ∀ c ∈ rest, isNameChar c

namespace MarkupName

/-- The characters of the name. -/
def source (n : MarkupName) : List Char := n.first :: n.rest

/-- The name as a text. -/
def text (n : MarkupName) : String := String.ofList n.source

theorem isEmpty_text (n : MarkupName) : n.text.isEmpty = false := by
  simp [text, source]

end MarkupName

/-- An attribute, with the white space that separates it from what stands in front of it. -/
structure WrittenAttribute where
  gap : List Char
  blank : ∀ c ∈ gap, Text.isBlank c
  separated : gap ≠ []
  name : MarkupName
  value : QuotedValue

namespace WrittenAttribute

/-- The attribute as it is written. -/
def source (a : WrittenAttribute) : List Char := a.gap ++ a.name.source ++ ['='] ++ a.value.source

/-- The name and the value of the attribute. -/
def entry (a : WrittenAttribute) : String × String := (a.name.text, String.ofList a.value.inner)

end WrittenAttribute

/-- A start tag. No two of its attributes have the same name. -/
structure WrittenTag where
  name : MarkupName
  attributes : List WrittenAttribute
  distinct : attributes.Pairwise fun a b => ¬ Text.sameName a.name.text b.name.text
  /-- White space in front of the end. -/
  gap : List Char
  blank : ∀ c ∈ gap, Text.isBlank c
  selfClosing : Bool

namespace WrittenTag

/-- The tag as it is written. -/
def source (w : WrittenTag) : List Char :=
  ['<'] ++ w.name.source ++ w.attributes.flatMap WrittenAttribute.source ++ w.gap ++
    if w.selfClosing then ['/', '>'] else ['>']

/-- The element that the tag stands for, when the text consists of the tag alone. -/
def tag (w : WrittenTag) : Tag where
  name := TagName.parse w.name.text
  attributes := ⟨w.attributes.map WrittenAttribute.entry⟩
  startTag := ⟨{}, Text.place w.source⟩
  selfClosing := w.selfClosing

end WrittenTag

/-! ### Characters -/

/-- The codes of the characters that are white space. -/
def blankCodes : List Nat :=
  [9, 10, 11, 12, 13, 32, 0x85, 0xA0, 0x1680, 0x2000, 0x2001, 0x2002, 0x2003, 0x2004, 0x2005,
    0x2006, 0x2007, 0x2008, 0x2009, 0x200A, 0x2028, 0x2029, 0x202F, 0x205F, 0x3000]

theorem toNat_mem_blankCodes {c : Char} (h : Text.isBlank c) : c.toNat ∈ blankCodes := by
  simp only [Text.isBlank, Bool.or_eq_true, Bool.and_eq_true, decide_eq_true_eq, beq_iff_eq] at h
  simp only [blankCodes, List.mem_cons, List.not_mem_nil, or_false]
  omega

theorem insideBounds_eq (bounds : Array Nat) (n : Nat) :
    Text.insideBounds bounds n =
      bounds.toList.foldl (fun inside b => if b ≤ n then !inside else inside) false := by
  rw [Text.insideBounds, Array.foldl_toList]

/-- White space is no part of a name. -/
theorem not_isNameChar_of_isBlank {c : Char} (h : Text.isBlank c) : ¬ isNameChar c := by
  have all : ∀ n ∈ blankCodes, ¬ isNameChar (Char.ofNat n) := by
    -- The classes are looked up in lists, since indices of arrays are slow to compute with.
    simp only [isNameChar, Text.isAlphanumeric, Text.isLetter, Text.isNumeral, insideBounds_eq]
    decide +kernel
  have code := all c.toNat (toNat_mem_blankCodes h)
  rwa [Char.ofNat_toNat] at code

theorem isNameChar_of_isNameStart {c : Char} (h : isNameStart c) : isNameChar c := by
  simp only [isNameStart, Bool.or_eq_true, beq_iff_eq] at h
  simp only [isNameChar, Text.isAlphanumeric, Bool.or_eq_true, beq_iff_eq]
  tauto

/-! ### Attribute sets -/

namespace AttributeSet

theorem insertEntry_eq_append {name value : String} {es : List (String × String)}
    (fresh : ∀ e ∈ es, ¬ Text.sameName e.1 name) :
    insertEntry name value es = es ++ [(name, value)] := by
  induction es with
  | nil => rfl
  | cons e es ih =>
    obtain ⟨other, fresh⟩ := List.forall_mem_cons.mp fresh
    rw [insertEntry, if_neg other, ih fresh, List.cons_append]

/-- Attributes with different names are all kept, in their order. -/
theorem ofList_eq {es : List (String × String)}
    (distinct : es.Pairwise fun d e => ¬ Text.sameName d.1 e.1) : ofList es = ⟨es⟩ := by
  induction es using List.reverseRecOn with
  | nil => rfl
  | append_singleton es e ih =>
    obtain ⟨earlier, -, fresh⟩ := List.pairwise_append.mp distinct
    -- The last attribute is new to the set of the others, so it is added at its end.
    have inserted : ofList (es ++ [e]) = (ofList es).insert e.1 e.2 := by
      simp [ofList]
    rw [inserted, ih earlier, insert]
    rw [insertEntry_eq_append fun d hd => fresh d hd e List.mem_cons_self]

end AttributeSet

namespace Scanner

variable {t : Scanner} {c : Char} {cs : List Char} {ps : List Pending} {n : String}
  {a : AttributeSet} {start : Position} {host : AttributeHost}

/-! ### Pieces of a tag -/

/-- White space ends a name, and means nothing between attributes. -/
theorem matches_blank (hs : t.state = .tagName ∨ t.state = .tag) (blank : Text.isBlank c) :
    (t.advance c).Matches { t with state := .tag } := by
  obtain hs | hs := hs
  · have stepped : t.step c = t.inTagName c := by rw [step, hs]
    have close : c ≠ '>' := by
      rintro rfl
      exact absurd blank (by decide)
    have slash : c ≠ '/' := by
      rintro rfl
      exact absurd blank (by decide)
    have angle : c ≠ '<' := by
      rintro rfl
      exact absurd blank (by decide)
    rw [advance, stepped, inTagName, if_neg (not_isNameChar_of_isBlank blank), if_neg close,
      if_neg slash, if_neg angle]
    exact ⟨_, _, _, rfl⟩
  · have stepped : t.step c = t.inTag c := by rw [step, hs]
    rw [advance, stepped, inTag, if_pos blank, ← hs]
    exact ⟨_, _, _, rfl⟩

theorem matches_gap {gap : List Char} (hs : t.state = .tagName ∨ t.state = .tag)
    (blank : ∀ c ∈ gap, Text.isBlank c) (nonempty : gap ≠ []) :
    (t.advanceAll gap).Matches { t with state := .tag } := by
  induction gap generalizing t with
  | nil => exact absurd rfl nonempty
  | cons c gap ih =>
    obtain ⟨first, rest⟩ := List.forall_mem_cons.mp blank
    have passed := matches_blank hs first
    by_cases last : gap = []
    · subst last
      exact passed
    · refine (ih (t := t.advance c) (.inr passed.state) rest last).trans ?_
      obtain ⟨_, _, _, passed⟩ := passed
      rw [passed]
      exact ⟨_, _, _, rfl⟩

theorem matches_attributeNameRest (hs : t.state = .attributeName host)
    (continues : ∀ c ∈ cs, isNameChar c) :
    (t.advanceAll cs).Matches { t with attrName := t.attrName ++ String.ofList cs } := by
  induction cs generalizing t with
  | nil =>
    rw [String.ofList_nil, String.append_empty]
    exact .refl t
  | cons c cs ih =>
    obtain ⟨first, rest⟩ := List.forall_mem_cons.mp continues
    have stepped : t.step c = t.inAttributeName host c := by rw [step, hs]
    rw [inAttributeName, if_pos first] at stepped
    refine (ih (t := t.advance c) (by rw [advance, stepped]; exact hs) rest).trans ?_
    rw [advance, stepped, push_append_ofList]
    exact ⟨_, _, _, rfl⟩

/-- A name begins an attribute. -/
theorem matches_attributeName (hs : t.state = .tag) (name : MarkupName) :
    (t.advanceAll name.source).Matches
      { t with
        state := .attributeName .element
        selfClosing := false
        lastAttr := none
        attrName := name.text } := by
  have starts := name.starts
  have stepped : t.step name.first = t.inTag name.first := by rw [step, hs]
  have blank : ¬ Text.isBlank name.first := fun blank =>
    not_isNameChar_of_isBlank blank (isNameChar_of_isNameStart starts)
  -- The marks of a tag begin no name.
  have other {d : Char} (hd : isNameStart d = false) : name.first ≠ d := by
    rintro rfl
    exact absurd starts (by simp [hd])
  rw [inTag, if_neg blank, if_neg (other (by decide)), if_neg (other (by decide)),
    if_neg fun equals => other (by decide) equals.1, if_neg (other (by decide)),
    if_pos starts] at stepped
  refine (matches_attributeNameRest (t := t.advance name.first)
    (by rw [advance, stepped]) name.continues).trans ?_
  rw [advance, stepped, ← String.ofList_cons]
  exact ⟨_, _, _, rfl⟩

theorem matches_equals (hs : t.state = .attributeName host) :
    (t.advance '=').Matches { t with attrValue := "", state := .attributeValue host .pending } := by
  have stepped : t.step '=' = t.inAttributeName host '=' := by rw [step, hs]
  rw [advance, stepped, inAttributeName, if_neg (by decide), if_pos rfl]
  exact ⟨_, _, _, rfl⟩

/-- An attribute that has a name is given to the element. -/
theorem endAttribute_element (hp : t.pending = .element n a start :: ps)
    (named : t.attrName.isEmpty = false) :
    t.endAttribute =
      { t with
        pending := .element n (a.insert t.attrName t.attrValue) start :: ps
        attrName := ""
        attrValue := "" } := by
  simp [endAttribute, named, hp, insertPending?]

/-- A value in quotes is given to the element. -/
theorem matches_elementValue (hs : t.state = .attributeValue .element .pending)
    (hlt : t.pendingLt = none) (hp : t.pending = .element n a start :: ps)
    (named : t.attrName.isEmpty = false) (v : QuotedValue) :
    (t.advanceAll v.source).Matches
      { t with
        state := .tag
        pending :=
          .element n (a.insert t.attrName (t.attrValue ++ String.ofList v.inner)) start :: ps
        attrName := ""
        attrValue := "" } := by
  refine (matches_value hs hlt v).trans ?_
  rw [endAttribute_element (t := { t with attrValue := t.attrValue ++ String.ofList v.inner }) hp
    named]
  exact .refl _

/-- White space, a name and an equals sign begin the value of an attribute. -/
theorem matches_attributeStart {gap : List Char} (hs : t.state = .tagName ∨ t.state = .tag)
    (blank : ∀ c ∈ gap, Text.isBlank c) (separated : gap ≠ []) (name : MarkupName) :
    (t.advanceAll (gap ++ (name.source ++ ['=']))).Matches
      { t with
        state := .attributeValue .element .pending
        selfClosing := false
        lastAttr := none
        attrName := name.text
        attrValue := "" } := by
  rw [advanceAll_append, advanceAll_append, advanceAll_cons, advanceAll_nil]
  -- Part by part, each scanner is forgotten but for what it matches.
  have space := matches_gap hs blank separated
  generalize t.advanceAll gap = t₁ at space ⊢
  have named : (t₁.advanceAll name.source).Matches
      { t with
        state := .attributeName .element
        selfClosing := false
        lastAttr := none
        attrName := name.text } := by
    refine (matches_attributeName space.state name).trans ?_
    obtain ⟨_, _, _, rfl⟩ := space
    exact ⟨_, _, _, rfl⟩
  generalize t₁.advanceAll name.source = t₂ at named ⊢
  refine (matches_equals named.state).trans ?_
  obtain ⟨_, _, _, rfl⟩ := named
  exact ⟨_, _, _, rfl⟩

/-- An attribute is read as it is written. -/
theorem matches_attribute (hs : t.state = .tagName ∨ t.state = .tag) (hlt : t.pendingLt = none)
    (hp : t.pending = .element n a start :: ps) (w : WrittenAttribute) :
    (t.advanceAll w.source).Matches
      { t with
        state := .tag
        pending := .element n (a.insert w.entry.1 w.entry.2) start :: ps
        selfClosing := false
        lastAttr := none
        attrName := ""
        attrValue := "" } := by
  have source : w.source = (w.gap ++ (w.name.source ++ ['='])) ++ w.value.source := by
    simp [WrittenAttribute.source]
  rw [source, advanceAll_append]
  have begun := matches_attributeStart hs w.blank w.separated w.name
  generalize t.advanceAll (w.gap ++ (w.name.source ++ ['='])) = t₁ at begun ⊢
  -- The value needs to know of the scanner in front of it what is pending and what is held back.
  have held : t₁.pendingLt = none := begun.pendingLt.trans hlt
  have hname : t₁.attrName = w.name.text := begun.attrName
  have hvalue : t₁.attrValue = "" := begun.attrValue
  have named : t₁.attrName.isEmpty = false := hname ▸ w.name.isEmpty_text
  refine (matches_elementValue begun.state held (begun.pending.trans hp) named w.value).trans ?_
  rw [hname, hvalue, String.empty_append]
  obtain ⟨_, _, _, rfl⟩ := begun
  exact ⟨_, _, _, rfl⟩

/-! ### Whole tags -/

/-- All that has been read is the beginning of a start tag. -/
def InStartTag (t : Scanner) (name : String) (attributes : AttributeSet) : Prop :=
  ∃ state attrName attrValue lastAttr, (state = .tagName ∨ state = .tag) ∧
    t.Matches { state, pending := [.element name attributes {}], attrName, attrValue, lastAttr }

theorem matches_tagNameRest (hs : t.state = .tagName) (hp : t.pending = .element n a start :: ps)
    (continues : ∀ c ∈ cs, isNameChar c) :
    (t.advanceAll cs).Matches
      { t with pending := .element (n ++ String.ofList cs) a start :: ps } := by
  induction cs generalizing t n with
  | nil =>
    rw [String.ofList_nil, String.append_empty, ← hp]
    exact .refl t
  | cons c cs ih =>
    obtain ⟨first, rest⟩ := List.forall_mem_cons.mp continues
    have stepped : t.step c = t.inTagName c := by rw [step, hs]
    rw [inTagName, if_pos first, modifyTop_eq (f := Pending.pushName? c) hp rfl] at stepped
    refine (ih (t := t.advance c) (n := n.push c) (by rw [advance, stepped]; exact hs)
      (by rw [advance, stepped]) rest).trans ?_
    rw [advance, stepped, push_append_ofList]
    exact ⟨_, _, _, rfl⟩

/-- Behind an angle bracket, a name begins an element. -/
theorem inFree_nameStart {lt : Position} (hlt : t.pendingLt = some lt) (starts : isNameStart c) :
    t.inFree c =
      { ({ t with pendingLt := none } : Scanner).endText lt with
        pending := .element (String.singleton c) {} lt ::
          (({ t with pendingLt := none } : Scanner).endText lt).pending
        selfClosing := false
        lastAttr := none
        state := .tagName } := by
  have other {d : Char} (hd : isNameStart d = false) : c ≠ d := by
    rintro rfl
    exact absurd starts (by simp [hd])
  rw [inFree, hlt]
  simp only
  rw [if_neg (other (by decide)), if_neg (other (by decide)), if_neg (other (by decide)),
    if_pos starts]

/-- A name behind an angle bracket begins a start tag. -/
theorem inStartTag_name (name : MarkupName) :
    (({} : Scanner).advanceAll ('<' :: name.source)).InStartTag name.text {} := by
  -- The bracket is held back as text until the name shows that it opens a tag.
  have angle : (({} : Scanner).advance '<').Matches
      { textStart := some {}, pendingLt := some {} } := ⟨_, _, _, rfl⟩
  rw [advanceAll_cons, MarkupName.source, advanceAll_cons]
  generalize ({} : Scanner).advance '<' = t₁ at angle ⊢
  have first : (t₁.advance name.first).Matches
      { state := .tagName, pending := [.element (String.singleton name.first) {} {}] } := by
    obtain ⟨_, _, _, rfl⟩ := angle
    rw [advance, step, inFree_nameStart rfl name.starts]
    exact ⟨_, _, _, rfl⟩
  generalize t₁.advance name.first = t₂ at first ⊢
  refine ⟨.tagName, "", "", none, .inl rfl, ?_⟩
  have rest := matches_tagNameRest first.state first.pending name.continues
  rw [← String.ofList_cons] at rest
  refine rest.trans ?_
  obtain ⟨_, _, _, rfl⟩ := first
  exact ⟨_, _, _, rfl⟩

/-- An attribute follows. -/
theorem InStartTag.attribute (h : t.InStartTag n a) (w : WrittenAttribute) :
    (t.advanceAll w.source).InStartTag n (a.insert w.entry.1 w.entry.2) := by
  obtain ⟨state, attrName, attrValue, lastAttr, between, matched⟩ := h
  have hs : t.state = .tagName ∨ t.state = .tag := by rwa [matched.state]
  refine ⟨.tag, "", "", none, .inr rfl, ?_⟩
  refine (matches_attribute hs matched.pendingLt matched.pending w).trans ?_
  obtain ⟨_, _, _, rfl⟩ := matched
  exact ⟨_, _, _, rfl⟩

theorem InStartTag.attributes (h : t.InStartTag n a) (ws : List WrittenAttribute) :
    (t.advanceAll (ws.flatMap WrittenAttribute.source)).InStartTag n
      ((ws.map WrittenAttribute.entry).foldl (fun a (name, value) => a.insert name value) a) := by
  induction ws generalizing t a with
  | nil => exact h
  | cons w ws ih =>
    rw [List.flatMap_cons, advanceAll_append]
    exact ih (h.attribute w)

/-- White space follows, or nothing. -/
theorem InStartTag.gap (h : t.InStartTag n a) {gap : List Char}
    (blank : ∀ c ∈ gap, Text.isBlank c) : (t.advanceAll gap).InStartTag n a := by
  by_cases nonempty : gap = []
  · subst nonempty
    exact h
  · obtain ⟨state, attrName, attrValue, lastAttr, between, matched⟩ := h
    have hs : t.state = .tagName ∨ t.state = .tag := by rwa [matched.state]
    refine ⟨.tag, attrName, attrValue, lastAttr, .inr rfl, ?_⟩
    refine (matches_gap hs blank nonempty).trans ?_
    obtain ⟨_, _, _, rfl⟩ := matched
    exact ⟨_, _, _, rfl⟩

/-- A slash tells that nothing follows the tag. -/
theorem matches_slash (hs : t.state = .tagName ∨ t.state = .tag) :
    (t.advance '/').Matches { t with state := .tag, selfClosing := true } := by
  obtain hs | hs := hs
  · have stepped : t.step '/' = t.inTagName '/' := by rw [step, hs]
    rw [advance, stepped, inTagName, if_neg (by decide), if_neg (by decide), if_pos rfl]
    exact ⟨_, _, _, rfl⟩
  · have stepped : t.step '/' = t.inTag '/' := by rw [step, hs]
    rw [advance, stepped, inTag, if_neg (by decide), if_neg (by decide), if_pos rfl, ← hs]
    exact ⟨_, _, _, rfl⟩

/-- An angle bracket ends the tag, and no other markup is recorded of the text. -/
theorem exists_events_close {state : ScannerState} {attrName attrValue : String}
    {lastAttr : Option String} {selfClosing : Bool} (between : state = .tagName ∨ state = .tag)
    (h : t.Matches
      { state, pending := [.element n a {}], attrName, attrValue, lastAttr, selfClosing }) :
    ∃ opensScope,
      (t.advance '>').finish.events =
        #[.startTag
          { name := TagName.parse n, attributes := a
            startTag := ⟨{}, (t.advance '>').position⟩, selfClosing } opensScope] := by
  have stepped : t.step '>' = t.endStartTag (t.position.advance '>') := by
    rw [step, h.state]
    obtain rfl | rfl := between
    · exact (if_neg (by decide)).trans (if_pos rfl)
    · exact (if_neg (by decide)).trans (if_pos rfl)
  refine ⟨!selfClosing && !(TagName.parse n).isVoid, ?_⟩
  obtain ⟨_, _, _, rfl⟩ := h
  rw [advance, stepped]
  simp only [endStartTag, record]
  split <;> simp [finish, endText]

/-- The end of the tag records it. -/
theorem InStartTag.exists_events (h : t.InStartTag n a) (selfClosing : Bool) :
    ∃ opensScope,
      (t.advanceAll (if selfClosing then ['/', '>'] else ['>'])).finish.events =
        #[.startTag
          { name := TagName.parse n, attributes := a
            startTag :=
              ⟨{}, (t.advanceAll (if selfClosing then ['/', '>'] else ['>'])).position⟩
            selfClosing } opensScope] := by
  obtain ⟨state, attrName, attrValue, lastAttr, between, matched⟩ := h
  cases selfClosing with
  | false => exact exists_events_close between matched
  | true =>
    have hs : t.state = .tagName ∨ t.state = .tag := by rwa [matched.state]
    have slash : (t.advance '/').Matches
        { state := .tag, pending := [.element n a {}], attrName, attrValue, lastAttr
          selfClosing := true } := by
      refine (matches_slash hs).trans ?_
      obtain ⟨_, _, _, rfl⟩ := matched
      exact ⟨_, _, _, rfl⟩
    exact exists_events_close (.inr rfl) slash

/-- Of a written start tag, the tag is recorded and nothing else. -/
theorem exists_events_source (w : WrittenTag) :
    ∃ opensScope,
      (readAll (String.ofList w.source)).finish.events = #[.startTag w.tag opensScope] := by
  have source : w.source =
      ('<' :: w.name.source) ++ (w.attributes.flatMap WrittenAttribute.source ++
        (w.gap ++ if w.selfClosing then ['/', '>'] else ['>'])) := by
    simp [WrittenTag.source]
  have kept : AttributeSet.ofList (w.attributes.map WrittenAttribute.entry) =
      ⟨w.attributes.map WrittenAttribute.entry⟩ :=
    AttributeSet.ofList_eq (List.pairwise_map.mpr w.distinct)
  rw [AttributeSet.ofList] at kept
  obtain ⟨opensScope, events⟩ :=
    (((inStartTag_name w.name).attributes w.attributes).gap w.blank).exists_events w.selfClosing
  refine ⟨opensScope, ?_⟩
  rw [← advanceAll_append, ← advanceAll_append, ← advanceAll_append, ← source,
    position_advanceAll, kept] at events
  rwa [readAll, String.toList_ofList]

end Scanner

/-- The tree of a single start tag. -/
theorem Node.ofEvents_startTag (tag : Tag) (opensScope : Bool) (stop : Position) :
    ofEvents [.startTag tag opensScope] stop =
      .mk .document ⟨{}, stop⟩ [.mk (.tag tag) tag.startTag []] := by
  cases opensScope with
  | false =>
    simp [ofEvents, FrameStack.step, FrameStack.attach, FrameStack.finish, FrameStack.finishIn,
      Frame.attach, Frame.toNode]
  | true =>
    simp [ofEvents, FrameStack.step, FrameStack.push, FrameStack.finish, FrameStack.finishIn,
      Frame.attach, Frame.unclosed, Frame.toNode]

/-- Reading a written start tag gives it back. -/
theorem Node.parse_source (w : WrittenTag) :
    parse (String.ofList w.source) =
      .mk .document ⟨{}, Text.place w.source⟩ [.mk (.tag w.tag) ⟨{}, Text.place w.source⟩ []] := by
  obtain ⟨opensScope, events⟩ := Scanner.exists_events_source w
  rw [parse_eq, events, Scanner.readAll, Scanner.position_advanceAll, String.toList_ofList]
  exact ofEvents_startTag w.tag opensScope _

/-- A written tag with an attribute whose value holds a server block. -/
example : ∃ w : WrittenTag, String.ofList w.source = "<a b='<%=c%>'/>" :=
  let name : MarkupName := ⟨'a', [], by decide, by simp⟩
  let block : ServerValue := ⟨'=', .render, rfl, ['c'], by decide⟩
  let value : QuotedValue := ⟨.single, '\'', rfl, [.block block], by simp, by simp⟩
  let written : WrittenAttribute :=
    ⟨[' '], by simp [Text.isBlank], by simp, ⟨'b', [], by decide, by simp⟩, value⟩
  ⟨⟨name, [written], by simp, [], by simp, true⟩, rfl⟩

end WebForms
