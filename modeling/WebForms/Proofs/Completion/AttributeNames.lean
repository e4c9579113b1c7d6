import WebForms.Proofs.Scanner.EnclosingTag
import WebForms.Proofs.Text.LetterCase
import WebForms.Workbench

/-!
# Attributes that are offered

In a start tag, the attributes that are offered are those that the tag may have and that have not
been read in front of the cursor. What stands behind the cursor in the same tag has not been read,
and is offered once more.

## Main definitions

* `CompletionItem.attributeName` — the attribute that an item stands for
* `attributeCandidates` — the attributes that a tag may have, with their items
* `Scanner.attributesRead` — the attributes in front of a place

## Main results

* `exists_mem_attributeItems_iff` — the attributes that are offered with those of a tag
* `Workbench.complete_of_mem_tags` — the attributes that are offered at a cursor in a start tag
-/

namespace WebForms

/-- The attribute that an item stands for: the label up to an equals sign. -/
def CompletionItem.attributeName (e : CompletionItem) : String :=
  Text.firstSegment (· == '=') e.label

/-- The members of a control that its tag may have, but for the identifier. -/
def furtherAttributes (tag : TagName) (d : Option ControlDescriptor) : List CompletionItem :=
  (if tag.isPrefixed then d.elim [] memberAttributes else []).filter
    fun e => !Text.sameName e.label "id"

/-- The attributes that a tag may have, each with its item. -/
def attributeCandidates (tag : TagName) (d : Option ControlDescriptor) :
    List (String × CompletionItem) :=
  [("runat", runatItem), ("id", idItem)] ++
    (furtherAttributes tag d).map fun e => (e.label, e)

section

variable {tag : TagName} {d : Option ControlDescriptor} {existing : AttributeSet}
  {e : CompletionItem} {name : String}

theorem mem_commonAttributes :
    e ∈ commonAttributes existing ↔
      e = runatItem ∧ existing.contains "runat" = false ∨
        e = idItem ∧ existing.contains "id" = false := by
  unfold commonAttributes
  rw [List.mem_append]
  cases existing.contains "runat" <;> cases existing.contains "id" <;> simp

theorem mem_attributeCandidates :
    (name, e) ∈ attributeCandidates tag d ↔
      (name = "runat" ∧ e = runatItem ∨ name = "id" ∧ e = idItem) ∨
        e ∈ furtherAttributes tag d ∧ e.label = name := by
  unfold attributeCandidates
  rw [List.mem_append, List.mem_map]
  simp only [List.mem_cons, List.not_mem_nil, or_false, Prod.mk.injEq]
  refine or_congr_right ?_
  constructor
  · rintro ⟨e, he, rfl, rfl⟩
    exact ⟨he, rfl⟩
  · rintro ⟨he, rfl⟩
    exact ⟨e, he, rfl, rfl⟩

/-- What every element may have stands in front of the members of the control. -/
theorem attributeItems_eq (tag : TagName) (d : Option ControlDescriptor)
    (existing : AttributeSet) :
    attributeItems tag d existing =
      commonAttributes existing ++
        Text.distinctFrom (·.label) (commonAttributes existing)
          ((furtherAttributes tag d).filter fun e => !existing.contains e.label) := by
  unfold attributeItems furtherAttributes
  cases d with
  | none => simp [Text.distinctFrom]
  | some d =>
    by_cases prefixed : tag.isPrefixed
    · simp only [prefixed, if_true, Option.elim_some, List.filter_filter]
      simp only [Bool.and_comm]
    · simp [prefixed, Text.distinctFrom]

/-- What is offered is a candidate that is not there. -/
theorem exists_of_mem_attributeItems (h : e ∈ attributeItems tag d existing) :
    ∃ name, (name, e) ∈ attributeCandidates tag d ∧ existing.contains name = false := by
  rw [attributeItems_eq, List.mem_append] at h
  obtain common | further := h
  · obtain ⟨runat, absent⟩ | ⟨id, absent⟩ := mem_commonAttributes.mp common
    · exact ⟨"runat", mem_attributeCandidates.mpr (.inl (.inl ⟨rfl, runat⟩)), absent⟩
    · exact ⟨"id", mem_attributeCandidates.mpr (.inl (.inr ⟨rfl, id⟩)), absent⟩
  · obtain ⟨member, absent⟩ :=
      List.mem_filter.mp ((Text.distinctFrom_sublist _ _ _).subset further)
    exact ⟨e.label, mem_attributeCandidates.mpr (.inr ⟨member, rfl⟩), by simpa using absent⟩

/-- For a candidate that is not there, an item of this name is offered. -/
theorem exists_mem_attributeItems (h : (name, e) ∈ attributeCandidates tag d)
    (absent : existing.contains name = false) :
    ∃ e' ∈ attributeItems tag d existing, Text.sameName e'.label e.label = true := by
  rw [attributeItems_eq]
  obtain (⟨rfl, rfl⟩ | ⟨rfl, rfl⟩) | ⟨member, rfl⟩ := mem_attributeCandidates.mp h
  · have offered := mem_commonAttributes.mpr (.inl ⟨rfl, absent⟩)
    exact ⟨runatItem, List.mem_append_left _ offered, Text.sameName_self _⟩
  · have offered := mem_commonAttributes.mpr (.inr ⟨rfl, absent⟩)
    exact ⟨idItem, List.mem_append_left _ offered, Text.sameName_self _⟩
  · -- The item itself may be left out, but only if its name is offered already.
    exact Text.exists_mem_distinctFrom (List.mem_filter.mpr ⟨member, by simp [absent]⟩)

/-- Items with the same label stand for the same attribute. -/
theorem sameName_attributeName {e e' : CompletionItem}
    (h : Text.sameName e.label e'.label = true) :
    Text.sameName e.attributeName e'.attributeName = true := by
  have sign (c : Char) : (c.toLower == '=') = (c == '=') := by
    rw [Bool.eq_iff_iff, beq_iff_eq, beq_iff_eq, Text.toLower_eq_iff rfl]
  rw [Text.sameName_iff] at h ⊢
  unfold CompletionItem.attributeName
  rw [Text.toLower_firstSegment sign, Text.toLower_firstSegment sign, h]

/-- The attributes that are offered are the candidates that are not there. -/
theorem exists_mem_attributeItems_iff (tag : TagName) (d : Option ControlDescriptor)
    (existing : AttributeSet) (x : String) :
    (∃ e ∈ attributeItems tag d existing, Text.sameName e.attributeName x = true) ↔
      ∃ c ∈ attributeCandidates tag d, Text.sameName c.2.attributeName x = true ∧
        existing.contains c.1 = false := by
  constructor
  · rintro ⟨e, he, same⟩
    obtain ⟨name, candidate, absent⟩ := exists_of_mem_attributeItems he
    exact ⟨(name, e), candidate, same, absent⟩
  · rintro ⟨⟨name, e⟩, candidate, same, absent⟩
    obtain ⟨e', he', label⟩ := exists_mem_attributeItems candidate absent
    have named := sameName_attributeName label
    rw [Text.sameName_iff] at named same
    exact ⟨e', he', Text.sameName_iff.mpr (named.trans same)⟩

end

/-- What depends on the descriptor of a type is taken with the one that is made from the index. -/
@[simp] theorem Lookup.fromIndex_ofType? {α : Type} (ix : TypeIndex) (t : Option TypeDefinition)
    (value : Option ControlDescriptor → α) :
    (ofType? t value).fromIndex ix = value (t.map (.ofType ix)) := by
  cases t <;> rfl

/-- The items for a tag are made with the members of its control, if it has a prefix. -/
theorem attributeItems_memberSource? (b : Toolbox) (tag : TagName) (existing : AttributeSet) :
    attributeItems tag ((memberSource? b tag).map (.ofType b.index)) existing =
      attributeItems tag (b.descriptor? tag) existing := by
  unfold memberSource? Toolbox.descriptor?
  by_cases prefixed : tag.isPrefixed
  · rw [if_pos prefixed]
  · simp [attributeItems_eq, furtherAttributes, prefixed]

namespace Scanner

/-- The attributes that have been read of the construct around the place. -/
def attributesRead (t : Scanner) : AttributeSet :=
  (t.attributeHolder?.bind Pending.attributes?).getD {}

variable {t : Scanner} {n : String} {a : AttributeSet} {start : Position}

theorem attributeHolder?_of_element (hp : t.pending = [.element n a start]) :
    t.attributeHolder? = some (.element n a start) := by
  rw [attributeHolder?, hp]
  rfl

/-- Between the attributes of a start tag, the name of an attribute is completed. -/
theorem Reached.target_of_tag (h : t.Reached) (hs : t.state = .tag) :
    t.target = .attributeName .element := by
  simp [target, CompletionTarget.ofState, CompletionTarget.ofPlainState, hs, h.lastChar_ne hs]

end Scanner

namespace Snapshot

variable {s : Snapshot} {p : Position} {c : Cursor}

/-- A cursor has a place in the text, up to which the text has been read. -/
theorem cursorAt_eq_ok_iff :
    s.cursorAt p = .ok c ↔
      ∃ i, Text.index? s.text.toList p = some i ∧
        c = ⟨({} : Scanner).advanceAll (s.text.toList.take i),
          String.ofList (s.text.toList.drop i)⟩ := by
  unfold cursorAt indexOf
  cases Text.index? s.text.toList p with
  | none => simp [bind, Except.bind]
  | some i => simp [bind, Except.bind, pure, Except.pure, eq_comm]

/-- A cursor divides the text of the document. -/
theorem exists_of_cursorAt (h : s.cursorAt p = .ok c) :
    ∃ cs ds, s.text = String.ofList (cs ++ ds) ∧ c.scanner = ({} : Scanner).advanceAll cs := by
  obtain ⟨i, -, rfl⟩ := cursorAt_eq_ok_iff.mp h
  exact ⟨s.text.toList.take i, s.text.toList.drop i, by simp, rfl⟩

end Snapshot

namespace Workbench

variable {w : Workbench} {s : Snapshot} {c : Cursor} {n : String} {a : AttributeSet}
  {start : Position}

/-- Between the attributes of a start tag, the items are made for the element that is being read
and the attributes that have been read of it. -/
theorem itemsAt_of_element (reached : c.scanner.Reached) (hs : c.scanner.state = .tag)
    (hp : c.scanner.pending = [.element n a start]) :
    w.itemsAt s c =
      attributeItems (.parse n) ((s.toolbox w.index).descriptor? (.parse n)) a := by
  rw [itemsAt, lookupAt, reached.target_of_tag hs]
  simp only [attributeNamesAt, Scanner.attributeHolder?_of_element hp]
  rw [Lookup.fromIndex_ofType?]
  exact attributeItems_memberSource? (s.toolbox w.index) (.parse n) a

theorem complete_of_cursorAt {p : Position} (h : s.cursorAt p = .ok c) :
    w.complete s p = .ok (w.itemsAt s c) := by
  rw [complete, h]
  rfl

/-- Where a cursor stands between the attributes in the start tag of an element of the tree, the
attributes that are offered are those that the element may have, without those in front of the
cursor. What the start tag has behind the cursor is offered once more. -/
theorem complete_of_mem_tags (w : Workbench) {uri : Uri} {version : Int} {text : String}
    {p : Position} {c : Cursor} {tag : Tag}
    (cursor : (Snapshot.make uri version text).cursorAt p = .ok c)
    (hs : c.scanner.state = .tag) (mem : tag ∈ (Snapshot.make uri version text).root.tags)
    (before : tag.startTag.start < c.scanner.position)
    (behind : c.scanner.position < tag.startTag.stop) :
    c.scanner.attributesRead.names <+: tag.attributes.names ∧
      ∃ items, w.complete (.make uri version text) p = .ok items ∧
        ∀ x, (∃ e ∈ items, Text.sameName e.attributeName x = true) ↔
          ∃ k ∈ attributeCandidates tag.name
              (((Snapshot.make uri version text).toolbox w.index).descriptor? tag.name),
            Text.sameName k.2.attributeName x = true ∧
              c.scanner.attributesRead.contains k.1 = false := by
  obtain ⟨cs, ds, divided, scanned⟩ := Snapshot.exists_of_cursorAt cursor
  have reached : c.scanner.Reached := scanned ▸ Scanner.reached_advanceAll cs
  -- What is being read at the cursor is the element of the tree.
  obtain ⟨n, a, hp, named, front⟩ :
      ∃ n a, c.scanner.pending = [.element n a tag.startTag.start] ∧
        tag.name = TagName.parse n ∧ a.names <+: tag.attributes.names := by
    rw [scanned] at hs before behind ⊢
    obtain rfl : text = String.ofList (cs ++ ds) := divided
    exact Node.exists_prefix_of_mem_tags hs mem before behind
  have read : c.scanner.attributesRead = a := by
    rw [Scanner.attributesRead, Scanner.attributeHolder?_of_element hp]
    rfl
  rw [read, named]
  refine ⟨front, _, complete_of_cursorAt cursor, fun x => ?_⟩
  rw [itemsAt_of_element reached hs hp]
  exact exists_mem_attributeItems_iff _ _ a x

/-! ### An identifier behind the cursor -/

/-- A document with one tag, which has its identifier behind a gap. -/
def gapDocument : Snapshot :=
  .make ⟨"file", none, .divided ["Default.aspx"], none, none⟩ 1 "<a  id=\"x\">"

/-- The tag of that document. -/
def gapTag : Tag where
  name := ⟨none, "a"⟩
  attributes := ⟨[("id", "x")]⟩
  startTag := ⟨⟨0, 0⟩, ⟨0, 11⟩⟩

/-- The cursor in the gap. -/
def gapCursor : Cursor := ⟨({} : Scanner).advanceAll "<a ".toList, " id=\"x\">"⟩

theorem cursorAt_gapDocument : gapDocument.cursorAt ⟨0, 3⟩ = .ok gapCursor := by
  have front : "<a ".toList = gapDocument.text.toList.take 3 := by decide +kernel
  have rest : " id=\"x\">" = String.ofList (gapDocument.text.toList.drop 3) := by decide +kernel
  refine Snapshot.cursorAt_eq_ok_iff.mpr ⟨3, by decide +kernel, ?_⟩
  rw [gapCursor, front, rest]

/-- In the gap, nothing has been read of the attributes, and the rest is as it is anywhere. -/
theorem complete_of_mem_tags_gap :
    (gapDocument.cursorAt ⟨0, 3⟩ = .ok gapCursor ∧ gapCursor.scanner.state = .tag ∧
        gapTag ∈ gapDocument.root.tags ∧
        gapTag.startTag.start < gapCursor.scanner.position ∧
        gapCursor.scanner.position < gapTag.startTag.stop) ∧
      gapCursor.scanner.attributesRead.names <+: gapTag.attributes.names ∧
      ∃ items, ({ index := {} } : Workbench).complete gapDocument ⟨0, 3⟩ = .ok items ∧
        ∀ x, (∃ e ∈ items, Text.sameName e.attributeName x = true) ↔
          ∃ k ∈ attributeCandidates gapTag.name ((gapDocument.toolbox {}).descriptor? gapTag.name),
            Text.sameName k.2.attributeName x = true ∧
              gapCursor.scanner.attributesRead.contains k.1 = false := by
  have hs : gapCursor.scanner.state = .tag := by decide +kernel
  have mem : gapTag ∈ gapDocument.root.tags := by decide +kernel
  have before : gapTag.startTag.start < gapCursor.scanner.position := by decide +kernel
  have behind : gapCursor.scanner.position < gapTag.startTag.stop := by decide +kernel
  exact ⟨⟨cursorAt_gapDocument, hs, mem, before, behind⟩,
    complete_of_mem_tags { index := {} } cursorAt_gapDocument hs mem before behind⟩

/-- Not everything that a start tag has is withheld: in the gap, the identifier is offered. -/
theorem not_withheld_behind :
    ¬ ∀ (w : Workbench) (uri : Uri) (version : Int) (text : String) (p : Position) (c : Cursor)
        (tag : Tag) (items : List CompletionItem),
      (Snapshot.make uri version text).cursorAt p = .ok c → c.scanner.state = .tag →
      tag ∈ (Snapshot.make uri version text).root.tags →
      tag.startTag.start < c.scanner.position → c.scanner.position < tag.startTag.stop →
      w.complete (.make uri version text) p = .ok items →
      ∀ e ∈ items, tag.attributes.contains e.attributeName = false := by
  intro withheld
  have offered : idItem ∈ ({ index := {} } : Workbench).itemsAt gapDocument gapCursor := by
    decide +kernel
  have absent := withheld _ _ _ _ _ gapCursor gapTag _ cursorAt_gapDocument (by decide +kernel)
    (by decide +kernel) (by decide +kernel) (by decide +kernel)
    (complete_of_cursorAt cursorAt_gapDocument) idItem offered
  exact absurd absent (by decide +kernel)

end Workbench

end WebForms
