import WebForms.Proofs.Scanner.StartTags
import WebForms.Workbench

/-!
# Closing the innermost element

Behind the beginning of a closing tag, completion offers the name of the innermost open element.
The scanner has taken this name from the start tag of the element, split it at its first colon and
put it together again. Because names begin with a letter or an underscore, nothing is lost in this,
and what is offered is read as one name and closes the element that it was taken from.

## Main definitions

* `TagName.Written`, `Skeleton.Named` — names that have been read in start tags

## Main results

* `Scanner.Reached.named` — all elements have such names
* `Scanner.closes_closingTagItems` — the item for a closing tag closes the innermost open element
-/

namespace WebForms

/-- The name has been read in a start tag. -/
def TagName.Written (name : TagName) : Prop := ∃ m : MarkupName, name = parse m.text

/-- An element has a name that has been read in its start tag. -/
def Pending.Named : Pending → Prop
  | .element n _ _ => ∃ m : MarkupName, n = m.text
  | _ => True

namespace MarkupName

/-- A name may be continued. -/
theorem exists_text_eq {n : String} {cs : List Char} (m : MarkupName)
    (grown : n.toList = m.text.toList ++ cs) (letters : ∀ c ∈ cs, isNameChar c) :
    ∃ m' : MarkupName, n = m'.text := by
  refine ⟨⟨m.first, m.rest ++ cs, m.starts, List.forall_mem_append.mpr ⟨m.continues, letters⟩⟩, ?_⟩
  rw [← String.toList_inj, grown]
  simp [text, source]

theorem isNameChar_of_mem_source {m : MarkupName} {c : Char} (h : c ∈ m.source) :
    isNameChar c := by
  rcases List.mem_cons.mp h with rfl | h
  · exact isNameChar_of_isNameStart m.starts
  · exact m.continues c h

/-- A name is split and put together again without loss. -/
theorem qualified_parse_text (m : MarkupName) : (TagName.parse m.text).qualified = m.text :=
  Scanner.qualified_parse_of_isNameStart ⟨m.first, m.rest, by simp [text, source], m.starts⟩

end MarkupName

namespace Pending

variable {p q : Pending} {state next : ScannerState} {c : Char}

theorem Begins.named (h : p.Begins c) : p.Named := by
  cases p with
  | element n a start =>
    obtain ⟨first, starts, -⟩ := h
    refine ⟨⟨c, [], starts, nofun⟩, ?_⟩
    rw [← String.toList_inj, first]
    simp [MarkupName.text, MarkupName.source]
  | directive | block | closingTag | comment => trivial

theorem Continues.named (h : p.Continues state next q) (named : p.Named) : q.Named := by
  cases q with
  | element n' a' start' =>
    cases p with
    | element n a start =>
      obtain ⟨-, -, ⟨cs, grown, letters⟩, -⟩ := h
      obtain ⟨m, rfl⟩ := named
      exact m.exists_text_eq grown letters
    | directive | block | closingTag | comment => exact h.elim
  | directive | block | closingTag | comment => trivial

end Pending

/-! ### All elements have names that have been read -/

namespace Skeleton

variable {c : Char} {here stop : Position} {s u v : Skeleton} {p : Pending} {ps : List Pending}

/-- All elements that are read or open have names that have been read. -/
structure Named (s : Skeleton) : Prop where
  pending : ∀ p ∈ s.pending, p.Named
  openElements : ∀ e ∈ s.openElements, e.name.Written

theorem Stays.named (stays : Stays here s u) (h : s.Named) : u.Named where
  pending := by
    obtain ⟨p, q, ps, hs, hu, -⟩ := stays.top
    obtain ⟨top, outer⟩ := List.forall_mem_cons.mp (hs ▸ h.pending)
    rw [hu]
    exact List.forall_mem_cons.mpr ⟨(stays.continues p q ps hs hu).named top, outer⟩
  openElements := by
    rw [stays.openElements]
    exact h.openElements

/-- An element that is opened has the name that was read in its start tag. -/
theorem TagEnd.named (e : TagEnd stop s v) (h : s.Named) : v.Named := by
  have outer {p : Pending} {ps : List Pending} (hp : s.pending = p :: ps) : ∀ q ∈ ps, q.Named :=
    (List.forall_mem_cons.mp (hp ▸ h.pending)).2
  cases e with
  | leaf hp | nameless hp => exact ⟨outer hp, h.openElements⟩
  | closing hp name =>
    exact ⟨outer hp, fun e he => h.openElements e (Scanner.closeInnermost_sublist.subset he)⟩
  | scope hp tag _ _ _ named | raw hp tag _ _ _ named =>
    obtain ⟨m, rfl⟩ := (List.forall_mem_cons.mp (hp ▸ h.pending)).1
    exact ⟨outer hp, List.forall_mem_cons.mpr ⟨⟨m, named⟩, h.openElements⟩⟩

theorem Named.takeUp (h : s.Named) (hp : s.pending = p :: ps) (events : Array MarkupEvent) :
    ({ s with events }.takeUp ps).Named :=
  ⟨(List.forall_mem_cons.mp (hp ▸ h.pending)).2, h.openElements⟩

/-- Whatever a character does, all elements have names that have been read. -/
theorem Turn.named (turn : Turn c here s u) (h : s.Named) : u.Named := by
  cases turn with
  | text | rawChar | rawAngle => exact ⟨h.pending, h.openElements⟩
  | @opening hs lt hlt p state start suits begins =>
    obtain ⟨events, ended⟩ := endText_eq { s with pendingLt := none } lt
    rw [ended]
    exact ⟨List.forall_mem_cons.mpr ⟨begins.named, h.pending⟩, h.openElements⟩
  | @suspend hs lt hlt p start suits =>
    have named : p.Named := by
      cases p with
      | element => exact suits.elim
      | directive | block | closingTag | comment => trivial
    exact ⟨List.forall_mem_cons.mpr ⟨named, h.pending⟩, h.openElements⟩
  | stay stays => exact stays.named h
  | endTag stays hlt e => exact e.named (stays.named h)
  | cutTag angle stays hlt e =>
    have ended := e.named (stays.named h)
    exact ⟨ended.pending, ended.openElements⟩
  | endPlain stays hlt hp | endDirective stays hlt hp | endBlock stays hlt hp =>
    exact (stays.named h).takeUp hp _
  | dropBlock stays hlt hp => exact (stays.named h).takeUp hp _
  | endRaw hs he =>
    have outer := (List.forall_mem_cons.mp (he ▸ h.openElements)).2
    split
    · exact ⟨h.pending, outer⟩
    · exact ⟨h.pending, outer⟩

end Skeleton

namespace Scanner

variable {t : Scanner} {n : String} {start : Position} {ps : List Pending} {cs : List Char}

/-- Whatever has been read, all elements have names that have been read in their start tags. -/
theorem Reached.named (h : t.Reached) : t.skeleton.Named := by
  induction h with
  | start => exact ⟨nofun, nofun⟩
  | advance h c ih => exact (h.turn c).named ih

/-! ### Reading a closing tag -/

/-- The characters of a name are gathered. -/
theorem matches_closingName (hs : t.state = .closingTag) (hp : t.pending = .closingTag n start :: ps)
    (letters : ∀ c ∈ cs, isNameChar c) :
    (t.advanceAll cs).Matches
      { t with pending := .closingTag (n ++ String.ofList cs) start :: ps } := by
  induction cs generalizing t n with
  | nil =>
    rw [String.ofList_nil, String.append_empty, ← hp]
    exact .refl t
  | cons c cs ih =>
    obtain ⟨first, rest⟩ := List.forall_mem_cons.mp letters
    have other : c ≠ '>' := by
      rintro rfl
      exact absurd first (by decide)
    have stepped : t.step c = t.inClosingTag c := by rw [step, hs]
    rw [inClosingTag, if_neg other, if_pos first,
      modifyTop_eq (f := Pending.pushName? c) hp rfl] at stepped
    refine (ih (t := t.advance c) (n := n.push c) (by rw [advance, stepped]; exact hs)
      (by rw [advance, stepped]) rest).trans ?_
    rw [advance, stepped, push_append_ofList]
    exact ⟨_, _, _, rfl⟩

/-- A closing tag closes the innermost element of its name. -/
theorem advance_closingTag (hs : t.state = .closingTag)
    (hp : t.pending = .closingTag n start :: ps) (named : n ≠ "") :
    (t.advance '>').state = .free ∧
      (t.advance '>').openElements = closeInnermost (TagName.parse n) t.openElements := by
  have stepped : t.step '>' = t.endClosingTag (t.position.advance '>') := by
    rw [step, hs]
    exact if_pos rfl
  rw [advance, stepped, endClosingTag]
  simp only [hp, String.isEmpty_iff, named, if_false, true_and]
  rfl

/-- Where a closing tag begins and some element is open, there is one item, and reading what it
inserts closes the innermost open element and no other. -/
theorem closes_closingTagItems (cs : List Char) (start : Position)
    (hs : (({} : Scanner).advanceAll cs).state = .closingTag)
    (begins : (({} : Scanner).advanceAll cs).innermost? = some (.closingTag "" start))
    (opened : (({} : Scanner).advanceAll cs).openElements ≠ []) :
    ∃ item text, closingTagItems (({} : Scanner).advanceAll cs) = [item] ∧
      item.insertText = some text ∧
      (({} : Scanner).advanceAll (cs ++ text.toList)).state = .free ∧
      (({} : Scanner).advanceAll (cs ++ text.toList)).openElements =
        (({} : Scanner).advanceAll cs).openElements.tail := by
  have named := (reached_advanceAll cs).named
  simp only [advanceAll_append]
  generalize ({} : Scanner).advanceAll cs = t at hs begins opened named ⊢
  obtain ⟨ps, hp⟩ := List.head?_eq_some_iff.mp begins
  obtain ⟨e, es, he⟩ := List.exists_cons_of_ne_nil opened
  have innermost : e ∈ t.openElements := he ▸ List.mem_cons_self
  obtain ⟨m, hm⟩ := named.openElements e innermost
  have items : closingTagItems t =
      [{ label := "/" ++ (m.text ++ ">"), kind := .closingTag
         detail := some "Close the open element", insertText := some (m.text ++ ">") }] := by
    simp only [closingTagItems, he, List.head?_cons, hm, m.qualified_parse_text]
  refine ⟨_, _, items, rfl, ?_⟩
  -- The name is read first, and then the angle bracket ends the tag.
  have read : (t.advanceAll m.source).Matches _ :=
    matches_closingName hs hp fun c => m.isNameChar_of_mem_source
  have nonempty : m.text ≠ "" := by simp [MarkupName.text, MarkupName.source]
  have source : (m.text ++ ">").toList = m.source ++ ['>'] := by simp [MarkupName.text]
  rw [source, advanceAll_append, advanceAll_cons, advanceAll_nil]
  generalize t.advanceAll m.source = u at read ⊢
  have name : "" ++ String.ofList m.source = m.text := String.empty_append
  rw [name] at read
  obtain ⟨free, closed⟩ := advance_closingTag (read.state.trans hs) read.pending nonempty
  have same : u.openElements = t.openElements := by
    obtain ⟨_, _, _, rfl⟩ := read
    rfl
  refine ⟨free, ?_⟩
  rw [closed, same, he, closeInnermost_cons_of_agrees (by rw [hm]; exact TagName.agrees_self _),
    List.tail_cons]

/-- The name of the innermost open element has two colons, a dash and a full stop. -/
theorem closes_closingTagItems_colons :
    let t := ({} : Scanner).advanceAll "<p><a:b:c-d.e></".toList
    (t.state = .closingTag ∧ t.innermost? = some (.closingTag "" ⟨0, 14⟩) ∧
        t.openElements.length = 2) ∧
      ∃ item text, closingTagItems t = [item] ∧ item.insertText = some text ∧
        (({} : Scanner).advanceAll ("<p><a:b:c-d.e></".toList ++ text.toList)).state = .free ∧
        (({} : Scanner).advanceAll ("<p><a:b:c-d.e></".toList ++ text.toList)).openElements =
          t.openElements.tail := by
  refine ⟨⟨by decide +kernel, by decide +kernel, by decide +kernel⟩, ?_⟩
  exact closes_closingTagItems "<p><a:b:c-d.e></".toList ⟨0, 14⟩ (by decide +kernel)
    (by decide +kernel) (by decide +kernel)

end Scanner

end WebForms
