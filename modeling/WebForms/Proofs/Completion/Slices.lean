import WebForms.Proofs.Code.InsertionSlices
import WebForms.Proofs.Code.Slices
import WebForms.Proofs.Document.Slices
import WebForms.Proofs.Text.LetterCase

/-!
# No request fails on a text

Every request that cuts texts at byte offsets is repeated here with its cuts and its subtractions
checked: a document is parsed, completed at a position, asked for the call around a position, and a
handler is written into a code file. For every document, position, attribute and code file the
result is that of the request, so none of the cuts fails, and the texts that are cut out are the
right ones. The last cut is that behind the letters of an event attribute, which are two bytes since
they are two letters.

## Main definitions

* `eventNameChecked` — the event that an attribute may stand for
* `Workbench.completeChecked`, `Workbench.signatureHelpChecked` — the requests at a position

## Main results

* `requests_never_fault` — no request fails, and no part of it fails on any text
-/

namespace WebForms

open Text

/-! ### Event attributes -/

/-- The name behind the letters `On`, in any case, with which an event attribute begins. Where the
first two bytes are no text by themselves there is no such name. -/
def eventNameChecked (attributeName : String) : Checked (Option String) :=
  let cs := attributeName.toList
  match slice cs 0 2 with
  | .error _ => return none
  | .ok front =>
    if sameName (String.ofList front) "on" then do
      return some (String.ofList (← slice cs 2 (byteLength cs)))
    else return none

/-- The letters `On` in any case are two, of one byte each. -/
theorem pair_of_sameName {front : List Char} (same : sameName (String.ofList front) "on") :
    (∃ a b, front = [a, b]) ∧ byteLength front = 2 := by
  have lower : front.map Char.toLower = ['o', 'n'] := by
    rw [sameName_iff, ← String.toList_inj, toList_toLower, toList_toLower,
      String.toList_ofList] at same
    exact same.trans (by decide)
  obtain ⟨a, rest, rfl, first, behind⟩ := List.map_eq_cons_iff.mp lower
  obtain ⟨b, rest, rfl, second, nothing⟩ := List.map_eq_cons_iff.mp behind
  obtain rfl := List.map_eq_nil_iff.mp nothing
  have sizes : a.utf8Size = 1 ∧ b.utf8Size = 1 := by
    rw [← utf8Size_toLower a, ← utf8Size_toLower b, first, second]
    decide
  exact ⟨⟨a, b, rfl⟩, by simp [sizes]⟩

/-- The text begins with the letters `On` and goes on with `rest`. -/
def BeginsOn (cs rest : List Char) : Prop :=
  ∃ a b, cs = a :: b :: rest ∧ sameName (String.ofList [a, b]) "on"

theorem eventName?_of_beginsOn {name : String} {rest : List Char}
    (h : BeginsOn name.toList rest) : eventName? name = some (String.ofList rest) := by
  obtain ⟨a, b, split, same⟩ := h
  rw [eventName?, split]
  exact if_pos same

theorem eventName?_eq_none {name : String} (h : ∀ rest, ¬ BeginsOn name.toList rest) :
    eventName? name = none := by
  rw [eventName?]
  split
  next a b rest split => exact if_neg fun same => h rest ⟨a, b, split, same⟩
  next => rfl

/-- The cut behind the letters succeeds where they are the letters of an event attribute, and
elsewhere it is not made. -/
theorem eventNameChecked_eq (name : String) : eventNameChecked name = .ok (eventName? name) := by
  unfold eventNameChecked
  by_cases event : ∃ rest, BeginsOn name.toList rest
  · obtain ⟨rest, h⟩ := event
    rw [eventName?_of_beginsOn h]
    obtain ⟨a, b, split, same⟩ := h
    have size := (pair_of_sameName same).2
    have front : slice name.toList 0 2 = .ok [a, b] := by
      have cut := slice_zero_append [a, b] rest
      rwa [size, List.cons_append, List.cons_append, List.nil_append, ← split] at cut
    have back : slice name.toList 2 (byteLength name.toList) = .ok rest := by
      have cut := slice_append_byteLength [a, b] rest
      rwa [size, List.cons_append, List.cons_append, List.nil_append, ← split] at cut
    simp only [front, same, if_true, back, Checked.ok_bind]
    rfl
  · rw [eventName?_eq_none fun rest h => event ⟨rest, h⟩]
    simp only
    split
    next => rfl
    next front cut =>
      -- The two bytes may be a single letter, which is neither of the two.
      refine if_neg fun same => ?_
      obtain ⟨nothing, rest, split, start, -⟩ := slice_eq_ok_iff.mp cut
      have first : nothing <+: name.toList := ⟨front ++ rest, by rw [split, List.append_assoc]⟩
      obtain rfl : nothing = [] := eq_of_byteLength_eq first List.nil_prefix start.symm
      obtain ⟨⟨a, b, rfl⟩, -⟩ := pair_of_sameName same
      exact event ⟨rest, a, b, split, same⟩

/-! ### Attribute values -/

/-- What becomes of the value. -/
def Lookup.map {α β : Type} (f : α → β) : Lookup α → Lookup β
  | .known a => .known (f a)
  | .describe t value => .describe t fun d => f (value d)

@[simp] theorem Lookup.fromIndex_map {α β : Type} (f : α → β) (l : Lookup α) (ix : TypeIndex) :
    (l.map f).fromIndex ix = f (l.fromIndex ix) := by
  cases l <;> rfl

/-- The values for the attribute `name` of a control whose handlers are named for `owner`. -/
def valueItemsChecked (ix : TypeIndex) (d : ControlDescriptor) (codeBehind : Option CodeBehind)
    (name owner : String) : Checked (List CompletionItem) := do
  let eventName ← eventNameChecked name
  match codeBehind.bind fun c => (eventName.bind d.event?).map fun e => (c, e) with
  | some (c, e) => return handlerItems ix c e owner
  | none => return (d.property? name).elim [] propertyValues

/-- The values of an attribute of an element. -/
def elementValuesChecked (b : Toolbox) (s : Snapshot) (tag : TagName) (attributes : AttributeSet)
    (attributeName : String) : Lookup (Checked (List CompletionItem)) :=
  .ofType? (memberSource? b tag) fun
    | none => .ok []
    | some d =>
      let owner := ((attributes.get? "id").bind Text.trimmed?).getD tag.localName
      valueItemsChecked b.index d (CodeBehind.find? b s.facts s.root) attributeName owner

/-- The attribute values at a place that a scanner has reached. -/
def attributeValuesChecked (b : Toolbox) (s : Snapshot) (t : Scanner) (host : AttributeHost) :
    Lookup (Checked (List CompletionItem)) :=
  match t.attributeName? with
  | none => .known (.ok [])
  | some attributeName =>
    if attributeName.isEmpty then .known (.ok [])
    else match host, t.attributeHolder? with
      | .directive, some (.directive name _ _) =>
        .known (.ok (directiveValueItems name attributeName b.index s.registrations))
      | .element, some (.element name attributes _) =>
        elementValuesChecked b s (TagName.parse name) attributes attributeName
      | _, _ => .known (.ok [])

theorem valueItemsChecked_eq (ix : TypeIndex) (d : ControlDescriptor)
    (codeBehind : Option CodeBehind) (name owner : String) :
    valueItemsChecked ix d codeBehind name owner = .ok (valueItems ix d codeBehind name owner) := by
  rw [valueItemsChecked, eventNameChecked_eq, Checked.ok_bind, valueItems]
  cases codeBehind.bind fun c => ((eventName? name).bind d.event?).map fun e => (c, e) <;> rfl

theorem elementValuesChecked_eq (b : Toolbox) (s : Snapshot) (tag : TagName)
    (attributes : AttributeSet) (attributeName : String) :
    elementValuesChecked b s tag attributes attributeName =
      (elementValues b s tag attributes attributeName).map .ok := by
  unfold elementValuesChecked elementValues
  cases memberSource? b tag with
  | none => rfl
  | some type => simp only [Lookup.ofType?, Lookup.map, valueItemsChecked_eq]

theorem attributeValuesChecked_eq (b : Toolbox) (s : Snapshot) (t : Scanner)
    (host : AttributeHost) :
    attributeValuesChecked b s t host = (attributeValuesAt b s t host).map .ok := by
  unfold attributeValuesChecked attributeValuesAt
  cases t.attributeName? with
  | none => rfl
  | some attributeName =>
    simp only
    split_ifs
    · rfl
    · cases t.attributeHolder? with
      | none => cases host <;> rfl
      | some p =>
        cases host with
        | directive => cases p <;> rfl
        | element =>
          cases p with
          | element name attributes start => exact elementValuesChecked_eq ..
          | _ => rfl

/-! ### Requests -/

namespace Workbench

/-- The items at a cursor, which depend on the control whose tag is there or around it. Only
attributes and code are looked up by cutting texts. -/
def lookupChecked (w : Workbench) (s : Snapshot) (c : Cursor) :
    Lookup (Checked (List CompletionItem)) :=
  match c.scanner.target with
  | .attributeValue host => attributeValuesChecked (s.toolbox w.index) s c.scanner host
  | .block kind => .known ((w.codeScope? s).elim (.ok []) (·.itemsChecked (c.snippet kind)))
  | _ => (w.lookupAt s c).map .ok

/-- The items at a position of a document. -/
def completeChecked (w : Workbench) (s : Snapshot) (p : Position) :
    Checked (Except DocumentFault (List CompletionItem)) := do
  match ← s.cursorChecked p with
  | .error fault => return .error fault
  | .ok c => return .ok (← (w.lookupChecked s c).fromIndex w.index)

/-- The methods that the call around a position may mean, when these are to be shown. -/
def signatureHelpChecked (w : Workbench) (s : Snapshot) (p : Position) :
    Checked (Except DocumentFault (Option SignatureHelp)) := do
  if !w.settings.parameterInsight then return .ok none
  match ← s.cursorChecked p with
  | .error fault => return .error fault
  | .ok c =>
    match c.scanner.target, w.codeScope? s with
    | .block kind, some scope => return .ok (← scope.signatureHelpChecked (c.snippet kind))
    | _, _ => return .ok none

theorem lookupChecked_eq (w : Workbench) (s : Snapshot) (c : Cursor) :
    w.lookupChecked s c = (w.lookupAt s c).map .ok := by
  unfold lookupChecked lookupAt
  cases c.scanner.target with
  | attributeValue host => exact attributeValuesChecked_eq ..
  | block kind =>
    cases w.codeScope? s with
    | none => rfl
    | some scope => exact congrArg _ (scope.itemsChecked_eq _)
  | _ => rfl

theorem completeChecked_eq (w : Workbench) (s : Snapshot) (p : Position) :
    w.completeChecked s p = .ok (w.complete s p) := by
  rw [completeChecked, s.cursorChecked_eq, Checked.ok_bind, complete]
  cases s.cursorAt p with
  | error fault => rfl
  | ok c =>
    simp only [lookupChecked_eq, Lookup.fromIndex_map, Checked.ok_bind]
    rfl

theorem signatureHelpChecked_eq (w : Workbench) (s : Snapshot) (p : Position) :
    w.signatureHelpChecked s p = .ok (w.signatureHelp s p) := by
  unfold signatureHelpChecked signatureHelp
  split_ifs
  · rfl
  · rw [s.cursorChecked_eq, Checked.ok_bind]
    cases s.cursorAt p with
    | error fault => rfl
    | ok c =>
      simp only [Except.bind, bind]
      cases c.scanner.target with
      | block kind =>
        cases w.codeScope? s with
        | none => rfl
        | some scope =>
          simp only [scope.signatureHelpChecked_eq]
          rfl
      | _ => rfl

end Workbench

/-- No request fails on a text. A document is parsed, completed at a position and asked for the call
around it, and a handler is written into a code file, and none of the cuts and subtractions on the
way is impossible. Nor is any of them by itself: reading one character in any state of the scanner
or all characters up to any offset, looking up the offset of any position, taking any attribute for
an event, and reading any code backwards from its end. -/
theorem requests_never_fault :
    (∀ uri version text, Snapshot.makeChecked uri version text = .ok (.make uri version text)) ∧
    (∀ (w : Workbench) s p, w.completeChecked s p = .ok (w.complete s p)) ∧
    (∀ (w : Workbench) s p, w.signatureHelpChecked s p = .ok (w.signatureHelp s p)) ∧
    (∀ (h : HandlerProposal) l source, h.insertionChecked l source = .ok (h.insertion? l source)) ∧
    (∀ (t : Scanner) c, t.stepChecked c = .ok (t.step c)) ∧
    (∀ text offset, Scanner.readToChecked text offset = .ok (Scanner.readTo text offset)) ∧
    (∀ cs p, offsetOfChecked cs p = .ok (offsetOf? cs p)) ∧
    (∀ name, eventNameChecked name = .ok (eventName? name)) ∧
    (∀ code, accessChecked code = .ok (accessBefore code.reverse)) ∧
    (∀ code, openCallChecked code = .ok (openCall? code.reverse)) :=
  ⟨Snapshot.makeChecked_eq, Workbench.completeChecked_eq, Workbench.signatureHelpChecked_eq,
    HandlerProposal.insertionChecked_eq, Scanner.stepChecked_eq, Scanner.readToChecked_eq,
    offsetOfChecked_eq, eventNameChecked_eq, accessChecked_eq, openCallChecked_eq⟩

end WebForms
