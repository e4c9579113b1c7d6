import WebForms.Proofs.Completion.AttributeNames
import WebForms.Proofs.Completion.ControlNames
import WebForms.Proofs.Scanner.LetterCase

/-!
# Letter case makes no difference to completion

What is offered in a start tag is found by names: the tag names a control, the control is looked up
in the registrations and the index, its attributes are compared with those that are there, and the
attribute at the cursor names a property or an event. All of these look at names in lower case only,
so a tag is completed as the same tag in lower case is, and two spellings of one tag alike.

The local name is written once more into a new event handler, but only for a tag without an
identifier.

## Main definitions

* `AttributeSet.lowerNames` — the attributes with their names in lower case and their values as they
  are
* `Toolbox.CompletesAlike` — two start tags are completed alike

## Main results

* `Toolbox.typeOf?_lower`, `attributeItems_lower`, `elementValues_lower` — completing a tag in lower
  case
* `Toolbox.completesAlike_of_agrees` — two spellings of one tag are completed alike
-/

namespace WebForms

open Text

/-! ### Tags in lower case -/

/-- Names agree when they are the same in lower case. -/
theorem TagName.agrees_iff_lower {t u : TagName} : t.agrees u = true ↔ t.lower = u.lower := by
  obtain ⟨tp, tn⟩ := t
  obtain ⟨up, un⟩ := u
  cases tp <;> cases up <;> simp [agrees, lower, sameName_iff, and_comm]

@[simp] theorem TagName.isPrefixed_lower (t : TagName) : t.lower.isPrefixed = t.isPrefixed := by
  simp [isPrefixed, lower]

namespace AttributeSet

variable (a : AttributeSet)

/-- The attributes with their names in lower case. -/
def lowerNames (a : AttributeSet) : AttributeSet :=
  ⟨a.entries.map fun (name, value) => (name.toLower, value)⟩

@[simp] theorem get?_lowerNames (name : String) : a.lowerNames.get? name = a.get? name := by
  simp [get?, lowerNames, List.find?_map, Function.comp_def, sameName]

@[simp] theorem contains_lowerNames (name : String) :
    a.lowerNames.contains name = a.contains name := by
  rw [contains, contains, get?_lowerNames]

theorem lowerNames_insert (name value : String) :
    (a.insert name value).lowerNames = a.lowerNames.insert name.toLower value :=
  congrArg AttributeSet.mk (map_insertEntry id name value a.entries)

/-- Attributes that are written one after another make up the same set in lower case, also where
some are repeated. -/
theorem lowerNames_ofList (attributes : List (String × String)) :
    (ofList attributes).lowerNames =
      ofList (attributes.map fun (name, value) => (name.toLower, value)) := by
  induction attributes using List.reverseRecOn with
  | nil => rfl
  | append_singleton attributes last ih =>
    rw [List.map_append, ofList, ofList, List.foldl_append, List.foldl_append]
    exact (lowerNames_insert _ _ _).trans (congrArg (·.insert last.1.toLower last.2) ih)

end AttributeSet

/-! ### Looking up the control of a tag -/

namespace TypeIndex

variable (ix : TypeIndex)

@[simp] theorem find?_toLower (name : String) : ix.find? name.toLower = ix.find? name := by
  simp only [find?, toLower_toLower]

@[simp] theorem findIn?_toLower (space name : String) :
    ix.findIn? space name.toLower = ix.findIn? space name := by
  -- The full name is looked up in lower case as a whole.
  rw [findIn?, findIn?, ← find?_toLower, ← find?_toLower ix (qualifiedName space name)]
  rw [toLower_qualifiedName, toLower_qualifiedName, toLower_toLower]

end TypeIndex

namespace Registrations

variable (r : Registrations)

@[simp] theorem namespacesOf_toLower (tagPrefix : String) :
    r.namespacesOf tagPrefix.toLower = r.namespacesOf tagPrefix := by
  simp only [namespacesOf, sameName, toLower_toLower]

@[simp] theorem userControl?_toLower (tagPrefix name : String) :
    r.userControl? tagPrefix.toLower name.toLower = r.userControl? tagPrefix name := by
  simp only [userControl?, sameName, toLower_toLower]

end Registrations

namespace Toolbox

variable (b : Toolbox) (t : TagName)

/-- A tag names the same control in lower case. -/
@[simp] theorem typeOf?_lower : b.typeOf? t.lower = b.typeOf? t := by
  obtain ⟨tp, tn⟩ := t
  cases tp <;> simp [typeOf?, TagName.lower]

@[simp] theorem subject?_lower : b.subject? t.lower = b.subject? t := by
  rw [subject?, subject?, typeOf?_lower]

@[simp] theorem descriptor?_lower : b.descriptor? t.lower = b.descriptor? t := by
  rw [descriptor?, descriptor?, subject?_lower]

@[simp] theorem memberSource?_lower : memberSource? b t.lower = memberSource? b t := by
  rw [memberSource?, memberSource?, subject?_lower, TagName.isPrefixed_lower]

end Toolbox

/-! ### Attributes and their values -/

/-- The attributes that are offered on a tag are those that are offered in lower case. -/
theorem attributeItems_lower (t : TagName) (d : Option ControlDescriptor) (a : AttributeSet) :
    attributeItems t.lower d a.lowerNames = attributeItems t d a := by
  -- Of the tag only the prefix counts, and of its attributes only which of them are there.
  simp only [attributeItems, commonAttributes, AttributeSet.contains_lowerNames,
    TagName.isPrefixed_lower]

theorem eventName?_toLower (name : String) :
    eventName? name.toLower = (eventName? name).map String.toLower := by
  rw [eventName?, eventName?, toList_toLower]
  match name.toList with
  | [] => rfl
  | [_] => rfl
  | c :: d :: rest =>
    -- The letters in front are compared in any case, and what is behind them is lower-cased.
    have front : sameName (String.ofList [c.toLower, d.toLower]) "on" =
        sameName (String.ofList [c, d]) "on" := by
      simp [sameName]
    simp only [List.map_cons, front]
    split
    · rw [Option.map_some, toLower_ofList]
    · rfl

namespace ControlDescriptor

variable (d : ControlDescriptor)

@[simp] theorem property?_toLower (name : String) : d.property? name.toLower = d.property? name := by
  simp only [property?, sameName, toLower_toLower]

@[simp] theorem event?_toLower (name : String) : d.event? name.toLower = d.event? name := by
  simp only [event?, sameName, toLower_toLower]

/-- An attribute stands for the same event in lower case. -/
@[simp] theorem eventName?_bind_event?_toLower (name : String) :
    (eventName? name.toLower).bind d.event? = (eventName? name).bind d.event? := by
  rw [eventName?_toLower, Option.bind_map]
  exact congrArg _ (funext fun event => d.event?_toLower event)

end ControlDescriptor

theorem valueItems_toLower (ix : TypeIndex) (d : ControlDescriptor) (c : Option CodeBehind)
    (name owner : String) :
    valueItems ix d c name.toLower owner = valueItems ix d c name owner := by
  simp only [valueItems, ControlDescriptor.eventName?_bind_event?_toLower,
    ControlDescriptor.property?_toLower]

/-- The values that are offered on a tag with an identifier are those that are offered in lower
case. Without one, a new handler is named for the tag as it is written. -/
theorem elementValues_lower (b : Toolbox) (s : Snapshot) (t : TagName) {a : AttributeSet}
    (id : ((a.get? "id").bind trimmed?).isSome) (name : String) :
    elementValues b s t.lower a.lowerNames name.toLower = elementValues b s t a name := by
  obtain ⟨owner, named⟩ := Option.isSome_iff_exists.mp id
  simp only [elementValues, Toolbox.memberSource?_lower, AttributeSet.get?_lowerNames, named,
    Option.getD_some, valueItems_toLower]

/-! ### Two spellings of one tag -/

namespace Toolbox

variable {t u : TagName} {a a' : AttributeSet}

/-- The start tags `t` and `u` with the attributes `a` and `a'` are completed alike. -/
structure CompletesAlike (b : Toolbox) (t u : TagName) (a a' : AttributeSet) : Prop where
  /-- They name the same control, or none. -/
  resolves : (∃ x, b.resolve t = .ok x ∧ b.resolve u = .ok x) ∨
    b.resolve t = .error ⟨t⟩ ∧ b.resolve u = .error ⟨u⟩
  attributes : attributeItems t (b.descriptor? t) a = attributeItems u (b.descriptor? u) a'
  /-- They have the same identifier, for which new handlers are named. -/
  identifier : (a.get? "id").bind trimmed? = (a'.get? "id").bind trimmed?
  /-- The values for an attribute in two spellings, with any class behind the page. -/
  values : ∀ (owner : String) (c : Option CodeBehind) (n m : String), sameName n m = true →
    (b.descriptor? t).map (valueItems b.index · c n owner) =
      (b.descriptor? u).map (valueItems b.index · c m owner)
  /-- The values in a document, if there is an identifier. -/
  documentValues : ((a.get? "id").bind trimmed?).isSome →
    ∀ (s : Snapshot) (n m : String), sameName n m = true →
      elementValues b s t a n = elementValues b s u a' m

/-- Tags that name the same control resolve to it, or both to none. -/
theorem resolve_of_typeOf?_eq {b : Toolbox} (same : b.typeOf? t = b.typeOf? u) :
    (∃ x, b.resolve t = .ok x ∧ b.resolve u = .ok x) ∨
      b.resolve t = .error ⟨t⟩ ∧ b.resolve u = .error ⟨u⟩ := by
  rw [resolve, resolve, same]
  cases b.typeOf? u with
  | none => exact .inr ⟨rfl, rfl⟩
  | some x => exact .inl ⟨x, rfl, rfl⟩

/-- Start tags that differ in nothing but the case of letters, in the name of the tag and in the
names of its attributes, are completed alike. -/
theorem completesAlike_of_agrees (b : Toolbox) (names : t.agrees u = true)
    (attributes : a.lowerNames = a'.lowerNames) : b.CompletesAlike t u a a' := by
  -- Each spelling is completed as the form in lower case, which both have in common.
  have lower := TagName.agrees_iff_lower.mp names
  have descriptor : b.descriptor? t = b.descriptor? u := by
    rw [← descriptor?_lower, lower, descriptor?_lower]
  have value (name : String) : a.get? name = a'.get? name := by
    rw [← AttributeSet.get?_lowerNames, attributes, AttributeSet.get?_lowerNames]
  refine ⟨resolve_of_typeOf?_eq ?_, ?_, by rw [value], fun owner c n m same => ?_,
    fun id s n m same => ?_⟩
  · rw [← typeOf?_lower, lower, typeOf?_lower]
  · rw [← attributeItems_lower, lower, attributes, attributeItems_lower, descriptor]
  · rw [descriptor]
    refine congrArg (Option.map · _) (funext fun d => ?_)
    rw [← valueItems_toLower, sameName_iff.mp same, valueItems_toLower]
  · calc elementValues b s t a n
        = elementValues b s t.lower a.lowerNames n.toLower := (elementValues_lower b s t id n).symm
      _ = elementValues b s u.lower a'.lowerNames m.toLower := by
          rw [lower, attributes, sameName_iff.mp same]
      _ = elementValues b s u a' m := elementValues_lower b s u (value "id" ▸ id) m

/-! ### Two spellings of a button -/

/-- The type of buttons, as far as its name goes. -/
def buttonDefinition : TypeDefinition := { space := builtInNamespace, name := "Button" }

/-- The toolbox of a page that registers nothing. -/
def buttonToolbox : Toolbox := ⟨.ofList [buttonDefinition], {}⟩

theorem resolve_button : buttonToolbox.resolve ⟨some "asp", "Button"⟩ = .ok buttonDefinition := by
  have inside : buttonDefinition ∈ buttonToolbox.index.inNamespace builtInNamespace :=
    TypeIndex.mem_inNamespace.mpr ⟨TypeIndex.mem_add_self {} buttonDefinition, sameName_self _⟩
  have unhidden : buttonToolbox.userControls = [] := rfl
  have spaces : buttonToolbox.registrations.namespacesOf "asp" = [builtInNamespace] := by
    simp [Registrations.namespacesOf, buttonToolbox, builtInPrefix]
  refine (resolve_of_apart (c := ⟨"asp", "Button", none⟩) (by simp [unhidden])).mpr ?_
  rw [spaces, List.findSome?_singleton]
  exact TypeIndex.findIn?_of_mem_inNamespace inside

/-- A button in other letters is the same button, and its values are those of this button. -/
theorem completesAlike_of_agrees_button :
    ((⟨some "asp", "Button"⟩ : TagName).agrees ⟨some "ASP", "bUTTON"⟩ = true ∧
        (AttributeSet.ofList [("id", "Save"), ("runat", "server")]).lowerNames =
          (AttributeSet.ofList [("ID", "Save"), ("runAt", "server")]).lowerNames) ∧
      buttonToolbox.CompletesAlike ⟨some "asp", "Button"⟩ ⟨some "ASP", "bUTTON"⟩
        (.ofList [("id", "Save"), ("runat", "server")])
        (.ofList [("ID", "Save"), ("runAt", "server")]) ∧
      buttonToolbox.resolve ⟨some "ASP", "bUTTON"⟩ = .ok buttonDefinition ∧
      ∀ s : Snapshot,
        elementValues buttonToolbox s ⟨some "asp", "Button"⟩
            (.ofList [("id", "Save"), ("runat", "server")]) "OnClick" =
          elementValues buttonToolbox s ⟨some "ASP", "bUTTON"⟩
            (.ofList [("ID", "Save"), ("runAt", "server")]) "ONclick" := by
  have names : (⟨some "asp", "Button"⟩ : TagName).agrees ⟨some "ASP", "bUTTON"⟩ = true := by
    simp [TagName.agrees, sameName_iff, ← String.toList_inj, toList_toLower]
  have attributes : (AttributeSet.ofList [("id", "Save"), ("runat", "server")]).lowerNames =
      (AttributeSet.ofList [("ID", "Save"), ("runAt", "server")]).lowerNames := by
    rw [AttributeSet.lowerNames_ofList, AttributeSet.lowerNames_ofList]
    refine congrArg AttributeSet.ofList ?_
    simp [← String.toList_inj, toList_toLower]
  have id : (((AttributeSet.ofList [("id", "Save"), ("runat", "server")]).get? "id").bind
      trimmed?).isSome := by
    have other : sameName "id" "runat" = false := by
      simp [sameName, ← String.toList_inj, toList_toLower]
    simp [AttributeSet.ofList, AttributeSet.insert, AttributeSet.insertEntry, AttributeSet.get?,
      other, trimmed?, trim, trimChars, isBlank]
  have same : sameName "OnClick" "ONclick" = true := by
    simp [sameName_iff, ← String.toList_inj, toList_toLower]
  have alike := completesAlike_of_agrees buttonToolbox names attributes
  refine ⟨⟨names, attributes⟩, alike, ?_, fun s => alike.documentValues id s _ _ same⟩
  obtain ⟨x, found, found'⟩ | ⟨failed, -⟩ := alike.resolves
  · rw [resolve_button] at found
    rw [found', found]
  · rw [resolve_button] at failed
    cases failed

end Toolbox

end WebForms
