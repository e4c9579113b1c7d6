import WebForms.Text.Case
import WebForms.Text.Split

/-!
# Tag names

The name of an element may carry a tag prefix: `asp:Button` has prefix `asp` and local name
`Button`. An element without a prefix is plain markup. Two names match when both parts agree
up to letter case.

## Main definitions

* `TagName.parse`, `TagName.qualified` — a name split at its first colon, and written back
* `TagName.agrees` — equality up to letter case
* `TagName.isVoid`, `TagName.isRawText` — the elements that never have content, and those whose
  content is raw text
-/

namespace WebForms

/-- The name of an element: an optional tag prefix and a local name. -/
structure TagName where
  tagPrefix : Option String := none
  localName : String := ""
  deriving DecidableEq, Repr, Inhabited

namespace TagName

/-- Splits a qualified name at its first colon; an empty prefix is no prefix. -/
def parse (qualified : String) : TagName :=
  match Text.splitFirst? (· == ':') qualified.toList with
  | none => ⟨none, qualified⟩
  | some ([], name) => ⟨none, String.ofList name⟩
  | some (p, name) => ⟨some (String.ofList p), String.ofList name⟩

/-- The name as it is written in a tag. -/
def qualified (t : TagName) : String :=
  match t.tagPrefix with
  | some p => p ++ ":" ++ t.localName
  | none => t.localName

/-- A name that does not begin with a colon is written back as it was. -/
theorem qualified_parse {name : String} (h : ∀ cs, name.toList ≠ ':' :: cs) :
    (parse name).qualified = name := by
  unfold parse
  split
  · rfl
  next local' split =>
    obtain ⟨c, colon, eq⟩ := Text.eq_append_of_splitFirst? split
    obtain rfl : c = ':' := by simpa using colon
    exact absurd eq (h local')
  next p local' _ split =>
    obtain ⟨c, colon, eq⟩ := Text.eq_append_of_splitFirst? split
    obtain rfl : c = ':' := by simpa using colon
    rw [← String.toList_inj, eq]
    simp [qualified]

/-- The name carries a tag prefix. -/
def isPrefixed (t : TagName) : Bool := t.tagPrefix.isSome

/-- There is a local name. -/
def hasName (t : TagName) : Bool := !t.localName.isEmpty

/-- Both names have the same parts up to letter case. -/
def agrees (t u : TagName) : Bool :=
  Text.sameName t.localName u.localName &&
    match t.tagPrefix, u.tagPrefix with
    | some p, some q => Text.sameName p q
    | none, none => true
    | _, _ => false

@[simp] theorem agrees_self (t : TagName) : t.agrees t = true := by
  cases h : t.tagPrefix <;> simp [agrees, h]

/-- Elements that never have content or a closing tag. -/
def voidNames : List String :=
  ["area", "base", "br", "col", "embed", "hr", "img", "input", "link", "meta", "param", "source",
    "track", "wbr"]

/-- Elements whose content is raw text up to the matching closing tag. -/
def rawTextNames : List String := ["script", "style"]

/-- An element of plain markup that never has content. -/
def isVoid (t : TagName) : Bool :=
  !t.isPrefixed && voidNames.any (Text.sameName · t.localName)

/-- An element of plain markup whose content is raw text. -/
def isRawText (t : TagName) : Bool :=
  !t.isPrefixed && rawTextNames.any (Text.sameName · t.localName)

end TagName

end WebForms
