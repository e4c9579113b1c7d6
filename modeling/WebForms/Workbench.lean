import WebForms.Code.Members
import WebForms.Completion.DirectiveItem
import WebForms.Completion.ChildElement
import WebForms.Completion.Target
import WebForms.Completion.AttributeValue

/-!
# Completing at a cursor

The text up to the cursor is read, and the state it leads to says what is completed there: the
name of a directive or element, an attribute or its value, a closing tag, or code.

## Main definitions

* `Workbench` — what is known besides the document
* `Workbench.complete` — the items at a cursor, `Workbench.completeFrom` the same with descriptors
  that a catalog keeps
* `Workbench.signatureHelp` — the methods that the call around a cursor may mean
-/

namespace WebForms

/-- What is known besides the document: types, languages and settings. -/
structure Workbench where
  index : TypeIndex
  languages : LanguageRegistry := .standard
  settings : Settings := {}

/-- A document read up to a cursor, and the text behind the cursor. -/
structure Cursor where
  scanner : Scanner
  after : String

/-- Reads a document up to a position. -/
def Snapshot.cursorAt (s : Snapshot) (p : Position) : Except DocumentFault Cursor := do
  let i ← indexOf s.text.toList p
  return {
    scanner := ({} : Scanner).advanceAll (s.text.toList.take i)
    after := String.ofList (s.text.toList.drop i) }

/-- The controls that the document can name. -/
def Snapshot.toolbox (s : Snapshot) (ix : TypeIndex) : Toolbox := ⟨ix, s.registrations⟩

/-- The elements around the place that a scanner has reached. -/
def Scanner.scope (t : Scanner) : Surroundings where
  parent := (t.parent? 0).map (·.name)
  grandparent := (t.parent? 1).map (·.name)

/-- The item that closes the innermost open element. -/
def closingTagItems (t : Scanner) : List CompletionItem :=
  match t.openElements.head? with
  | none => []
  | some e =>
    let rest := e.name.qualified ++ ">"
    [{ label := "/" ++ rest, kind := .closingTag, detail := some "Close the open element"
       insertText := some rest }]

/-- The control whose members are offered on an element; plain markup has none. -/
def memberSource? (b : Toolbox) (tag : TagName) : Option TypeDefinition :=
  if tag.isPrefixed then b.subject? tag else none

/-- The attribute names at a place that a scanner has reached. -/
def attributeNamesAt (b : Toolbox) (t : Scanner) (host : AttributeHost) :
    Lookup (List CompletionItem) :=
  match host, t.attributeHolder? with
  | .directive, some (.directive name attributes _) =>
    .known (directiveAttributeItems name attributes)
  | .element, some (.element name attributes _) =>
    let tag := TagName.parse name
    .ofType? (memberSource? b tag) fun d => attributeItems tag d attributes
  | _, _ => .known []

/-- The values of an attribute of an element; only those of controls are known. -/
def elementValues (b : Toolbox) (s : Snapshot) (tag : TagName) (attributes : AttributeSet)
    (attributeName : String) : Lookup (List CompletionItem) :=
  .ofType? (memberSource? b tag) fun
    | none => []
    | some d =>
      let owner := ((attributes.get? "id").bind Text.trimmed?).getD tag.localName
      valueItems b.index d (CodeBehind.find? b s.facts s.root) attributeName owner

/-- The attribute values at a place that a scanner has reached. -/
def attributeValuesAt (b : Toolbox) (s : Snapshot) (t : Scanner) (host : AttributeHost) :
    Lookup (List CompletionItem) :=
  match t.attributeName? with
  | none => .known []
  | some attributeName =>
    if attributeName.isEmpty then .known []
    else match host, t.attributeHolder? with
      | .directive, some (.directive name _ _) =>
        .known (directiveValueItems name attributeName b.index s.registrations)
      | .element, some (.element name attributes _) =>
        elementValues b s (TagName.parse name) attributes attributeName
      | _, _ => .known []

/-- The code of the server block that a scanner is reading. -/
def Scanner.blockText (t : Scanner) : String :=
  match t.innermost? with
  | some (.block _ text _ _ _) => text
  | _ => ""

/-- The code around a cursor in a server block. -/
def Cursor.snippet (c : Cursor) (kind : BlockKind) : Snippet :=
  .ofSource kind c.scanner.blockText c.after

namespace Workbench

/-- What code in the document sees, if its language is served. -/
def codeScope? (w : Workbench) (s : Snapshot) : Option CodeScope :=
  (w.languages.find? s.facts.language).map fun language =>
    { language, page := .ofSnapshot w.index s, index := w.index }

/-- The items at a cursor, which depend on the control whose tag is there or around it. -/
def lookupAt (w : Workbench) (s : Snapshot) (c : Cursor) : Lookup (List CompletionItem) :=
  let b := s.toolbox w.index
  match c.scanner.target with
  | .directiveName => .known (directiveItems s.facts.kind)
  | .blockOpening => .known (blockOpeners w.settings.runtime)
  | .elementName => elementLookup b w.settings.runtime s.facts c.scanner.scope
  | .attributeName host => attributeNamesAt b c.scanner host
  | .attributeValue host => attributeValuesAt b s c.scanner host
  | .closingTag => .known (closingTagItems c.scanner)
  | .block kind => .known ((w.codeScope? s).elim [] (·.itemsAt (c.snippet kind)))
  | .none => .known []

/-- The items at a cursor. -/
def itemsAt (w : Workbench) (s : Snapshot) (c : Cursor) : List CompletionItem :=
  (w.lookupAt s c).fromIndex w.index

/-- The items at a position of a document. -/
def complete (w : Workbench) (s : Snapshot) (p : Position) :
    Except DocumentFault (List CompletionItem) := do
  return w.itemsAt s (← s.cursorAt p)

/-- The items at a position of a document, with descriptors taken from a catalog, and the catalog
that keeps them. The types are those of the catalog. -/
def completeFrom (w : Workbench) (catalog : Catalog) (s : Snapshot) (p : Position) :
    Except DocumentFault (List CompletionItem) × Catalog :=
  match s.cursorAt p with
  | .error fault => (.error fault, catalog)
  | .ok c =>
    let (items, catalog) := catalog.lookUp ({ w with index := catalog.index }.lookupAt s c)
    (.ok items, catalog)

/-- The methods that the call around a position may mean, when these are to be shown. -/
def signatureHelp (w : Workbench) (s : Snapshot) (p : Position) :
    Except DocumentFault (Option SignatureHelp) := do
  if !w.settings.parameterInsight then return none
  let c ← s.cursorAt p
  match c.scanner.target with
  | .block kind => return (w.codeScope? s).bind (·.signatureHelp? (c.snippet kind))
  | _ => return none

end Workbench

end WebForms
