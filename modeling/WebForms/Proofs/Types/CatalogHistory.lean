import WebForms.Proofs.Types.Entries
import WebForms.Workbench

/-!
# The history of a catalog

A catalog that is asked for descriptors and completions, and given other indexes in between,
answers as if it kept nothing. Descriptors are kept under the names of their types. This is enough
because an index holds one type of a name at most, and because all that is kept goes when the index
does.

## Main definitions

* `CatalogRequest`, `Catalog.serveAll` — what a catalog is asked, and its answers
* `TypeIndex.answers` — the answers with every descriptor made anew
* `Catalog.Faithful` — what is kept is what would be made

## Main results

* `Catalog.serveAll_eq_answers` — a catalog gives the answers that are made anew
-/

namespace WebForms

variable {α : Type} {ix : TypeIndex} {c : Catalog} {t u : TypeDefinition}

/-! ### The types that are described -/

namespace Toolbox

variable {b : Toolbox} {tag : TagName}

theorem mem_of_userControlClass? {r : RegisteredUserControl}
    (h : b.userControlClass? r = some t) : t ∈ b.index.types := by
  unfold userControlClass? at h
  rcases Option.or_eq_some_iff.mp h with named | ⟨-, general⟩
  · exact Array.mem_of_find?_eq_some (Option.filter_eq_some_iff.mp named).1
  · exact TypeIndex.mem_of_find? general

theorem mem_of_typeOf? (h : b.typeOf? tag = some t) : t ∈ b.index.types := by
  obtain ⟨tagPrefix, -, h⟩ := Option.bind_eq_some_iff.mp h
  -- A user control comes before the namespaces of the prefix.
  split at h
  · exact mem_of_userControlClass? h
  · obtain ⟨_, _, _, -, found, -⟩ := List.findSome?_eq_some_iff.mp h
    exact TypeIndex.mem_of_find? found

theorem mem_of_subject? (h : b.subject? tag = some t) : t ∈ b.index.types := by
  rcases Option.or_eq_some_iff.mp h with named | ⟨-, general⟩
  · exact mem_of_typeOf? named
  · exact TypeIndex.mem_of_find? general

end Toolbox

namespace Lookup

/-- The value depends on a type of the index, if on any. -/
def Within (ix : TypeIndex) : Lookup α → Prop
  | known _ => True
  | describe t _ => t ∈ ix.types

theorem within_ofType? {source : Option TypeDefinition} {value : Option ControlDescriptor → α}
    (h : ∀ t ∈ source, t ∈ ix.types) : (ofType? source value).Within ix := by
  cases source with
  | none => trivial
  | some t => exact h t rfl

end Lookup

theorem mem_of_memberSource? {b : Toolbox} {tag : TagName} (h : memberSource? b tag = some t) :
    t ∈ b.index.types := by
  unfold memberSource? at h
  split at h
  · exact Toolbox.mem_of_subject? h
  · cases h

theorem within_elementLookup (b : Toolbox) (version : RuntimeVersion) (facts : PageFacts)
    (scope : Surroundings) : (elementLookup b version facts scope).Within b.index := by
  apply Lookup.within_ofType?
  intro t h
  obtain ⟨tag, -, h⟩ := Option.bind_eq_some_iff.mp h
  exact Toolbox.mem_of_typeOf? h

theorem within_attributeNamesAt (b : Toolbox) (t : Scanner) (host : AttributeHost) :
    (attributeNamesAt b t host).Within b.index := by
  unfold attributeNamesAt
  split
  · trivial
  · exact Lookup.within_ofType? fun _ h => mem_of_memberSource? h
  · trivial

theorem within_attributeValuesAt (b : Toolbox) (s : Snapshot) (t : Scanner)
    (host : AttributeHost) : (attributeValuesAt b s t host).Within b.index := by
  unfold attributeValuesAt
  split
  · trivial
  · split
    · trivial
    · split
      · trivial
      · exact Lookup.within_ofType? fun _ h => mem_of_memberSource? h
      · trivial

/-- Completion asks for the descriptors of types of the index only. -/
theorem Workbench.within_lookupAt (w : Workbench) (s : Snapshot) (cursor : Cursor) :
    (w.lookupAt s cursor).Within w.index := by
  unfold lookupAt
  cases cursor.scanner.target with
  | elementName => exact within_elementLookup (s.toolbox w.index) _ _ _
  | attributeName host => exact within_attributeNamesAt (s.toolbox w.index) _ host
  | attributeValue host => exact within_attributeValuesAt (s.toolbox w.index) s _ host
  | directiveName | blockOpening | closingTag | block | none => trivial

/-! ### What is kept -/

namespace Catalog

/-- What is kept for a type of the index is the descriptor that would be made of it. -/
def Faithful (c : Catalog) : Prop :=
  ∀ t ∈ c.index.types, ∀ d, c.descriptors[t.key]? = some d → d = .ofType c.index t

theorem faithful_renew (c : Catalog) (ix : TypeIndex) : (c.renew ix).Faithful := by
  intro t _ d kept
  simp [renew] at kept

theorem descriptor_of_kept {d : ControlDescriptor} (h : c.descriptors[t.key]? = some d) :
    c.descriptor t = (d, c) := by
  rw [TypeDefinition.key] at h
  simp only [descriptor, h]

theorem descriptor_of_absent (h : c.descriptors[t.key]? = none) :
    c.descriptor t =
      (.ofType c.index t,
        { c with descriptors := c.descriptors.insert t.key (.ofType c.index t) }) := by
  rw [TypeDefinition.key] at h
  simp only [descriptor, h, TypeDefinition.key]

@[simp] theorem index_descriptor (c : Catalog) (t : TypeDefinition) :
    (c.descriptor t).2.index = c.index := by
  cases kept : c.descriptors[t.key]? with
  | none => rw [descriptor_of_absent kept]
  | some d => rw [descriptor_of_kept kept]

theorem Faithful.descriptor (h : c.Faithful) (ht : t ∈ c.index.types) :
    (c.descriptor t).1 = .ofType c.index t ∧ (c.descriptor t).2.Faithful := by
  cases kept : c.descriptors[t.key]? with
  | some d =>
    rw [descriptor_of_kept kept]
    exact ⟨h t ht d kept, h⟩
  | none =>
    rw [descriptor_of_absent kept]
    refine ⟨rfl, fun u hu d found => ?_⟩
    rw [Std.HashMap.getElem?_insert] at found
    split at found
    next same =>
      -- Another type of the same name would find this entry, but there is none.
      obtain rfl := TypeIndex.eq_of_key_eq ht hu (eq_of_beq same)
      exact (Option.some.inj found).symm
    next => exact h u hu d found

@[simp] theorem index_lookUp (c : Catalog) (l : Lookup α) : (c.lookUp l).2.index = c.index := by
  cases l with
  | known a => rfl
  | describe t value => exact c.index_descriptor t

theorem Faithful.lookUp (h : c.Faithful) {l : Lookup α} (within : l.Within c.index) :
    (c.lookUp l).1 = l.fromIndex c.index ∧ (c.lookUp l).2.Faithful := by
  cases l with
  | known a => exact ⟨rfl, h⟩
  | describe t value =>
    obtain ⟨made, faithful⟩ := h.descriptor within
    exact ⟨congrArg value made, faithful⟩

end Catalog

namespace Workbench

variable {w : Workbench} {s : Snapshot} {p : Position}

@[simp] theorem index_completeFrom (w : Workbench) (c : Catalog) (s : Snapshot) (p : Position) :
    (w.completeFrom c s p).2.index = c.index := by
  unfold completeFrom
  cases s.cursorAt p with
  | error fault => rfl
  | ok cursor => exact c.index_lookUp _

/-- With descriptors that are kept, the items are those of the index alone. -/
theorem completeFrom_of_faithful (h : c.Faithful) :
    (w.completeFrom c s p).1 = { w with index := c.index }.complete s p ∧
      (w.completeFrom c s p).2.Faithful := by
  unfold completeFrom complete
  cases s.cursorAt p with
  | error fault => exact ⟨rfl, h⟩
  | ok cursor =>
    obtain ⟨same, faithful⟩ := h.lookUp ({ w with index := c.index }.within_lookupAt s cursor)
    exact ⟨congrArg Except.ok same, faithful⟩

end Workbench

/-! ### Runs -/

/-- What a catalog is asked. -/
inductive CatalogRequest where
  /-- The descriptor of a type. -/
  | describe (t : TypeDefinition)
  /-- To take up another index. -/
  | renew (ix : TypeIndex)
  /-- The items at a position of a document. -/
  | complete (w : Workbench) (s : Snapshot) (p : Position)

/-- What comes of a request. -/
inductive CatalogAnswer where
  | descriptor (d : ControlDescriptor)
  | renewed
  | items (found : Except DocumentFault (List CompletionItem))

namespace CatalogRequest

/-- The request may be made of a catalog with this index: a type that is to be described is one of
the index. -/
def Suits (ix : TypeIndex) : CatalogRequest → Prop
  | describe t => t ∈ ix.types
  | renew _ | complete .. => True

/-- The index after a request. -/
def indexAfter (ix : TypeIndex) : CatalogRequest → TypeIndex
  | renew later => later
  | describe _ | complete .. => ix

/-- The requests may be made in turn. -/
def SuitAll : TypeIndex → List CatalogRequest → Prop
  | _, [] => True
  | ix, r :: rs => r.Suits ix ∧ SuitAll (r.indexAfter ix) rs

/-- The answer with every descriptor made anew. -/
def answer (ix : TypeIndex) : CatalogRequest → CatalogAnswer
  | describe t => .descriptor (.ofType ix t)
  | renew _ => .renewed
  | complete w s p => .items ({ w with index := ix }.complete s p)

end CatalogRequest

/-- The answers to requests that are made in turn, with every descriptor made anew. -/
def TypeIndex.answers : TypeIndex → List CatalogRequest → List CatalogAnswer
  | _, [] => []
  | ix, r :: rs => r.answer ix :: (r.indexAfter ix).answers rs

namespace Catalog

/-- The answer to a request, and the catalog after it. -/
def serve (c : Catalog) : CatalogRequest → CatalogAnswer × Catalog
  | .describe t => ((c.descriptor t).map .descriptor id)
  | .renew ix => (.renewed, c.renew ix)
  | .complete w s p => (w.completeFrom c s p).map .items id

/-- The answers to requests that are made in turn. -/
def serveAll : Catalog → List CatalogRequest → List CatalogAnswer
  | _, [] => []
  | c, r :: rs => (c.serve r).1 :: (c.serve r).2.serveAll rs

theorem index_serve (c : Catalog) (r : CatalogRequest) :
    (c.serve r).2.index = r.indexAfter c.index := by
  cases r with
  | describe t => exact c.index_descriptor t
  | renew ix => rfl
  | complete w s p => exact w.index_completeFrom c s p

theorem Faithful.serve (h : c.Faithful) {r : CatalogRequest} (suits : r.Suits c.index) :
    (c.serve r).1 = r.answer c.index ∧ (c.serve r).2.Faithful := by
  cases r with
  | describe t =>
    obtain ⟨made, faithful⟩ := h.descriptor suits
    exact ⟨congrArg CatalogAnswer.descriptor made, faithful⟩
  | renew ix => exact ⟨rfl, c.faithful_renew ix⟩
  | complete w s p =>
    obtain ⟨same, faithful⟩ := w.completeFrom_of_faithful (s := s) (p := p) h
    exact ⟨congrArg CatalogAnswer.items same, faithful⟩

theorem Faithful.serveAll (h : c.Faithful) {rs : List CatalogRequest}
    (suit : CatalogRequest.SuitAll c.index rs) : c.serveAll rs = c.index.answers rs := by
  induction rs generalizing c with
  | nil => rfl
  | cons r rs ih =>
    obtain ⟨suits, suit⟩ := suit
    obtain ⟨first, faithful⟩ := h.serve suits
    rw [← index_serve] at suit
    calc c.serveAll (r :: rs)
        = (c.serve r).1 :: (c.serve r).2.serveAll rs := rfl
      _ = r.answer c.index :: (c.serve r).2.index.answers rs := by rw [first, ih faithful suit]
      _ = c.index.answers (r :: rs) := by rw [index_serve, TypeIndex.answers]

/-- A catalog answers all requests, in any order and through any changes of its index, as if every
descriptor were made anew from the index of the moment. -/
theorem serveAll_eq_answers (ix : TypeIndex) (rs : List CatalogRequest)
    (suit : CatalogRequest.SuitAll ix rs) : ({ index := ix } : Catalog).serveAll rs = ix.answers rs :=
  (faithful_renew { index := ix } ix).serveAll suit

/-- A type is described, then defined anew in other letters and with a property, described again and
looked for at the start of a page. -/
theorem serveAll_redefined :
    let cart : TypeDefinition := { space := "Shop", name := "Cart" }
    let redefined : TypeDefinition :=
      { space := "SHOP", name := "cart", properties := [{ name := "Total", typeName := "Sum" }] }
    let before := TypeIndex.add {} cart
    let after := before.add redefined
    let page := Snapshot.make { scheme := "file", path := .divided ["a.aspx"] } 1 "<a "
    let requests := [.describe cart, .renew after, .describe redefined,
      .complete { index := before } page ⟨0, 3⟩]
    CatalogRequest.SuitAll before requests ∧
      ({ index := before } : Catalog).serveAll requests =
        [.descriptor (.ofType before cart), .renewed, .descriptor (.ofType after redefined),
          .items (({ index := after } : Workbench).complete page ⟨0, 3⟩)] := by
  intro cart redefined before after page requests
  have suit : CatalogRequest.SuitAll before requests :=
    ⟨TypeIndex.mem_add_self {} cart, trivial, before.mem_add_self redefined, trivial, trivial⟩
  exact ⟨suit, serveAll_eq_answers before requests suit⟩

end Catalog

end WebForms
