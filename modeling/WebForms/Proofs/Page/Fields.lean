import WebForms.Page.CodeBehind
import WebForms.Proofs.Text.DistinctNames
import WebForms.Proofs.Text.Trimming

/-!
# The fields of a page

Every element that runs at the server under an identifier asks for a field of that name. As names of
fields do not tell letter cases apart, a field serves all elements that have its name in any of
them, and it is made for the one that comes first in the page: in its spelling, and with the type of
the object that stands for this element. The page may have any shape, and its elements may be
nested in each other; what comes first is what is first in the order in which nodes are visited,
parents before what is inside.

## Main definitions

* `Tag.Identifies` — the element runs at the server under an identifier
* `Toolbox.Yields` — the type of the object for an element
* `FirstOfId` — an element is the first one with its identifier
* `HasFields` — the fields that a page has to have

## Main results

* `hasFields_iff` — these are the fields that are made
-/

namespace WebForms

/-- The element runs at the server, and `id` is its identifier without the space around it. -/
structure Tag.Identifies (t : Tag) (id : String) : Prop where
  atServer : ∃ v, t.attributes.get? "runat" = some v ∧ Text.sameName v "server" = true
  written : ∃ v, t.attributes.get? "id" = some v ∧ Text.trim v = id
  nonempty : id ≠ ""

/-- The type of the object for an element of that name: the control that a prefixed name stands for,
or the general control if it stands for none; for a name without prefix, that of forms or that of
all other elements. -/
inductive Toolbox.Yields (b : Toolbox) (tag : TagName) : String → Prop
  | control {t : TypeDefinition} (isPrefixed : tag.isPrefixed = true) (known : b.resolve tag = .ok t) :
      Yields b tag t.fullName
  | general {e : ControlNotFound} (isPrefixed : tag.isPrefixed = true)
      (unknown : b.resolve tag = .error e) : Yields b tag "System.Web.UI.WebControls.WebControl"
  | form (plain : tag.isPrefixed = false) (named : Text.sameName tag.localName "form" = true) :
      Yields b tag "System.Web.UI.HtmlControls.HtmlForm"
  | element (plain : tag.isPrefixed = false) (other : Text.sameName tag.localName "form" = false) :
      Yields b tag "System.Web.UI.HtmlControls.HtmlGenericControl"

/-! ### One element -/

section

variable {b : Toolbox} {t : Tag} {tag : TagName} {id own typeName : String} {f : PageField}

theorem Tag.runsAtServer_iff :
    t.runsAtServer = true ↔
      ∃ v, t.attributes.get? "runat" = some v ∧ Text.sameName v "server" = true := by
  unfold runsAtServer
  cases t.attributes.get? "runat" <;> simp

theorem Tag.identifies_iff : t.Identifies id ↔ t.runsAtServer = true ∧ t.id? = some id := by
  have identified : t.id? = some id ↔
      (∃ v, t.attributes.get? "id" = some v ∧ Text.trim v = id) ∧ id ≠ "" := by
    rw [id?, Option.bind_eq_some_iff]
    simp only [Text.trimmed?_eq_some_iff]
    constructor
    · rintro ⟨v, hv, trimmed, nonempty⟩
      exact ⟨⟨v, hv, trimmed⟩, nonempty⟩
    · rintro ⟨⟨v, hv, trimmed⟩, nonempty⟩
      exact ⟨v, hv, trimmed, nonempty⟩
  rw [runsAtServer_iff, identified]
  constructor
  · intro h
    exact ⟨h.atServer, h.written, h.nonempty⟩
  · rintro ⟨atServer, written, nonempty⟩
    exact ⟨atServer, written, nonempty⟩

/-- An element has one identifier at most. -/
theorem Tag.Identifies.unique (h : t.Identifies id) (h' : t.Identifies own) : id = own := by
  obtain ⟨-, here⟩ := identifies_iff.mp h
  obtain ⟨-, here'⟩ := identifies_iff.mp h'
  exact Option.some.inj (here.symm.trans here')

theorem yields_elementType (b : Toolbox) (tag : TagName) : b.Yields tag (elementType b tag) := by
  unfold elementType
  cases isPrefixed : tag.isPrefixed with
  | true =>
    rw [if_pos rfl]
    cases known : b.typeOf? tag with
    | some t => exact .control isPrefixed (by rw [Toolbox.resolve, known])
    | none => exact .general isPrefixed (by rw [Toolbox.resolve, known])
  | false =>
    rw [if_neg Bool.false_ne_true]
    cases named : Text.sameName tag.localName "form" with
    | true => exact .form isPrefixed named
    | false => exact .element isPrefixed named

/-- The object for an element has one type. -/
theorem Toolbox.Yields.eq_elementType (h : b.Yields tag typeName) :
    typeName = elementType b tag := by
  unfold elementType
  cases h with
  | control isPrefixed known =>
    unfold resolve at known
    cases h : b.typeOf? tag with
    | some t =>
      rw [h] at known
      obtain rfl := Except.ok.inj known
      simp [isPrefixed]
    | none =>
      rw [h] at known
      cases known
  | general isPrefixed unknown =>
    unfold resolve at unknown
    cases h : b.typeOf? tag with
    | some t =>
      rw [h] at unknown
      cases unknown
    | none => simp [isPrefixed, generalControlType]
  | form plain named => simp [plain, named]
  | element plain other => simp [plain, other]

/-- The field for an element. -/
theorem pageField?_eq_some_iff :
    pageField? b t = some f ↔ t.Identifies f.name ∧ b.Yields t.name f.typeName := by
  have yields : b.Yields t.name f.typeName ↔ f.typeName = elementType b t.name := by
    constructor
    · intro h
      exact h.eq_elementType
    · intro h
      exact h ▸ yields_elementType b t.name
  obtain ⟨name, typeName⟩ := f
  rw [Tag.identifies_iff, yields, pageField?]
  cases t.runsAtServer with
  | true => simp [eq_comm, and_comm]
  | false => simp

end

/-! ### All elements -/

/-- The node at place `i` is the element `t`, its identifier is `id`, and no element in front of it
has this identifier in any letter case. -/
structure FirstOfId (nodes : List Node) (i : Nat) (t : Tag) (id : String) : Prop where
  here : ∃ n, nodes[i]? = some n ∧ n.kind = .tag t
  identified : t.Identifies id
  first : ∀ j < i, ∀ n u own, nodes[j]? = some n → n.kind = .tag u → u.Identifies own →
    Text.sameName own id = false

/-- The fields that a page has to have whose nodes are visited in this order: one for each
identifier, made for the first element that has it, in the order of these elements. -/
structure HasFields (b : Toolbox) (nodes : List Node) (fields : List PageField) : Prop where
  distinct : fields.Pairwise fun f g => Text.sameName f.name g.name = false
  named : ∀ id, (∃ f ∈ fields, Text.sameName f.name id = true) ↔
    ∃ n ∈ nodes, ∃ t own, n.kind = .tag t ∧ t.Identifies own ∧ Text.sameName own id = true
  placed : ∃ places : List Nat, places.Pairwise (· < ·) ∧
    (∀ i, i ∈ places ↔ ∃ t id, FirstOfId nodes i t id) ∧
    List.Forall₂ (fun i f => ∃ t, FirstOfId nodes i t f.name ∧ b.Yields t.name f.typeName)
      places fields

section

variable {b : Toolbox} {nodes : List Node} {n : Node} {t : Tag} {i : Nat} {id : String}
  {f : PageField}

/-- The field that a node asks for. -/
def Node.field? (b : Toolbox) (n : Node) : Option PageField := n.tag?.bind (pageField? b)

theorem Node.tag?_eq_some_iff : n.tag? = some t ↔ n.kind = .tag t := by
  unfold tag?
  cases n.kind <;> simp

theorem Node.field?_eq_some_iff :
    n.field? b = some f ↔
      ∃ t, n.kind = .tag t ∧ t.Identifies f.name ∧ b.Yields t.name f.typeName := by
  rw [field?, Option.bind_eq_some_iff]
  simp only [tag?_eq_some_iff, pageField?_eq_some_iff]

/-- Every element with an identifier asks for a field. -/
theorem Node.exists_field? (b : Toolbox) (isTag : n.kind = .tag t) (identified : t.Identifies id) :
    ∃ f, n.field? b = some f ∧ f.name = id :=
  ⟨⟨id, elementType b t.name⟩,
    field?_eq_some_iff.mpr ⟨t, isTag, identified, yields_elementType b t.name⟩, rfl⟩

/-- The fields of a page are those that its nodes ask for, each name once. -/
theorem pageFields_eq (b : Toolbox) (root : Node) :
    pageFields b root = Text.distinctBy (·.name) (root.preorder.filterMap (Node.field? b)) := by
  rw [pageFields, Node.tags, List.filterMap_filterMap]
  rfl

theorem mem_fields_iff : f ∈ nodes.filterMap (Node.field? b) ↔
    ∃ n ∈ nodes, ∃ t, n.kind = .tag t ∧ t.Identifies f.name ∧ b.Yields t.name f.typeName := by
  simp only [List.mem_filterMap, Node.field?_eq_some_iff]

/-- No node asks for a field of that name. -/
theorem newIn_fields_iff :
    Text.NewIn (·.name) (nodes.filterMap (Node.field? b)) f ↔
      ∀ n ∈ nodes, ∀ u own, n.kind = .tag u → u.Identifies own →
        Text.sameName own f.name = false := by
  constructor
  · intro new n hn u own isTag identified
    obtain ⟨g, asked, rfl⟩ := Node.exists_field? b isTag identified
    exact new g (List.mem_filterMap.mpr ⟨n, hn, asked⟩)
  · intro none g hg
    obtain ⟨n, hn, u, isTag, identified, -⟩ := mem_fields_iff.mp hg
    exact none n hn u g.name isTag identified

/-- A node is the first one to ask for a field of its name if it is the first element with its
identifier. -/
theorem givesFirst_iff :
    Text.GivesFirst (·.name) (Node.field? b) nodes i f ↔
      ∃ t, FirstOfId nodes i t f.name ∧ b.Yields t.name f.typeName := by
  rw [Text.GivesFirst, newIn_fields_iff, Option.bind_eq_some_iff]
  simp only [Node.field?_eq_some_iff]
  -- What has been visited before are the nodes at the places in front.
  have before (P : Node → Prop) :
      (∀ n ∈ nodes.take i, P n) ↔ ∀ j < i, ∀ n, nodes[j]? = some n → P n := by
    simp only [List.mem_iff_getElem?, List.getElem?_take]
    constructor
    · intro h j lt n hn
      exact h n ⟨j, by rw [if_pos lt, hn]⟩
    · rintro h n ⟨j, hn⟩
      split at hn
      next lt => exact h j lt n hn
      next => cases hn
  rw [before]
  constructor
  · rintro ⟨⟨n, hn, t, isTag, identified, yields⟩, first⟩
    refine ⟨t, ⟨⟨n, hn, isTag⟩, identified, ?_⟩, yields⟩
    intro j lt n' u own hn'
    exact first j lt n' hn' u own
  · rintro ⟨t, h, yields⟩
    obtain ⟨n, hn, isTag⟩ := h.here
    exact ⟨⟨n, hn, t, isTag, h.identified, yields⟩,
      fun j lt n' hn' u own => h.first j lt n' u own hn'⟩

/-- A name is that of a field if and only if it is an identifier. -/
theorem exists_mem_fields_iff (b : Toolbox) (nodes : List Node) (id : String) :
    (∃ f ∈ Text.distinctBy (·.name) (nodes.filterMap (Node.field? b)),
        Text.sameName f.name id = true) ↔
      ∃ n ∈ nodes, ∃ t own, n.kind = .tag t ∧ t.Identifies own ∧ Text.sameName own id = true := by
  constructor
  · rintro ⟨f, hf, same⟩
    obtain ⟨n, hn, t, isTag, identified, -⟩ := mem_fields_iff.mp (Text.mem_of_mem_distinctBy hf)
    exact ⟨n, hn, t, f.name, isTag, identified, same⟩
  · rintro ⟨n, hn, t, own, isTag, identified, same⟩
    obtain ⟨f, asked, rfl⟩ := Node.exists_field? b isTag identified
    -- The field that is kept may be that of another element, with the same name.
    have listed : f ∈ nodes.filterMap (Node.field? b) := List.mem_filterMap.mpr ⟨n, hn, asked⟩
    obtain ⟨g, hg, named⟩ : ∃ g ∈ Text.distinctBy (·.name) (nodes.filterMap (Node.field? b)),
        Text.sameName g.name f.name = true := Text.exists_mem_distinctBy listed
    rw [Text.sameName_iff] at named same
    exact ⟨g, hg, Text.sameName_iff.mpr (named.trans same)⟩

end

theorem hasFields_pageFields (b : Toolbox) (root : Node) :
    HasFields b root.preorder (pageFields b root) := by
  rw [pageFields_eq]
  obtain ⟨places, sorted, firsts, fields⟩ :=
    Text.exists_places_distinctBy (·.name) (Node.field? b) root.preorder
  refine ⟨Text.pairwise_distinctBy, exists_mem_fields_iff b root.preorder, places, sorted,
    fun i => ?_, fields.imp fun i f h => givesFirst_iff.mp h⟩
  rw [firsts]
  constructor
  · rintro ⟨f, h⟩
    obtain ⟨t, first, -⟩ := givesFirst_iff.mp h
    exact ⟨t, f.name, first⟩
  · rintro ⟨t, id, first⟩
    exact ⟨⟨id, elementType b t.name⟩,
      givesFirst_iff.mpr ⟨t, first, yields_elementType b t.name⟩⟩

/-- The element at a place says all about its field. -/
theorem FirstOfId.field_unique {b : Toolbox} {nodes : List Node} {i : Nat} {t u : Tag}
    {f g : PageField} (h : FirstOfId nodes i t f.name) (yields : b.Yields t.name f.typeName)
    (h' : FirstOfId nodes i u g.name) (yields' : b.Yields u.name g.typeName) : f = g := by
  obtain ⟨n, hn, isTag⟩ := h.here
  obtain ⟨n', hn', isTag'⟩ := h'.here
  obtain rfl : n = n' := Option.some.inj (hn.symm.trans hn')
  obtain rfl : t = u := NodeKind.tag.inj (isTag.symm.trans isTag')
  have names : f.name = g.name := h.identified.unique h'.identified
  have types : f.typeName = g.typeName := yields.eq_elementType.trans yields'.eq_elementType.symm
  cases f
  cases g
  cases names
  cases types
  rfl

/-- There is one list of fields that a page has to have. -/
theorem HasFields.unique {b : Toolbox} {nodes : List Node} {fields fields' : List PageField}
    (h : HasFields b nodes fields) (h' : HasFields b nodes fields') : fields = fields' := by
  obtain ⟨places, sorted, firsts, placed⟩ := h.placed
  obtain ⟨places', sorted', firsts', placed'⟩ := h'.placed
  obtain rfl : places = places' :=
    sorted.eq_of_mem_iff sorted' fun i => (firsts i).trans (firsts' i).symm
  refine List.right_unique_forall₂' ?_ placed placed'
  rintro i f g ⟨t, first, yields⟩ ⟨u, first', yields'⟩
  exact first.field_unique yields first' yields'

/-- A page has one field for each identifier under which an element runs at the server, whatever its
letter case. The fields stand in the order of the elements that have these identifiers first; the
name is spelled as there, and the type is that of the object for this element. -/
theorem hasFields_iff (b : Toolbox) (root : Node) (fields : List PageField) :
    HasFields b root.preorder fields ↔ fields = pageFields b root := by
  constructor
  · intro h
    exact h.unique (hasFields_pageFields b root)
  · rintro rfl
    exact hasFields_pageFields b root

end WebForms
