import WebForms.Code.Members
import WebForms.Proofs.Text.DistinctNames

/-!
# The members that are offered

The members of a type and of its base types stand in one row, nearest type first, and within a
type the properties in front of the methods, the fields and the events. Behind a dot, only some of
them can be seen: those that are public, and from inside of a class those that it inherits. Of
these, the first one of each name is offered, as what it is and with its own type. A member that
cannot be seen hides none of the others.

The row takes all kinds of member together, so that one name stands for one member whatever its
kind, and a method may hide a property of a base type.

## Main definitions

* `Member`, `TypeDefinition.members`, `membersAlong` — the row of members
* `Member.IsSeen` — the members that are shown behind a dot
* `FirstNamed` — the first member of a name among those that count

## Main results

* `CodeScope.memberItems_lists_nearest` — the first members that are seen are offered
-/

namespace WebForms

/-! ### Members -/

/-- A member that a type declares. -/
inductive Member where
  | property (p : PropertyDefinition)
  | method (m : MethodDefinition)
  | field (f : FieldDefinition)
  | event (e : EventDefinition)

namespace Member

def name : Member → String
  | property p => p.name
  | method m => m.name
  | field f => f.name
  | event e => e.name

def accessibility : Member → Accessibility
  | property p => p.accessibility
  | method m => m.accessibility
  | field f => f.accessibility
  | event e => e.accessibility

def documentation : Member → Option String
  | property p => p.documentation
  | method m => m.documentation
  | field f => f.documentation
  | event e => e.documentation

/-- What kind of item stands for the member. -/
def kind : Member → ItemKind
  | property _ => .property
  | method _ => .method
  | field _ => .field
  | event _ => .event

/-- What is shown beside the name: a type, or the whole of a method. -/
def detail (l : Language) : Member → String
  | property p => l.displayName p.typeName
  | method m => CodeScope.methodText l m
  | field f => l.displayName f.typeName
  | event e => e.delegateType

/-- The item that stands for the member. -/
def item (l : Language) (m : Member) : CompletionItem :=
  { label := m.name, kind := m.kind, detail := some (m.detail l), documentation := m.documentation }

@[simp] theorem label_item (l : Language) (m : Member) : (m.item l).label = m.name := rfl

/-- The member is the field in which an enumeration keeps its value. -/
def IsValueField : Member → Prop
  | field f => f.name = CodeScope.valueField
  | _ => False

/-- The member is shown behind a dot, perhaps inside of a class that inherits it. -/
def IsSeen (inside : Bool) (m : Member) : Prop :=
  (m.accessibility = .isPublic ∨ inside = true ∧ m.accessibility.isInheritable = true) ∧
    ¬ m.IsValueField

instance : DecidablePred IsValueField
  | field _ => inferInstanceAs (Decidable (_ = _))
  | property _ | method _ | event _ => inferInstanceAs (Decidable False)

instance (inside : Bool) : DecidablePred (IsSeen inside) :=
  fun _ => inferInstanceAs (Decidable (_ ∧ _))

end Member

/-- The members of a type: properties, methods, fields and events. -/
def TypeDefinition.members (t : TypeDefinition) : List Member :=
  t.properties.map .property ++ t.methods.map .method ++ t.fields.map .field ++
    t.events.map .event

/-- The members of the types of a chain. -/
def membersAlong (chain : List TypeDefinition) : List Member :=
  chain.flatMap TypeDefinition.members

/-- Of the members that count, `m` is the first one that has the name. -/
def FirstNamed (counts : Member → Prop) (name : String) (members : List Member) (m : Member) :
    Prop :=
  ∃ front back, members = front ++ m :: back ∧ counts m ∧ Text.sameName m.name name = true ∧
    ∀ m' ∈ front, counts m' → Text.sameName m'.name name = false

section

variable {counts : Member → Prop} {name : String} {members : List Member} {m m' : Member}
  {s : CodeScope} {t : TypeDefinition} {inside : Bool}

theorem mem_membersAlong_iff {chain : List TypeDefinition} :
    m ∈ membersAlong chain ↔ ∃ u ∈ chain, m ∈ u.members :=
  List.mem_flatMap

/-! ### First members -/

namespace FirstNamed

theorem isCounted (h : FirstNamed counts name members m) : counts m := by
  obtain ⟨_, _, -, counted, -, -⟩ := h
  exact counted

theorem named (h : FirstNamed counts name members m) : Text.sameName m.name name = true := by
  obtain ⟨_, _, -, -, named, -⟩ := h
  exact named

theorem mem (h : FirstNamed counts name members m) : m ∈ members := by
  obtain ⟨_, _, rfl, -, -, -⟩ := h
  exact List.mem_append_right _ List.mem_cons_self

/-- Letter case does not matter to which member is the first one. -/
theorem congr {name' : String} (h : FirstNamed counts name members m)
    (same : Text.sameName name name' = true) : FirstNamed counts name' members m := by
  have keys : name.toLower = name'.toLower := Text.sameName_iff.mp same
  obtain ⟨front, back, split, counted, named, none⟩ := h
  refine ⟨front, back, split, counted, ?_, fun m' hm' counted' => ?_⟩
  · rwa [Text.sameName, ← keys]
  · rw [Text.sameName, ← keys]
    exact none m' hm' counted'

end FirstNamed

/-- A search finds the first member. -/
theorem firstNamed_iff_find? [DecidablePred counts] :
    FirstNamed counts name members m ↔
      members.find? (fun m => decide (counts m) && Text.sameName m.name name) = some m := by
  rw [List.find?_eq_some_iff_append, FirstNamed]
  constructor
  · rintro ⟨front, back, split, counted, named, none⟩
    refine ⟨by simp [counted, named], front, back, split, fun m' hm' => ?_⟩
    by_cases counted' : counts m'
    · simp [none m' hm' counted']
    · simp [counted']
  · rintro ⟨found, front, back, split, none⟩
    obtain ⟨counted, named⟩ := by simpa using found
    refine ⟨front, back, split, counted, named, fun m' hm' counted' => ?_⟩
    simpa [counted'] using none m' hm'

/-- Two members at places of one row are the same, or one of them stands in front of the other. -/
theorem eq_or_mem_of_splits {front back front' back' : List Member}
    (splits : front ++ m :: back = front' ++ m' :: back') : m = m' ∨ m ∈ front' ∨ m' ∈ front := by
  rcases List.append_eq_append_iff.mp splits with
    ⟨between, in_front, rest⟩ | ⟨between, in_front, rest⟩
  · cases between with
    | nil => exact .inl (List.cons.inj rest).1
    | cons c between =>
      obtain ⟨rfl, -⟩ := List.cons.inj rest
      exact .inr (.inl (by simp [in_front]))
  · cases between with
    | nil => exact .inl (List.cons.inj rest).1.symm
    | cons c between =>
      obtain ⟨rfl, -⟩ := List.cons.inj rest
      exact .inr (.inr (by simp [in_front]))

/-- Two first members are the same if each of them counts for the other. -/
theorem FirstNamed.eq_of_counts {counts' : Member → Prop}
    (h : FirstNamed counts name members m) (h' : FirstNamed counts' name members m')
    (counted : counts m') (counted' : counts' m) : m = m' := by
  obtain ⟨front, back, split, -, named, none⟩ := h
  obtain ⟨front', back', split', -, named', none'⟩ := h'
  rcases eq_or_mem_of_splits (split.symm.trans split') with same | earlier | earlier
  · exact same
  · exact absurd named (ne_true_of_eq_false (none' m earlier counted'))
  · exact absurd named' (ne_true_of_eq_false (none m' earlier counted))

/-- There is one first member at most. -/
theorem FirstNamed.unique (h : FirstNamed counts name members m)
    (h' : FirstNamed counts name members m') : m = m' :=
  h.eq_of_counts h' h'.isCounted h.isCounted

/-- There is a first member if there is any. -/
theorem exists_firstNamed (hm : m ∈ members) (counted : counts m)
    (named : Text.sameName m.name name = true) : ∃ m', FirstNamed counts name members m' := by
  classical
  cases found : members.find? fun m => decide (counts m) && Text.sameName m.name name with
  | some m' => exact ⟨m', firstNamed_iff_find?.mpr found⟩
  | none =>
    have missed := List.find?_eq_none.mp found m hm
    simp [counted, named] at missed

/-! ### Items -/

theorem Member.isSeen_iff :
    m.IsSeen inside ↔ CodeScope.isVisible inside m.accessibility = true ∧ ¬ m.IsValueField := by
  rw [IsSeen, CodeScope.isVisible, Bool.or_eq_true, beq_iff_eq, Bool.and_eq_true]

/-- A type has the items of those of its members that are seen. -/
theorem declaredItems_eq (l : Language) (inside : Bool) (t : TypeDefinition) :
    CodeScope.declaredItems l (CodeScope.isVisible inside) t =
      (t.members.filter fun m => m.IsSeen inside).map (Member.item l) := by
  simp only [CodeScope.declaredItems, TypeDefinition.members, List.filter_append, List.map_append,
    List.filter_map, List.map_map, Function.comp_def, Member.isSeen_iff, Member.accessibility,
    Member.IsValueField, not_false_eq_true, and_true, Bool.decide_and, Bool.decide_eq_true,
    decide_not, bne, beq_eq_decide]
  rfl

/-- Of the members that are seen, the first ones of all names are offered. -/
theorem memberItems_eq (s : CodeScope) (t : TypeDefinition) (inside : Bool) :
    s.memberItems t inside =
      (Text.distinctBy Member.name
        ((membersAlong (s.index.chain t)).filter fun m => m.IsSeen inside)).map
          (Member.item s.language) := by
  have declared : CodeScope.declaredItems s.language (CodeScope.isVisible inside) = fun u =>
      (u.members.filter fun m => m.IsSeen inside).map (Member.item s.language) :=
    funext (declaredItems_eq s.language inside)
  rw [CodeScope.memberItems, declared, ← List.map_flatMap, ← List.filter_flatMap]
  exact Text.distinctBy_map _ _ _

theorem mem_distinctBy_seen_iff :
    m ∈ Text.distinctBy Member.name (members.filter fun m => m.IsSeen inside) ↔
      FirstNamed (Member.IsSeen inside) m.name members m := by
  simp only [Text.mem_distinctBy_iff, List.find?_filter, firstNamed_iff_find?, Bool.decide_and,
    Bool.decide_eq_true]

/-- The item of a member is offered if and only if the member is the first one of its name that is
seen. -/
theorem mem_memberItems_iff {e : CompletionItem} :
    e ∈ s.memberItems t inside ↔
      ∃ m, FirstNamed (Member.IsSeen inside) m.name (membersAlong (s.index.chain t)) m ∧
        m.item s.language = e := by
  simp only [memberItems_eq, List.mem_map, mem_distinctBy_seen_iff]

/-- The items are those of the first members of all names, among the members of a type and its base
types that are seen. -/
structure CodeScope.ListsNearest (s : CodeScope) (t : TypeDefinition) (inside : Bool)
    (items : List CompletionItem) : Prop where
  distinct : items.Pairwise fun e e' => Text.sameName e.label e'.label = false
  complete : ∀ u ∈ s.index.chain t, ∀ m ∈ u.members, m.IsSeen inside →
    ∃ e ∈ items, Text.sameName e.label m.name = true
  nearest : ∀ name m,
    FirstNamed (Member.IsSeen inside) name (membersAlong (s.index.chain t)) m →
      ∀ e ∈ items, Text.sameName e.label name = true →
        e.label = m.name ∧ e.kind = m.kind ∧ e.detail = some (m.detail s.language)
  /-- Nothing else is offered. -/
  origin : ∀ e ∈ items, ∃ u ∈ s.index.chain t, ∃ m ∈ u.members,
    m.IsSeen inside ∧ m.item s.language = e

/-- Behind a dot, each name that is seen is offered once, as the nearest member of that name. -/
theorem CodeScope.memberItems_lists_nearest (s : CodeScope) (t : TypeDefinition) (inside : Bool) :
    s.ListsNearest t inside (s.memberItems t inside) where
  distinct := Text.pairwise_distinctBy
  complete := by
    intro u hu m hm seen
    have member : m ∈ membersAlong (s.index.chain t) := mem_membersAlong_iff.mpr ⟨u, hu, hm⟩
    obtain ⟨first, h⟩ := exists_firstNamed member seen (Text.sameName_self m.name)
    refine ⟨first.item s.language, mem_memberItems_iff.mpr ⟨first, ?_, rfl⟩, h.named⟩
    exact h.congr ((Text.sameName_comm _ _).trans h.named)
  nearest := by
    intro name m h e he same
    obtain ⟨m', h', rfl⟩ := mem_memberItems_iff.mp he
    -- Both are the first one of the same name.
    obtain rfl := (h'.congr same).unique h
    exact ⟨rfl, rfl, rfl⟩
  origin := by
    intro e he
    obtain ⟨m, h, made⟩ := mem_memberItems_iff.mp he
    obtain ⟨u, hu, hm⟩ := mem_membersAlong_iff.mp h.mem
    exact ⟨u, hu, m, hm, h.isCounted, made⟩

end

end WebForms
