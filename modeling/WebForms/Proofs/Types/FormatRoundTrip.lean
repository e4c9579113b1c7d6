import Mathlib.Data.List.Induction
import WebForms.Proofs.Json.RoundTrip
import WebForms.Types.Format

/-!
# Type definitions are read back as they are written

A definition is a record of records, and each of them is written with all its members, in the order
in which they are declared. Reading looks every member up by its name, so that a record comes back
when its members do. What is left are the leaves: strings, truth values, names of choices, and the
integers, of which a 64-bit one is never too large.

## Main definitions

* `Json.Faithful` — a way of writing and reading under which every value comes back

## Main results

* `TypeDefinition.faithful` — definitions are written and read in such a way
-/

namespace WebForms

open Json

namespace Json

variable {α : Type}

/-- What is written has a text of its own, from which it is read back. -/
structure Faithful (write : α → Json) (read : Json → Option α) : Prop where
  written : ∀ x, (write x).Written
  read_write : ∀ x, read (write x) = some x

variable {write : α → Json} {read : Json → Option α}

/-- The text of a value is read as this value. -/
theorem Faithful.parse?_bind (h : Faithful write read) (x : α) :
    (parse? (write x).render).bind read = some x := by
  rw [parse?_render (h.written x), Option.bind_some, h.read_write]

/-- A 64-bit integer is within the bounds of its type. -/
theorem faithful_int64 :
    Faithful (fun n : Int64 => .int n.toInt) (fun v => v.int64?.map Int64.ofInt) where
  written n := by
    have low := Int64.le_toInt n
    have high := Int64.toInt_lt n
    exact .int low (by omega)
  read_write n := by
    have bounds : Int64.minValue.toInt ≤ n.toInt ∧ n.toInt ≤ Int64.maxValue.toInt :=
      ⟨Int64.minValue_le_toInt n, Int64.toInt_le n⟩
    rw [int64?, intIn?, if_pos bounds, Option.map_some, Int64.ofInt_toInt]

/-- A list has a text of its own when its items do. -/
theorem written_map (h : ∀ x, (write x).Written) (xs : List α) : (arr (xs.map write)).Written := by
  refine .arr fun v hv => ?_
  obtain ⟨x, -, rfl⟩ := List.mem_map.mp hv
  exact h x

/-- A list comes back when its items do. -/
theorem Faithful.list (h : Faithful write read) :
    Faithful (fun xs => .arr (xs.map write)) (list? read) where
  written := written_map h.written
  read_write xs := by
    induction xs with
    | nil => rfl
    | cons x xs ih =>
      simp only [list?, List.map_cons, List.mapM_cons, h.read_write] at ih ⊢
      rw [ih]
      rfl

/-- A choice comes back from its name. -/
theorem faithful_enum {name : α → String} {ofName? : String → Option α}
    (h : ∀ x, ofName? (name x) = some x) : Faithful (fun x => .str (name x)) (enum? ofName?) :=
  ⟨fun x => .str (name x), h⟩

/-- A string that may be missing comes back. -/
theorem faithful_optStr : Faithful optStr (nullable? str?) where
  written s := by
    cases s with
    | none => exact .null
    | some s => exact .str s
  read_write s := by
    cases s with
    | none => rfl
    | some s => rfl

@[simp] theorem optional_optStr (s : Option String) :
    Json.optional str? (some (optStr s)) = some s :=
  faithful_optStr.read_write s

@[simp] theorem str?_str (s : String) : (str s).str? = some s := rfl

@[simp] theorem required_some (v : Json) : required read (some v) = read v := rfl

@[simp] theorem withDefault_some (default : α) (v : Json) :
    withDefault default read (some v) = read v :=
  rfl

/-- An object with distinct names has the fields of these names. -/
theorem fields?_obj {names : List String} {members : List (String × Json)}
    (all : members.map (·.1) = names) (distinct : names.Nodup) :
    (obj members).fields? names = some (members.map fun m => some m.2) := by
  subst all
  have once : (members.map (·.1)).any (fun name => 1 < members.countP (·.1 == name)) = false := by
    rw [List.any_eq_false]
    intro name _
    have count : members.countP (·.1 == name) = (members.map (·.1)).count name := by
      rw [List.count, List.countP_map]
      rfl
    have bound := List.nodup_iff_count.mp distinct name
    rw [count, decide_eq_true_eq]
    omega
  have found : (members.map (·.1)).map (List.lookup · members) = members.map fun m => some m.2 := by
    clear once
    induction members with
    | nil => rfl
    | cons m ms ih =>
      obtain ⟨fresh, distinct⟩ := List.nodup_cons.mp distinct
      have others : (ms.map (·.1)).map (List.lookup · (m :: ms)) =
          (ms.map (·.1)).map (List.lookup · ms) := by
        refine List.map_congr_left fun name hname => ?_
        have other : (name == m.1) = false := beq_eq_false_iff_ne.mpr fun same => by
          subst same
          exact fresh hname
        rw [List.lookup_cons, other]
      rw [List.map_cons, List.map_cons, others, ih distinct, List.map_cons, List.lookup_cons_self]
  rw [fields?, once, found]
  rfl

end Json

/-! ### Custom attributes -/

/-- An argument comes back in each of its forms. -/
theorem AttributeArgument.faithful : Faithful toJson ofJson? where
  written a := by
    cases a with
    | bool b => exact .obj (List.forall_mem_singleton.mpr (.bool b))
    | string s => exact .obj (List.forall_mem_singleton.mpr (.str s))
    | int n => exact .obj (List.forall_mem_singleton.mpr (faithful_int64.written n))
    | enum s => exact .obj (List.forall_mem_singleton.mpr (.str s))
    | type s => exact .obj (List.forall_mem_singleton.mpr (.str s))
    | null => exact .str "null"
  read_write a := by
    cases a with
    | int n =>
      have read : (Json.int n.toInt).int64?.map Int64.ofInt = some n :=
        faithful_int64.read_write n
      have inner := congrArg (Option.map AttributeArgument.int) read
      rwa [Option.map_map] at inner
    | bool b => rfl
    | string s => rfl
    | enum s => rfl
    | type s => rfl
    | null => rfl

namespace NamedArguments

theorem eq_of_entries {s t : NamedArguments} (h : s.entries = t.entries) : s = t := by
  cases s
  cases t
  cases h
  rfl

/-- What comes after all entries is put at the end. -/
theorem insertSorted_of_forall_lt {name : String} {a : AttributeArgument}
    {es : List (String × AttributeArgument)} (after : ∀ e ∈ es, e.1 < name) :
    insertSorted name a es = es ++ [(name, a)] := by
  induction es with
  | nil => rfl
  | cons e es ih =>
    have lt : e.1 < name := after e List.mem_cons_self
    have ne : name ≠ e.1 := fun h => String.lt_irrefl _ (h ▸ lt)
    rw [insertSorted, if_neg (String.lt_asymm lt), if_neg ne,
      ih fun f hf => after f (List.mem_cons_of_mem _ hf), List.cons_append]

/-- Arguments given in the order of their names are kept as they are given. -/
theorem entries_ofList {es : List (String × AttributeArgument)}
    (sorted : es.Pairwise fun a b => a.1 < b.1) : (ofList es).entries = es := by
  -- Each argument comes after those before it, so the induction runs over the last one.
  induction es using List.reverseRecOn with
  | nil => rfl
  | append_singleton es e ih =>
    obtain ⟨front, -, after⟩ := List.pairwise_append.mp sorted
    have last : (ofList (es ++ [e])).entries = insertSorted e.1 e.2 (ofList es).entries := by
      simp [ofList, insert]
    rw [last, ih front]
    exact insertSorted_of_forall_lt fun f hf => after f hf e List.mem_cons_self

theorem faithful : Faithful toJson ofJson? where
  written s := by
    refine .obj fun m hm => ?_
    obtain ⟨e, -, rfl⟩ := List.mem_map.mp hm
    exact AttributeArgument.faithful.written e.2
  read_write s := by
    have read {member : String × AttributeArgument → String × Json}
        (written : ∀ e, member e = (e.1, e.2.toJson)) (es : List (String × AttributeArgument)) :
        (es.map member).mapM (fun m => (AttributeArgument.ofJson? m.2).map (m.1, ·)) =
          some es := by
      induction es with
      | nil => rfl
      | cons e es ih =>
        simp only [List.map_cons, List.mapM_cons, ih, written,
          AttributeArgument.faithful.read_write]
        rfl
    have kept : ofList s.entries = s := eq_of_entries (entries_ofList s.sorted)
    rw [toJson, ofJson?, read fun _ => rfl, Option.map_some, kept]

end NamedArguments

theorem CustomAttribute.faithful : Faithful toJson ofJson? where
  written a := by
    have positional := AttributeArgument.faithful.list.written a.positional
    have named := NamedArguments.faithful.written a.named
    exact .obj (by simp [positional, named, Written.str])
  read_write a := by
    have positional := AttributeArgument.faithful.list.read_write a.positional
    have named := NamedArguments.faithful.read_write a.named
    rw [ofJson?, toJson, fields?_obj]
    case all => rfl
    case distinct => decide
    simp [str?, positional, named]

/-! ### Members -/

/-- An accessibility comes back, although it could have been left out. -/
@[simp] theorem Accessibility.ofField?_name (a : Accessibility) :
    ofField? (some (.str a.name)) = some a :=
  (faithful_enum ofName?_name).read_write a

theorem PropertyDefinition.faithful : Faithful toJson ofJson? where
  written p := by
    have attributes := CustomAttribute.faithful.list.written p.attributes
    have documentation := faithful_optStr.written p.documentation
    exact .obj (by simp [attributes, documentation, Written.str, Written.bool])
  read_write p := by
    have attributes := CustomAttribute.faithful.list.read_write p.attributes
    rw [ofJson?, toJson, fields?_obj]
    case all => rfl
    case distinct => decide
    simp [str?, bool?, attributes]

theorem EventDefinition.faithful : Faithful toJson ofJson? where
  written e := by
    have documentation := faithful_optStr.written e.documentation
    exact .obj (by simp [documentation, Written.str])
  read_write e := by
    rw [ofJson?, toJson, fields?_obj]
    case all => rfl
    case distinct => decide
    simp [str?]

theorem ParameterDefinition.faithful : Faithful toJson ofJson? where
  written p := .obj (by simp [Written.str])
  read_write p := by
    rw [ofJson?, toJson, fields?_obj]
    case all => rfl
    case distinct => decide
    simp [str?]

theorem MethodDefinition.faithful : Faithful toJson ofJson? where
  written m := by
    have parameters := ParameterDefinition.faithful.list.written m.parameters
    have documentation := faithful_optStr.written m.documentation
    exact .obj (by simp [parameters, documentation, Written.str, Written.bool])
  read_write m := by
    have parameters := ParameterDefinition.faithful.list.read_write m.parameters
    rw [ofJson?, toJson, fields?_obj]
    case all => rfl
    case distinct => decide
    simp [str?, bool?, parameters]

theorem FieldDefinition.faithful : Faithful toJson ofJson? where
  written f := by
    have documentation := faithful_optStr.written f.documentation
    exact .obj (by simp [documentation, Written.str, Written.bool])
  read_write f := by
    rw [ofJson?, toJson, fields?_obj]
    case all => rfl
    case distinct => decide
    simp [str?, bool?]

/-! ### Types and files -/

theorem TypeDefinition.faithful : Faithful toJson ofJson? where
  written t := by
    have attributes := CustomAttribute.faithful.list.written t.attributes
    have properties := PropertyDefinition.faithful.list.written t.properties
    have events := EventDefinition.faithful.list.written t.events
    have methods := MethodDefinition.faithful.list.written t.methods
    have fields := FieldDefinition.faithful.list.written t.fields
    have baseType := faithful_optStr.written t.baseType
    have documentation := faithful_optStr.written t.documentation
    exact .obj (by simp [attributes, properties, events, methods, fields, baseType, documentation,
      Written.str, Written.bool])
  read_write t := by
    have kind : enum? TypeKind.ofName? (.str t.kind.name) = some t.kind :=
      (faithful_enum TypeKind.ofName?_name).read_write t.kind
    have attributes := CustomAttribute.faithful.list.read_write t.attributes
    have properties := PropertyDefinition.faithful.list.read_write t.properties
    have events := EventDefinition.faithful.list.read_write t.events
    have methods := MethodDefinition.faithful.list.read_write t.methods
    have fields := FieldDefinition.faithful.list.read_write t.fields
    rw [ofJson?, toJson, fields?_obj]
    case all => rfl
    case distinct => decide
    simp [str?, bool?, kind, attributes, properties, events, methods, fields]

/-- The contents of an index file are read as the index that its types make up. -/
theorem TypeIndex.ofJson?_definitionsToJson (ts : List TypeDefinition) :
    ofJson? (definitionsToJson ts) = some (ofList ts) := by
  have types := TypeDefinition.faithful.list.read_write ts
  rw [ofJson?, definitionsToJson, fields?_obj]
  case all => rfl
  case distinct => decide
  simp [definitions?, types]

theorem written_definitionsToJson (ts : List TypeDefinition) : (definitionsToJson ts).Written :=
  .obj (List.forall_mem_singleton.mpr (TypeDefinition.faithful.list.written ts))

/-- A definition is read back from its text, and the text of an index file is read as the index
that its types make up when they are added in turn. -/
theorem TypeIndex.parse?_definitionsToJson :
    (∀ t : TypeDefinition, (Json.parse? t.toJson.render).bind TypeDefinition.ofJson? = some t) ∧
      ∀ ts : List TypeDefinition,
        TypeIndex.parse? (definitionsToJson ts).render = some (ts.foldl TypeIndex.add {}) := by
  constructor
  · exact TypeDefinition.faithful.parse?_bind
  · intro ts
    rw [parse?, parse?_render (written_definitionsToJson ts)]
    exact ofJson?_definitionsToJson ts

end WebForms
