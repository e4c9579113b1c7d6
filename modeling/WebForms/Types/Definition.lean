import WebForms.Text.Case
import WebForms.Text.Split

/-!
# Type definitions

The types that pages and the classes behind them use, as an index file records them: names, base
types, members, and the custom attributes that say how a control is written in markup.

## Main definitions

* `AttributeArgument`, `NamedArguments`, `CustomAttribute` — custom attributes
* `PropertyDefinition`, `EventDefinition`, `MethodDefinition`, `FieldDefinition` — members
* `TypeDefinition` — a type
-/

namespace WebForms

/-- The kinds of type. -/
inductive TypeKind where
  | classType
  | enumType
  | structType
  | interfaceType
  | delegateType
  deriving DecidableEq, Repr, Inhabited

/-- Who may use a type or member. -/
inductive Accessibility where
  | isPublic
  | isProtected
  | protectedInternal
  | isInternal
  | isPrivate
  deriving DecidableEq, Repr, Inhabited

/-- A class deriving from the declaring type may use the member. -/
def Accessibility.isInheritable : Accessibility → Bool
  | isPublic | isProtected | protectedInternal => true
  | isInternal | isPrivate => false

/-- An argument of a custom attribute. -/
inductive AttributeArgument where
  | bool (b : Bool)
  | string (s : String)
  | int (n : Int64)
  /-- A member of an enumeration, qualified or not. -/
  | enum (member : String)
  /-- A type given by its name. -/
  | type (name : String)
  | null
  deriving DecidableEq, Repr, Inhabited

namespace AttributeArgument

/-- The truth value, if it is one. -/
def bool? : AttributeArgument → Option Bool
  | bool b => some b
  | _ => none

/-- The string, if it is one. -/
def string? : AttributeArgument → Option String
  | string s => some s
  | _ => none

/-- The name of an enumeration member without its qualification. -/
def enumMember? : AttributeArgument → Option String
  | enum s | string s => some (Text.lastSegment (· == '.') s)
  | _ => none

end AttributeArgument

theorem sorted_nil : ([] : List (String × AttributeArgument)).Pairwise (fun a b => a.1 < b.1) :=
  .nil

/-- Arguments given by name, each name once, in the order of the names. -/
structure NamedArguments where
  entries : List (String × AttributeArgument) := []
  sorted : entries.Pairwise (fun a b => a.1 < b.1) := by exact sorted_nil
  deriving DecidableEq, Repr

namespace NamedArguments

instance : Inhabited NamedArguments := ⟨{}⟩

/-- Puts an entry in its place, over an earlier one of the same name. -/
def insertSorted (name : String) (a : AttributeArgument) :
    List (String × AttributeArgument) → List (String × AttributeArgument)
  | [] => [(name, a)]
  | (n, b) :: es =>
    if name < n then (name, a) :: (n, b) :: es
    else if name = n then (name, a) :: es
    else (n, b) :: insertSorted name a es

theorem mem_insertSorted {name : String} {a : AttributeArgument}
    {es : List (String × AttributeArgument)} {e : String × AttributeArgument}
    (h : e ∈ insertSorted name a es) : e = (name, a) ∨ e ∈ es := by
  induction es with
  | nil => simpa [insertSorted] using h
  | cons f es ih =>
    unfold insertSorted at h
    split at h
    · simpa using h
    · split at h
      · exact (List.mem_cons.1 h).imp_right (List.mem_cons_of_mem _)
      · rcases List.mem_cons.1 h with h | h
        · exact .inr (h ▸ List.mem_cons_self)
        · exact (ih h).imp_right (List.mem_cons_of_mem _)

theorem sorted_insertSorted {name : String} {a : AttributeArgument}
    {es : List (String × AttributeArgument)} (h : es.Pairwise fun a b => a.1 < b.1) :
    (insertSorted name a es).Pairwise fun a b => a.1 < b.1 := by
  induction es with
  | nil => simp [insertSorted]
  | cons e es ih =>
    rw [List.pairwise_cons] at h
    unfold insertSorted
    split
    · next hlt =>
      refine List.pairwise_cons.2 ⟨fun f hf => ?_, List.pairwise_cons.2 h⟩
      rcases List.mem_cons.1 hf with rfl | hf
      · exact hlt
      · exact String.lt_trans hlt (h.1 f hf)
    · next hlt =>
      split
      · next heq => exact List.pairwise_cons.2 ⟨fun f hf => heq ▸ h.1 f hf, h.2⟩
      · next hne =>
        refine List.pairwise_cons.2 ⟨fun f hf => ?_, ih h.2⟩
        rcases mem_insertSorted hf with rfl | hf
        · exact Std.lt_of_le_of_ne (String.not_lt.1 hlt) (Ne.symm hne)
        · exact h.1 f hf

/-- Gives the argument `name` the value `a`. -/
def insert (s : NamedArguments) (name : String) (a : AttributeArgument) : NamedArguments :=
  ⟨insertSorted name a s.entries, sorted_insertSorted s.sorted⟩

/-- The arguments given in turn, later ones winning. -/
def ofList (arguments : List (String × AttributeArgument)) : NamedArguments :=
  arguments.foldl (fun s (name, a) => s.insert name a) {}

/-- The first argument of that name, whatever its letter case. -/
def get? (s : NamedArguments) (name : String) : Option AttributeArgument :=
  (s.entries.find? fun e => Text.sameName e.1 name).map (·.2)

end NamedArguments

/-- A custom attribute of a type or member. -/
structure CustomAttribute where
  typeName : String
  positional : List AttributeArgument := []
  named : NamedArguments := {}
  deriving DecidableEq, Repr, Inhabited

namespace CustomAttribute

/-- The name of an attribute type without the suffix that such types share, in lower case. -/
def shortName (fullName : String) : String :=
  let suffix := "Attribute"
  (if fullName.endsWith suffix then (fullName.dropEnd suffix.length).copy else fullName).toLower

/-- The attribute is of the given type, named with or without the suffix. -/
def hasType (a : CustomAttribute) (fullName : String) : Bool :=
  shortName a.typeName == shortName fullName

end CustomAttribute

/-- A property of a type. -/
structure PropertyDefinition where
  name : String
  typeName : String
  accessibility : Accessibility := .isPublic
  isStatic : Bool := false
  attributes : List CustomAttribute := []
  documentation : Option String := none
  deriving DecidableEq, Repr, Inhabited

/-- An event of a type. -/
structure EventDefinition where
  name : String
  delegateType : String
  accessibility : Accessibility := .isPublic
  documentation : Option String := none
  deriving DecidableEq, Repr, Inhabited

/-- A parameter of a method. -/
structure ParameterDefinition where
  name : String
  typeName : String
  deriving DecidableEq, Repr, Inhabited

/-- The type of what returns nothing. -/
def voidType : String := "System.Void"

/-- A method of a type. -/
structure MethodDefinition where
  name : String
  returnType : String := voidType
  parameters : List ParameterDefinition := []
  accessibility : Accessibility := .isPublic
  isStatic : Bool := false
  documentation : Option String := none
  deriving DecidableEq, Repr, Inhabited

/-- The types of the parameters in order. -/
def MethodDefinition.signature (m : MethodDefinition) : List String :=
  m.parameters.map (·.typeName)

/-- A field of a type. -/
structure FieldDefinition where
  name : String
  typeName : String
  accessibility : Accessibility := .isPublic
  isStatic : Bool := false
  documentation : Option String := none
  deriving DecidableEq, Repr, Inhabited

/-- A type. -/
structure TypeDefinition where
  space : String := ""
  name : String
  kind : TypeKind := .classType
  baseType : Option String := none
  accessibility : Accessibility := .isPublic
  isAbstract : Bool := false
  attributes : List CustomAttribute := []
  properties : List PropertyDefinition := []
  events : List EventDefinition := []
  methods : List MethodDefinition := []
  fields : List FieldDefinition := []
  documentation : Option String := none
  deriving DecidableEq, Repr, Inhabited

/-- The name `name` in the namespace `space`. -/
def qualifiedName (space name : String) : String :=
  if space.isEmpty then name else space ++ "." ++ name

namespace TypeDefinition

/-- The name with its namespace. -/
def fullName (t : TypeDefinition) : String := qualifiedName t.space t.name

/-- The first custom attribute of the given type. -/
def attribute? (t : TypeDefinition) (typeName : String) : Option CustomAttribute :=
  t.attributes.find? (·.hasType typeName)

/-- The methods of exactly that name. -/
def methodsCalled (t : TypeDefinition) (name : String) : List MethodDefinition :=
  t.methods.filter (·.name == name)

/-- The method by which a delegate is called. -/
def delegateMethod? (t : TypeDefinition) : Option MethodDefinition :=
  match t.kind with
  | .delegateType => (t.methodsCalled "Invoke").head?
  | _ => none

/-- The public static fields, which are the members of an enumeration. -/
def enumMembers (t : TypeDefinition) : List String :=
  (t.fields.filter fun f => f.isStatic && f.accessibility == .isPublic).map (·.name)

end TypeDefinition

end WebForms
