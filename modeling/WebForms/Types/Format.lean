import WebForms.Json.Reader
import WebForms.Json.Record
import WebForms.Types.Index

/-!
# Type index files

A type index file is a record with the list of its types. Members that may be left out have the
defaults of the definitions; in writing, all are given.

## Main definitions

* `TypeDefinition.toJson`, `TypeDefinition.ofJson?` — a definition written and read
* `definitionsToJson` — the contents of an index file
* `TypeIndex.parse?` — the index that a file's text describes
-/

namespace WebForms

open Json

/-! ### Choices -/

/-- The name of a kind of type. -/
def TypeKind.name : TypeKind → String
  | classType => "class"
  | enumType => "enum"
  | structType => "struct"
  | interfaceType => "interface"
  | delegateType => "delegate"

/-- The kind of that name. -/
def TypeKind.ofName? : String → Option TypeKind
  | "class" => some classType
  | "enum" => some enumType
  | "struct" => some structType
  | "interface" => some interfaceType
  | "delegate" => some delegateType
  | _ => none

/-- The name of an accessibility. -/
def Accessibility.name : Accessibility → String
  | isPublic => "public"
  | isProtected => "protected"
  | protectedInternal => "protectedInternal"
  | isInternal => "internal"
  | isPrivate => "private"

/-- The accessibility of that name. -/
def Accessibility.ofName? : String → Option Accessibility
  | "public" => some isPublic
  | "protected" => some isProtected
  | "protectedInternal" => some protectedInternal
  | "internal" => some isInternal
  | "private" => some isPrivate
  | _ => none

@[simp] theorem TypeKind.ofName?_name (k : TypeKind) : ofName? k.name = some k := by
  cases k <;> rfl

@[simp] theorem Accessibility.ofName?_name (a : Accessibility) : ofName? a.name = some a := by
  cases a <;> rfl

namespace AttributeArgument

/-- The argument as a value. -/
def toJson : AttributeArgument → Json
  | bool b => .obj [("bool", .bool b)]
  | string s => .obj [("string", .str s)]
  | int n => .obj [("int", .int n.toInt)]
  | enum s => .obj [("enum", .str s)]
  | type s => .obj [("type", .str s)]
  | null => .str "null"

/-- Reads an argument. -/
def ofJson? (v : Json) : Option AttributeArgument :=
  match v.case? with
  | some ("bool", some v) => v.bool?.map bool
  | some ("string", some v) => v.str?.map string
  | some ("int", some v) => v.int64?.map (int ∘ Int64.ofInt)
  | some ("enum", some v) => v.str?.map enum
  | some ("type", some v) => v.str?.map type
  | some ("null", none) => some null
  | some ("null", some .null) => some null
  | _ => none

end AttributeArgument

/-! ### Custom attributes -/

namespace NamedArguments

/-- The arguments as a value. -/
def toJson (s : NamedArguments) : Json := .obj (s.entries.map fun (name, a) => (name, a.toJson))

/-- Reads arguments given by name; of a repeated name the last one counts. -/
def ofJson? : Json → Option NamedArguments
  | .obj members =>
    (members.mapM fun m => (AttributeArgument.ofJson? m.2).map (m.1, ·)).map ofList
  | _ => none

end NamedArguments

namespace CustomAttribute

/-- The custom attribute as a value. -/
def toJson (a : CustomAttribute) : Json :=
  .obj [("type", .str a.typeName), ("positional", .arr (a.positional.map (·.toJson))),
    ("named", a.named.toJson)]

/-- Reads a custom attribute. -/
def ofJson? (v : Json) : Option CustomAttribute := do
  let [typeName, positional, named] ← v.fields? ["type", "positional", "named"] | none
  return {
    typeName := ← required str? typeName
    positional := ← withDefault [] (list? AttributeArgument.ofJson?) positional
    named := ← withDefault {} NamedArguments.ofJson? named }

end CustomAttribute

/-! ### Members -/

/-- Reads an accessibility that is public when it is left out. -/
def Accessibility.ofField? : Option Json → Option Accessibility :=
  withDefault .isPublic (enum? ofName?)

namespace PropertyDefinition

/-- The property as a value. -/
def toJson (p : PropertyDefinition) : Json :=
  .obj [("name", .str p.name), ("type", .str p.typeName),
    ("accessibility", .str p.accessibility.name), ("isStatic", .bool p.isStatic),
    ("attributes", .arr (p.attributes.map (·.toJson))), ("documentation", optStr p.documentation)]

/-- Reads a property. -/
def ofJson? (v : Json) : Option PropertyDefinition := do
  let [name, typeName, accessibility, isStatic, attributes, documentation] ←
    v.fields? ["name", "type", "accessibility", "isStatic", "attributes", "documentation"] | none
  return {
    name := ← required str? name
    typeName := ← required str? typeName
    accessibility := ← Accessibility.ofField? accessibility
    isStatic := ← withDefault false bool? isStatic
    attributes := ← withDefault [] (list? CustomAttribute.ofJson?) attributes
    documentation := ← optional str? documentation }

end PropertyDefinition

namespace EventDefinition

/-- The event as a value. -/
def toJson (e : EventDefinition) : Json :=
  .obj [("name", .str e.name), ("delegateType", .str e.delegateType),
    ("accessibility", .str e.accessibility.name), ("documentation", optStr e.documentation)]

/-- Reads an event. -/
def ofJson? (v : Json) : Option EventDefinition := do
  let [name, delegateType, accessibility, documentation] ←
    v.fields? ["name", "delegateType", "accessibility", "documentation"] | none
  return {
    name := ← required str? name
    delegateType := ← required str? delegateType
    accessibility := ← Accessibility.ofField? accessibility
    documentation := ← optional str? documentation }

end EventDefinition

namespace ParameterDefinition

/-- The parameter as a value. -/
def toJson (p : ParameterDefinition) : Json :=
  .obj [("name", .str p.name), ("type", .str p.typeName)]

/-- Reads a parameter. -/
def ofJson? (v : Json) : Option ParameterDefinition := do
  let [name, typeName] ← v.fields? ["name", "type"] | none
  return { name := ← required str? name, typeName := ← required str? typeName }

end ParameterDefinition

namespace MethodDefinition

/-- The method as a value. -/
def toJson (m : MethodDefinition) : Json :=
  .obj [("name", .str m.name), ("returnType", .str m.returnType),
    ("parameters", .arr (m.parameters.map (·.toJson))),
    ("accessibility", .str m.accessibility.name), ("isStatic", .bool m.isStatic),
    ("documentation", optStr m.documentation)]

/-- Reads a method. -/
def ofJson? (v : Json) : Option MethodDefinition := do
  let [name, returnType, parameters, accessibility, isStatic, documentation] ←
    v.fields? ["name", "returnType", "parameters", "accessibility", "isStatic", "documentation"]
    | none
  return {
    name := ← required str? name
    returnType := ← withDefault voidType str? returnType
    parameters := ← withDefault [] (list? ParameterDefinition.ofJson?) parameters
    accessibility := ← Accessibility.ofField? accessibility
    isStatic := ← withDefault false bool? isStatic
    documentation := ← optional str? documentation }

end MethodDefinition

namespace FieldDefinition

/-- The field as a value. -/
def toJson (f : FieldDefinition) : Json :=
  .obj [("name", .str f.name), ("type", .str f.typeName),
    ("accessibility", .str f.accessibility.name), ("isStatic", .bool f.isStatic),
    ("documentation", optStr f.documentation)]

/-- Reads a field. -/
def ofJson? (v : Json) : Option FieldDefinition := do
  let [name, typeName, accessibility, isStatic, documentation] ←
    v.fields? ["name", "type", "accessibility", "isStatic", "documentation"] | none
  return {
    name := ← required str? name
    typeName := ← required str? typeName
    accessibility := ← Accessibility.ofField? accessibility
    isStatic := ← withDefault false bool? isStatic
    documentation := ← optional str? documentation }

end FieldDefinition

/-! ### Types and files -/

namespace TypeDefinition

/-- The names of the members of a definition, in their declared order. -/
def fieldNames : List String :=
  ["namespace", "name", "kind", "baseType", "accessibility", "isAbstract", "attributes",
    "properties", "events", "methods", "fields", "documentation"]

/-- The definition as a value. -/
def toJson (t : TypeDefinition) : Json :=
  .obj [("namespace", .str t.space), ("name", .str t.name), ("kind", .str t.kind.name),
    ("baseType", optStr t.baseType), ("accessibility", .str t.accessibility.name),
    ("isAbstract", .bool t.isAbstract), ("attributes", .arr (t.attributes.map (·.toJson))),
    ("properties", .arr (t.properties.map (·.toJson))),
    ("events", .arr (t.events.map (·.toJson))), ("methods", .arr (t.methods.map (·.toJson))),
    ("fields", .arr (t.fields.map (·.toJson))), ("documentation", optStr t.documentation)]

/-- Reads a definition. -/
def ofJson? (v : Json) : Option TypeDefinition := do
  let [space, name, kind, baseType, accessibility, isAbstract, attributes, properties, events,
    methods, fields, documentation] ← v.fields? fieldNames | none
  return {
    space := ← withDefault "" str? space
    name := ← required str? name
    kind := ← withDefault .classType (enum? TypeKind.ofName?) kind
    baseType := ← optional str? baseType
    accessibility := ← Accessibility.ofField? accessibility
    isAbstract := ← withDefault false bool? isAbstract
    attributes := ← withDefault [] (list? CustomAttribute.ofJson?) attributes
    properties := ← withDefault [] (list? PropertyDefinition.ofJson?) properties
    events := ← withDefault [] (list? EventDefinition.ofJson?) events
    methods := ← withDefault [] (list? MethodDefinition.ofJson?) methods
    fields := ← withDefault [] (list? FieldDefinition.ofJson?) fields
    documentation := ← optional str? documentation }

end TypeDefinition

/-- The contents of an index file with these types. -/
def definitionsToJson (ts : List TypeDefinition) : Json :=
  .obj [("types", .arr (ts.map (·.toJson)))]

/-- Reads a list of definitions. -/
def definitions? : Json → Option (List TypeDefinition) := list? TypeDefinition.ofJson?

namespace TypeIndex

/-- Reads the contents of an index file. -/
def ofJson? (v : Json) : Option TypeIndex := do
  let [types] ← v.fields? ["types"] | none
  return ofList (← withDefault [] definitions? types)

/-- Reads the text of an index file. -/
def parse? (text : String) : Option TypeIndex := do
  ofJson? (← Json.parse? text)

end TypeIndex

end WebForms
