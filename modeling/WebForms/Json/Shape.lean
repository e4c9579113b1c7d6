import WebForms.Json.Value
import WebForms.Text.Quoted
import WebForms.Uri

/-!
# Shapes of values

A shape says what a value has to look like: which fields a record has, which of them may be left
out, what stands in each. One reader serves all shapes. It gives the value back in plain form, in
which every record is an object with the members that are declared, or it gives the first fault.

A record is read from an object, in which unknown members are skipped, or from the array of its
fields in their declared order. Members are read in the order of their names, so a fault in one of
them comes before a member that is missing. Values in groups and choices are set aside before they
are read, which shows in what is said of an array that is too long.

## Main definitions

* `Shape` — what a value has to look like
* `ShapeFault`, `ShapeFault.message` — why a value does not have a shape, and what is said of it
* `Shape.read` — a value in plain form
-/

namespace WebForms

/-- What a value of the interchange format has to look like. -/
inductive Shape where
  | any
  | boolean
  /-- An integer that an unsigned 32-bit word can hold. -/
  | natural
  /-- An integer that a signed 32-bit word can hold. -/
  | integer
  /-- Any number. -/
  | decimal
  | text
  | uri
  /-- A value of the shape, or null. -/
  | optional (shape : Shape)
  /-- As a field: a value of the shape, which may be left out even from an array. -/
  | defaulted (shape : Shape)
  /-- A value of the shape, or null, or a truth value in its place. -/
  | orFlag (shape : Shape)
  | list (items : Shape)
  /-- Two values of the shape. -/
  | pair (parts : Shape)
  /-- One of the words. -/
  | words (known : List String)
  /-- A value of the first of the shapes that it has. -/
  | choice (name : String) (shapes : List Shape)
  | table (values : Shape)
  /-- A table whose names are addresses. -/
  | uriTable (values : Shape)
  | record (name : String) (fields : List (String × Shape))
  /-- A record in whose object the members of further groups stand as well. -/
  | merged (name : String) (fields : List (String × Shape)) (groups : List (List (String × Shape)))
  /-- A record in whose object members of other names have a shape, too. -/
  | extended (name : String) (fields : List (String × Shape)) (others : Shape)

/-! ### Faults -/

/-- Why a value does not have a shape. -/
inductive ShapeFault where
  /-- A value of the wrong kind. -/
  | kind (found : Json) (expected : String)
  /-- A value of the right kind, but out of range. -/
  | range (found : Json) (expected : String)
  | missing (field : String)
  | length (found : Nat) (expected : String)
  | unknownWord (word : String) (known : List String)
  | noChoice (name : String)
  | uri (fault : UriFault) (text : String)

/-- A value as a fault speaks of it. -/
def Json.described : Json → String
  | .null => "null"
  | .unreadable => "null"
  | .bool b => "boolean `" ++ toString b ++ "`"
  | .int n => "integer `" ++ toString n ++ "`"
  | .number text => "floating point `" ++ text ++ "`"
  | .str s => "string " ++ Text.quoted s
  | .arr _ => "sequence"
  | .obj _ => "map"

/-- A number of elements. -/
def elementCount (n : Nat) : String :=
  toString n ++ if n = 1 then " element" else " elements"

/-- The words of which one is expected. -/
def expectedWords (known : List String) : String :=
  let quoted := known.map fun w => "`" ++ w ++ "`"
  match quoted with
  | [] => "there are no variants"
  | [a] => "expected " ++ a
  | [a, b] => "expected " ++ a ++ " or " ++ b
  | ws => "expected one of " ++ String.intercalate ", " ws

/-- What is said of a fault. -/
def ShapeFault.message : ShapeFault → String
  | kind found expected => "invalid type: " ++ found.described ++ ", expected " ++ expected
  | range found expected => "invalid value: " ++ found.described ++ ", expected " ++ expected
  | missing field => "missing field `" ++ field ++ "`"
  | length found expected => "invalid length " ++ toString found ++ ", expected " ++ expected
  | unknownWord word known => "unknown variant `" ++ word ++ "`, " ++ expectedWords known
  | noChoice name => "data did not match any variant of untagged enum " ++ name
  | uri fault text => fault.message ++ ": " ++ Text.quoted text

/-! ### Reading -/

namespace Shape

/-- A field of this shape may be left out from an object. -/
def mayBeAbsent : Shape → Bool
  | optional _ => true
  | defaulted _ => true
  | orFlag _ => true
  | _ => false

/-- A field of this shape may be left out from an array. -/
def isDefaulted : Shape → Bool
  | defaulted _ => true
  | orFlag _ => true
  | _ => false

/-- The integer between the bounds. -/
def readInteger (low high : Int) (expected : String) : Json → Except ShapeFault Json
  | .int n => if low ≤ n ∧ n ≤ high then .ok (.int n) else .error (.range (.int n) expected)
  | v => .error (.kind v expected)

/-- The address in a text. -/
def readUri : Json → Except ShapeFault Json
  | .str s =>
    match Uri.parse s with
    | .ok _ => .ok (.str s)
    | .error fault => .error (.uri fault s)
  | v => .error (.kind v "a string representing an URL")

/-- One of the words, by itself or as the only name of an object without contents. -/
def readWord (known : List String) : Json → Except ShapeFault Json
  | .str w => if known.contains w then .ok (.str w) else .error (.unknownWord w known)
  | .obj [(w, contents)] =>
    if known.contains w then
      match contents with
      | .null => .ok (.str w)
      | v => .error (.kind v "unit")
    else .error (.unknownWord w known)
  | .obj members => .error (.range (.obj members) "map with a single key")
  | v => .error (.kind v "string or map")

/-- The first required field that is not among the members. -/
def missing? (fields : List (String × Shape)) (members : List (String × Json)) : Option String :=
  (fields.find? fun (name, shape) => !shape.mayBeAbsent && (members.lookup name).isNone).map (·.1)

/-- What is wrong with the number of items from which a record is read. -/
def lengthFault? (aside : Bool) (name : String) (fields : List (String × Shape)) (count : Nat) :
    Option ShapeFault :=
  if fields.length < count then
    some (.length count (if aside then elementCount fields.length ++ " in sequence"
      else "fewer elements in array"))
  else
    ((fields.zipIdx.drop count).find? fun (field, _) => !field.2.isDefaulted).map fun (_, i) =>
      .length i ("struct " ++ name ++ " with " ++ elementCount fields.length)

/-- The values of the members in the order of their names, or the first fault. -/
def settle (members : List (String × Except ShapeFault Json)) :
    Except ShapeFault (List (String × Json)) :=
  (members.mergeSort fun a b => a.1 ≤ b.1).mapM fun (name, outcome) => outcome.map (name, ·)

/-- The members that have been read, unless one is missing. -/
def complete (fields : List (String × Shape)) (members : List (String × Json))
    (read : List (String × Except ShapeFault Json)) : Except ShapeFault (List (String × Json)) := do
  let settled ← settle read
  match missing? fields members with
  | some name => throw (.missing name)
  | none => return settled

mutual

/-- The value in plain form. `aside` tells that it has been set aside before. -/
def read (aside : Bool) : Shape → Json → Except ShapeFault Json
  | any, v => .ok v
  | boolean, v =>
    match v with
    | .bool b => .ok (.bool b)
    | v => .error (.kind v "a boolean")
  | natural, v => readInteger 0 (2 ^ 32 - 1) "u32" v
  | integer, v => readInteger (-2 ^ 31) (2 ^ 31 - 1) "i32" v
  | decimal, v =>
    match v with
    | .int n => .ok (.int n)
    | .number t => .ok (.number t)
    | v => .error (.kind v "f32")
  | text, v =>
    match v with
    | .str s => .ok (.str s)
    | v => .error (.kind v "a string")
  | uri, v => readUri v
  | optional shape, v =>
    match v with
    | .null => .ok .null
    | v => shape.read aside v
  | defaulted shape, v => shape.read aside v
  | orFlag shape, v =>
    match v with
    | .null => .ok .null
    | .bool b => .ok (.bool b)
    | v => shape.read false v
  | list items, v =>
    match v with
    | .arr vs => (vs.mapM (items.read aside)).map .arr
    | v => .error (.kind v "a sequence")
  | pair parts, v =>
    match v with
    | .arr [a, b] => do return .arr [← parts.read aside a, ← parts.read aside b]
    | .arr vs => .error (.length vs.length "an array of length 2")
    | v => .error (.kind v "an array of length 2")
  | words known, v => readWord known v
  | choice name shapes, v =>
    match readChoice shapes v with
    | some v => .ok v
    | none => .error (.noChoice name)
  | table values, v =>
    match v with
    | .obj ms => (ms.mapM fun m => (values.read aside m.2).map (m.1, ·)).map .obj
    | v => .error (.kind v "a map")
  | uriTable values, v =>
    match v with
    | .obj ms => do
      let entry (m : String × Json) : Except ShapeFault (String × Json) := do
        let _ ← readUri (.str m.1)
        return (m.1, ← values.read aside m.2)
      return .obj (← ms.mapM entry)
    | v => .error (.kind v "map")
  | record name fields, v =>
    match v with
    | .obj ms => (complete fields ms (readMembers aside fields ms)).map .obj
    | .arr vs => do
      let ms ← readItems aside fields vs
      match lengthFault? aside name fields vs.length with
      | some fault => throw fault
      | none => return .obj ms
    | v => .error (.kind v ("struct " ++ name))
  | merged name fields groups, v =>
    match v with
    | .obj ms => do
      let own ← complete fields ms (readMembers aside fields ms)
      return .obj (own ++ (← readGroups groups ms))
    | v => .error (.kind v ("struct " ++ name))
  | extended name fields others, v =>
    match v with
    | .obj ms => do
      let own ← complete fields ms (readMembers aside fields ms)
      let rest := ms.filter fun m => (fields.lookup m.1).isNone
      return .obj (own ++ (← rest.mapM fun m => (others.read true m.2).map (m.1, ·)))
    | v => .error (.kind v ("struct " ++ name))

/-- The value in the plain form of the first shape that it has. -/
def readChoice : List Shape → Json → Option Json
  | [], _ => none
  | shape :: shapes, v =>
    match shape.read true v with
    | .ok v => some v
    | .error _ => readChoice shapes v

/-- Of each declared field that is among the members what is read for it. -/
def readMembers (aside : Bool) :
    List (String × Shape) → List (String × Json) → List (String × Except ShapeFault Json)
  | [], _ => []
  | (name, shape) :: fields, ms =>
    match ms.lookup name with
    | some v => (name, shape.read aside v) :: readMembers aside fields ms
    | none => readMembers aside fields ms

/-- The members for the items of an array, as far as there are fields for them. -/
def readItems (aside : Bool) :
    List (String × Shape) → List Json → Except ShapeFault (List (String × Json))
  | (name, shape) :: fields, v :: vs => do
    let v ← shape.read aside v
    return (name, v) :: (← readItems aside fields vs)
  | _, _ => .ok []

/-- The members of further groups. -/
def readGroups :
    List (List (String × Shape)) → List (String × Json) → Except ShapeFault (List (String × Json))
  | [], _ => .ok []
  | fields :: groups, ms => do
    let own ← complete fields ms (readMembers true fields ms)
    return own ++ (← readGroups groups ms)

end

end Shape

end WebForms
