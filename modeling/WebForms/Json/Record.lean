import WebForms.Json.Value

/-!
# Records

A record with fixed fields is written as an object, in which unknown members are skipped and a
repeated known member is refused, or as the array of its fields in their declared order, whose
last fields may be missing. A field with a default may be left out but not null; an optional field
may be either. A choice is written as the bare name of the chosen case, or as an object whose one
member has that name and holds the contents.

## Main definitions

* `Json.fields?` — the values given for the fields of a record
* `Json.required`, `Json.withDefault`, `Json.optional` — reading one field
* `Json.case?` — the name and the contents of a choice
-/

namespace WebForms.Json

/-- The truth value, if it is one. -/
def bool? : Json → Option Bool
  | .bool b => some b
  | _ => none

/-- The string, if it is one. -/
def str? : Json → Option String
  | .str s => some s
  | _ => none

/-- The integer, if it is one within the bounds. -/
def intIn? (low high : Int) : Json → Option Int
  | .int n => if low ≤ n ∧ n ≤ high then some n else none
  | _ => none

/-- A signed 64-bit integer. -/
def int64? : Json → Option Int := intIn? Int64.minValue.toInt Int64.maxValue.toInt

/-- A signed 32-bit integer. -/
def int32? : Json → Option Int := intIn? Int32.minValue.toInt Int32.maxValue.toInt

/-- An unsigned 32-bit integer. -/
def nat32? (v : Json) : Option Nat := (intIn? 0 (UInt32.size - 1) v).map Int.toNat

/-- The items of an array, each read by `read`. -/
def list? {α : Type} (read : Json → Option α) : Json → Option (List α)
  | .arr items => items.mapM read
  | _ => none

/-- Null, or a value read by `read`. -/
def nullable? {α : Type} (read : Json → Option α) : Json → Option (Option α)
  | .null => some none
  | v => (read v).map some

/-- For each of the declared `names` the value that is given for it, if there is one; none when the
value is no record with these fields. -/
def fields? (names : List String) : Json → Option (List (Option Json))
  | .obj members =>
    if names.any fun name => 1 < members.countP (·.1 == name) then none
    else some (names.map (List.lookup · members))
  | .arr items =>
    if items.length ≤ names.length then
      some (items.map some ++ List.replicate (names.length - items.length) none)
    else none
  | _ => none

/-- Reads a field that has to be there. -/
def required {α : Type} (read : Json → Option α) (field : Option Json) : Option α :=
  field.bind read

/-- Reads a field that stands for `default` when it is left out. -/
def withDefault {α : Type} (default : α) (read : Json → Option α) : Option Json → Option α
  | none => some default
  | some v => read v

/-- Reads a field that may be left out or null. -/
def optional {α : Type} (read : Json → Option α) : Option Json → Option (Option α) :=
  withDefault none (nullable? read)

/-- The name of a choice, and its contents when it is written with them. -/
def case? : Json → Option (String × Option Json)
  | .str name => some (name, none)
  | .obj [(name, v)] => some (name, some v)
  | _ => none

/-- The value that the name of a choice without contents stands for. -/
def enum? {α : Type} (ofName? : String → Option α) (v : Json) : Option α :=
  match v.case? with
  | some (name, none) => ofName? name
  | some (name, some .null) => ofName? name
  | _ => none

end WebForms.Json
