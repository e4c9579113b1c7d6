import WebForms.Json.Decimal
import WebForms.Json.Value

/-!
# Values in canonical form

What a message means does not depend on the order of the members of an object. In the canonical
form of a value the members stand in the order of their names, each name once, and every number
that is no integer is written in its shortest form.

## Main definitions

* `Json.lastMembers` — members by name, of each name the last
* `Json.canonical` — the canonical form of a value
-/

namespace WebForms.Json

/-- Of members of the same name that stand side by side, the last. -/
def dropRepeated : List (String × Json) → List (String × Json)
  | (name, v) :: next :: members =>
    if name = next.1 then dropRepeated (next :: members)
    else (name, v) :: dropRepeated (next :: members)
  | members => members

/-- The members in the order of their names. Of members of the same name the last counts. -/
def lastMembers (members : List (String × Json)) : List (String × Json) :=
  dropRepeated (members.mergeSort fun a b => a.1 ≤ b.1)

mutual

/-- The canonical form of a value. -/
def canonical : Json → Json
  | .number text => .number (numberText text)
  | .arr items => .arr (canonicalItems items)
  | .obj members => .obj (lastMembers (canonicalMembers members))
  | v => v

/-- The canonical forms of the items of an array. -/
def canonicalItems : List Json → List Json
  | [] => []
  | v :: vs => v.canonical :: canonicalItems vs

/-- The members of an object with the canonical forms of their values. -/
def canonicalMembers : List (String × Json) → List (String × Json)
  | [] => []
  | (name, v) :: members => (name, v.canonical) :: canonicalMembers members

end

end WebForms.Json
