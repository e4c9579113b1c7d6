import WebForms.Text.Case

/-!
# Attribute sets

The attributes of a tag or directive, in the order of their first writing. Names are looked up
with letter case ignored; a repeated attribute keeps its place and spelling and takes the later
value.

## Main definitions

* `AttributeSet.insert`, `AttributeSet.get?`, `AttributeSet.contains`, `AttributeSet.names`
* `AttributeSet.ofList` — the set built by inserting one attribute after another
-/

namespace WebForms

/-- Attributes in the order of their first writing. -/
structure AttributeSet where
  entries : List (String × String) := []
  deriving DecidableEq, Repr, Inhabited

namespace AttributeSet

/-- Sets the value of the first entry with that name, or adds an entry at the end. -/
def insertEntry (name value : String) : List (String × String) → List (String × String)
  | [] => [(name, value)]
  | (n, v) :: es =>
    if Text.sameName n name then (n, value) :: es else (n, v) :: insertEntry name value es

/-- Gives the attribute `name` the value `value`. -/
def insert (s : AttributeSet) (name value : String) : AttributeSet :=
  ⟨insertEntry name value s.entries⟩

/-- The value of the attribute `name`. -/
def get? (s : AttributeSet) (name : String) : Option String :=
  (s.entries.find? fun e => Text.sameName e.1 name).map (·.2)

/-- The attribute `name` is present. -/
def contains (s : AttributeSet) (name : String) : Bool := (s.get? name).isSome

/-- The names as they were first written. -/
def names (s : AttributeSet) : List String := s.entries.map (·.1)

/-- A further attribute leaves the names in front of it what they are. -/
theorem names_prefix_names_insert (s : AttributeSet) (name value : String) :
    s.names <+: (s.insert name value).names := by
  obtain ⟨es⟩ := s
  simp only [names, insert]
  induction es with
  | nil => exact List.nil_prefix
  | cons e es ih =>
    obtain ⟨n, v⟩ := e
    unfold insertEntry
    split
    · exact List.prefix_refl _
    · exact List.prefix_cons_inj n |>.mpr ih

/-- The number of attributes. -/
def size (s : AttributeSet) : Nat := s.entries.length

/-- The set that holds the given attributes, inserted in turn. -/
def ofList (attributes : List (String × String)) : AttributeSet :=
  attributes.foldl (fun s (name, value) => s.insert name value) {}

end AttributeSet

end WebForms
