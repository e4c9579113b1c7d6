import WebForms.Markup.Scanner.Step

/-!
# Completion targets

What is completed at the cursor follows from the state of reading the text up to it: the state
itself, the innermost pending construct, the place, and the character before the cursor.

## Main definitions

* `CompletionTarget` — what is completed
* `CompletionTarget.ofState` — the target in a state
* `Scanner.target` — the target at the place a scanner has reached
-/

namespace WebForms

/-- What is completed at the cursor. -/
inductive CompletionTarget where
  | directiveName
  /-- The opening of a server block where nothing else may begin. -/
  | blockOpening
  | elementName
  | attributeName (host : AttributeHost)
  | attributeValue (host : AttributeHost)
  | closingTag
  | block (kind : BlockKind)
  | none
  deriving DecidableEq, Repr

/-- A state of reading that no text leads to. -/
inductive InconsistentState where
  /-- A directive is being read, or its name, and the innermost construct is none. -/
  | noDirective (readingName : Bool)
  deriving DecidableEq, Repr

/-- What is said of an inconsistent state. -/
def InconsistentState.message : InconsistentState → String
  | noDirective readingName =>
    "inconsistent parser state: " ++ (if readingName then "DirectiveName" else "Directive") ++
      " without a directive on the node stack"

namespace CompletionTarget

/-- The number of columns from the start of a directive to the place for its name. -/
def nameColumn : Nat := 3

/-- The target inside a directive that starts at `start`: its name is completed at the first place
where it may stand, and after its first letter. -/
def ofDirective (readingName : Bool) (start cursor : Position) (last : Option Char) :
    CompletionTarget :=
  let atName :=
    if readingName then
      cursor.column = start.column + nameColumn + 1 ∧ last.any Text.isLetter
    else cursor.column = start.column + nameColumn
  if start.line = cursor.line ∧ atName then directiveName else none

/-- The target in a state other than those of a directive, when the character before the cursor
decides nothing. -/
def ofPlainState : ScannerState → CompletionTarget
  | .tagName => elementName
  | .tag => attributeName .element
  | .attributeName host => attributeName host
  | .attributeValue _ .pending => none
  | .attributeValue host _ => attributeValue host
  | .closingTag => closingTag
  | .block kind => block kind
  | .blockOpen => block .code
  | _ => none

/-- The target at the cursor. -/
def ofState (state : ScannerState) (node : Option Pending) (cursor : Position)
    (last : Option Char) : Except InconsistentState CompletionTarget :=
  let atDirective (readingName : Bool) : Except InconsistentState CompletionTarget :=
    match node with
    | some (.directive _ _ start) => .ok (ofDirective readingName start cursor last)
    | _ => .error (.noDirective readingName)
  match state with
  | .directive => atDirective false
  | .directiveName => atDirective true
  | .free => .ok (if last = some '<' then elementName else none)
  | state =>
    if last = some '<' ∧ !state.inBlock then .ok blockOpening else .ok (ofPlainState state)

end CompletionTarget

/-- The target at the place that the scanner has reached; none in an inconsistent state. -/
def Scanner.target (t : Scanner) : CompletionTarget :=
  match CompletionTarget.ofState t.state t.innermost? t.position t.lastChar with
  | .ok target => target
  | .error _ => .none

end WebForms
