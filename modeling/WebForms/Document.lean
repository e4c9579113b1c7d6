import WebForms.Page.Facts
import WebForms.Page.Registrations
import WebForms.Text.Lines
import WebForms.Uri

/-!
# Open documents

A snapshot is one version of an open document with everything that is read off its text. An edit
makes a new snapshot. Changes are applied one after the other, each addressing the text that the
one before has left, and a change outside the text spoils the whole edit.

## Main definitions

* `Snapshot`, `Snapshot.make` — a version of a document
* `applyChanges` — the text after a list of changes
* `Snapshot.apply` — the next version of a document
-/

namespace WebForms

/-- Why an edit or a question about a place is refused. -/
inductive DocumentFault where
  /-- The version is not later than the present one. -/
  | staleVersion (current received : Int)
  /-- The position is outside the document, or in front of the start of its range. -/
  | outOfBounds (position : Position)
  deriving DecidableEq, Repr

/-- What is said of a refused edit. -/
def DocumentFault.message : DocumentFault → String
  | staleVersion current received =>
    "stale version " ++ toString received ++ " (current " ++ toString current ++ ")"
  | outOfBounds p =>
    "edit range " ++ toString p.line ++ ":" ++ toString p.column ++ " is outside the document"

/-- A change: new text for a range, or for all of the document. -/
structure TextChange where
  range : Option Span := none
  text : String
  deriving DecidableEq, Repr

/-- The character index of a position. -/
def indexOf (cs : List Char) (p : Position) : Except DocumentFault Nat :=
  match Text.index? cs p with
  | some i => .ok i
  | none => .error (.outOfBounds p)

/-- The text after a change. -/
def applyChange (cs : List Char) (change : TextChange) : Except DocumentFault (List Char) :=
  match change.range with
  | none => .ok change.text.toList
  | some range => do
    let start ← indexOf cs range.start
    let stop ← indexOf cs range.stop
    if stop < start then throw (.outOfBounds range.stop)
    return cs.take start ++ change.text.toList ++ cs.drop stop

/-- The text after changes that are applied in turn. -/
def applyChanges (cs : List Char) (changes : List TextChange) : Except DocumentFault (List Char) :=
  changes.foldlM applyChange cs

theorem applyChanges_append (cs : List Char) (as bs : List TextChange) :
    applyChanges cs (as ++ bs) = (applyChanges cs as).bind (applyChanges · bs) :=
  List.foldlM_append

/-- A version of a document, with what is read off its text. -/
structure Snapshot where
  uri : Uri
  version : Int
  text : String
  root : Node
  facts : PageFacts
  registrations : Registrations

namespace Snapshot

/-- The snapshot of a text. -/
def make (uri : Uri) (version : Int) (text : String) : Snapshot :=
  let root := Node.parse text
  { uri, version, text, root
    facts := .ofTree uri.path.text text root
    registrations := .ofTree root }

/-- The byte offset of a position. -/
def offsetOf (s : Snapshot) (p : Position) : Except DocumentFault Nat := do
  let i ← indexOf s.text.toList p
  return Text.byteLength (s.text.toList.take i)

/-- The snapshot after an edit that leads to the given version. -/
def apply (s : Snapshot) (changes : List TextChange) (version : Int) :
    Except DocumentFault Snapshot := do
  if version ≤ s.version then throw (.staleVersion s.version version)
  let cs ← applyChanges s.text.toList changes
  return make s.uri version (String.ofList cs)

end Snapshot

end WebForms
