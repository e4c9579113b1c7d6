import WebForms.Proofs.Document.Offsets
import WebForms.Proofs.Scanner.Slices
import WebForms.Workbench

/-!
# Cuts in documents

A document is cut where one of its lines begins, to find the declaration of its type, and at a
cursor, to read what is in front of it and to keep what is behind. The offset of a line is that
behind a line feed, and the offset of a cursor the size of what stands in front of it. With these
cuts checked, snapshots and cursors are what they were.

## Main definitions

* `Text.offsetOfChecked` — the byte offset of a position, from the line in which it is
* `Snapshot.makeChecked`, `Snapshot.cursorChecked` — the snapshot of a text, the document read up
  to a position

## Main results

* `Snapshot.makeChecked_eq`, `Snapshot.cursorChecked_eq` — no cut fails
-/

namespace WebForms

open Text

namespace Text

variable {cs : List Char} {p : Position}

/-- The offset at which a line begins. -/
def lineOffset? (cs : List Char) : Nat → Option Nat
  | 0 => some 0
  | line + 1 => ((charOffsets 0 cs).filter (·.2 == '\n'))[line]?.map (·.1 + 1)

/-- The byte offset of a position. -/
def offsetOfChecked (cs : List Char) (p : Position) : Checked (Option Nat) := do
  let some start := lineOffset? cs p.line | return none
  return some (columnOffset start p.column (← slice cs start (byteLength cs)))

/-- The offset of a position in a text that begins at `start` is counted from behind the line feed
that has been found, if any has. -/
def CountedFrom (start column : Nat) (cs : List Char) (feed : Option (Nat × Char))
    (offset : Option Nat) : Prop :=
  match feed with
  | none => offset = none
  | some (i, _) => ∃ front back, cs = front ++ ['\n'] ++ back ∧ i = start + byteLength front ∧
      offset = some (columnOffset (i + 1) column back)

theorem CountedFrom.cons {start column : Nat} {c : Char} {feed : Option (Nat × Char)}
    {offset : Option Nat} (h : CountedFrom (start + c.utf8Size) column cs feed offset) :
    CountedFrom start column (c :: cs) feed offset := by
  cases feed with
  | none => exact h
  | some read =>
    obtain ⟨front, back, rfl, within, eq⟩ := h
    exact ⟨c :: front, back, rfl, by rw [within, byteLength_cons, Nat.add_assoc], eq⟩

theorem countedFrom_offsetFrom? (start line column : Nat) (cs : List Char) :
    CountedFrom start column cs ((charOffsets start cs).filter (·.2 == '\n'))[line]?
      (offsetFrom? start (line + 1) column cs) := by
  induction cs generalizing start line with
  | nil => exact rfl
  | cons c cs ih =>
    rw [charOffsets, offsetFrom?]
    by_cases feed : c = '\n'
    · subst feed
      rw [List.filter_cons_of_pos (by simp), if_pos rfl]
      cases line with
      | zero => exact ⟨[], cs, rfl, rfl, by rw [offsetFrom?]; rfl⟩
      | succ line => exact (ih _ line).cons
    · rw [List.filter_cons_of_neg (by simpa using feed), if_neg feed]
      exact (ih _ line).cons

/-- The cut at the line succeeds, since a line feed takes one byte. -/
theorem offsetOfChecked_eq (cs : List Char) (p : Position) :
    offsetOfChecked cs p = .ok (offsetOf? cs p) := by
  obtain ⟨line, column⟩ := p
  cases line with
  | zero =>
    have whole : slice cs 0 (byteLength cs) = .ok cs := slice_append_byteLength [] cs
    simp only [offsetOfChecked, lineOffset?, whole, Checked.ok_bind, offsetOf?, offsetFrom?]
    rfl
  | succ line =>
    have counted := countedFrom_offsetFrom? 0 line column cs
    simp only [offsetOfChecked, lineOffset?, offsetOf?]
    cases found : ((charOffsets 0 cs).filter (·.2 == '\n'))[line]? with
    | none =>
      rw [found] at counted
      have missing : offsetFrom? 0 (line + 1) column cs = none := counted
      rw [missing]
      rfl
    | some read =>
      rw [found] at counted
      obtain ⟨front, back, rfl, within, eq⟩ := counted
      have cut := slice_append_byteLength (front ++ ['\n']) back
      have behind : read.1 + 1 = byteLength (front ++ ['\n']) := by
        rw [within, byteLength_append, Nat.zero_add]
        rfl
      simp only [Option.map_some, eq, behind, cut, Checked.ok_bind]
      rfl

end Text

/-! ### Snapshots -/

/-- The tree of a text. -/
def Node.parseChecked (s : String) : Checked Node := do
  let t := (← Scanner.readAllChecked s).finish
  return ofEvents t.events.toList t.position

/-- The document type that the first declaration at the top of the page states. -/
def PageFacts.docTypeChecked (cs : List Char) (root : Node) : Checked (Option DocType) := do
  let some node := root.children.find? (·.kind = .plain .docType) | return none
  let some start ← offsetOfChecked cs node.span.start | return none
  let some stop ← offsetOfChecked cs node.span.stop | return none
  return DocType.ofSource? (takeBytes (stop - start) (dropBytes start cs))

theorem Node.parseChecked_eq (s : String) : parseChecked s = .ok (parse s) := by
  rw [parseChecked, Scanner.readAllChecked_eq]
  rfl

theorem PageFacts.docTypeChecked_eq (cs : List Char) (root : Node) :
    docTypeChecked cs root = .ok (docTypeOf? cs root) := by
  unfold docTypeChecked docTypeOf?
  cases root.children.find? (·.kind = .plain .docType) with
  | none => rfl
  | some node =>
    simp only [offsetOfChecked_eq, Checked.ok_bind, slice?]
    cases first : offsetOf? cs node.span.start with
    | none => simp [first]
    | some start => cases last : offsetOf? cs node.span.stop <;> simp [first, last]

namespace Snapshot

/-- The snapshot of a text. -/
def makeChecked (uri : Uri) (version : Int) (text : String) : Checked Snapshot := do
  let root ← Node.parseChecked text
  let docType ← PageFacts.docTypeChecked text.toList root
  return { uri, version, text, root
           facts := { PageFacts.ofTree uri.path.text text root with docType }
           registrations := .ofTree root }

/-- Reads a document up to a position. -/
def cursorChecked (s : Snapshot) (p : Position) : Checked (Except DocumentFault Cursor) :=
  match s.offsetOf p with
  | .error fault => return .error fault
  | .ok offset => do
    let scanner ← Scanner.readToChecked s.text offset
    let after ← slice s.text.toList offset (byteLength s.text.toList)
    return .ok { scanner, after := String.ofList after }

theorem makeChecked_eq (uri : Uri) (version : Int) (text : String) :
    makeChecked uri version text = .ok (make uri version text) := by
  rw [makeChecked, Node.parseChecked_eq, Checked.ok_bind, PageFacts.docTypeChecked_eq]
  rfl

/-- A cursor has an offset in front of a character, so nothing is left out on either side. -/
theorem cursorChecked_eq (s : Snapshot) (p : Position) :
    s.cursorChecked p = .ok (s.cursorAt p) := by
  unfold cursorChecked offsetOf cursorAt
  cases indexOf s.text.toList p with
  | error fault => rfl
  | ok i =>
    simp only [bind, Except.bind, pure, Except.pure, Scanner.readToChecked_eq, Scanner.readTo,
      takeBytes_byteLength_take, slice_byteLength_take]

end Snapshot

end WebForms
