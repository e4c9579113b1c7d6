import WebForms.Document

/-!
# Open documents

The server keeps the latest snapshot of every document that is open. An edit for an older version
is ignored; an edit that does not fit the text closes the document, since the server no longer
knows what the editor shows.

## Main definitions

* `Documents` — the snapshots of the open documents, each under its address
* `Documents.add`, `Documents.change`, `Documents.close`
* `DocumentMessage`, `Documents.receive` — what an editor says about documents, and its effect
-/

namespace WebForms

/-- The open documents, each under the text of its address. -/
structure Documents where
  entries : List (String × Snapshot) := []

namespace Documents

/-- The latest snapshot of a document. -/
def find? (d : Documents) (uri : Uri) : Option Snapshot := d.entries.lookup uri.text

/-- The number of open documents. -/
def size (d : Documents) : Nat := d.entries.length

/-- Closes a document. -/
def close (d : Documents) (uri : Uri) : Documents :=
  ⟨d.entries.filter fun e => e.1 != uri.text⟩

/-- Makes a snapshot the latest of its document. -/
def put (d : Documents) (uri : Uri) (s : Snapshot) : Documents :=
  ⟨(uri.text, s) :: (d.close uri).entries⟩

@[simp] theorem find?_close_self (d : Documents) (uri : Uri) : (d.close uri).find? uri = none := by
  simpa [find?, close, List.lookup_eq_none_iff] using fun _ _ _ h => Ne.symm h

theorem find?_close_of_ne (d : Documents) {uri other : Uri} (h : other.text ≠ uri.text) :
    (d.close uri).find? other = d.find? other := by
  obtain ⟨entries⟩ := d
  simp only [find?, close]
  induction entries with
  | nil => rfl
  | cons e es ih =>
    obtain ⟨key, s⟩ := e
    by_cases hkey : key = uri.text
    · have hne : (other.text == uri.text) = false := by simpa using h
      simp [List.lookup_cons, hkey, hne, ih]
    · simp [List.lookup_cons, hkey, ih]

@[simp] theorem find?_put_self (d : Documents) (uri : Uri) (s : Snapshot) :
    (d.put uri s).find? uri = some s := by
  simp [find?, put]

theorem find?_put_of_ne (d : Documents) {uri other : Uri} (h : other.text ≠ uri.text)
    (s : Snapshot) : (d.put uri s).find? other = d.find? other := by
  have hne : (other.text == uri.text) = false := by simpa using h
  simpa [find?, put, List.lookup_cons, hne] using find?_close_of_ne d h

/-- Opens a document. -/
def add (d : Documents) (uri : Uri) (version : Int) (text : String) : Documents :=
  d.put uri (.make uri version text)

/-- Applies an edit to a document. -/
def change (d : Documents) (uri : Uri) (version : Int) (changes : List TextChange) : Documents :=
  match d.find? uri with
  | none => d
  | some s =>
    match s.apply changes version with
    | .ok next => d.put uri next
    | .error (.staleVersion ..) => d
    | .error (.outOfBounds _) => d.close uri

end Documents

/-- What an editor says about its documents. -/
inductive DocumentMessage where
  | opened (uri : Uri) (version : Int) (text : String)
  | changed (uri : Uri) (version : Int) (changes : List TextChange)
  | closed (uri : Uri)
  /-- The service ends. -/
  | ended

namespace Documents

/-- The documents after a message. -/
def receive (d : Documents) : DocumentMessage → Documents
  | .opened uri version text => d.add uri version text
  | .changed uri version changes => d.change uri version changes
  | .closed uri => d.close uri
  | .ended => {}

/-- The documents after messages that arrive in turn. -/
def receiveAll (d : Documents) (messages : List DocumentMessage) : Documents :=
  messages.foldl receive d

end Documents

end WebForms
