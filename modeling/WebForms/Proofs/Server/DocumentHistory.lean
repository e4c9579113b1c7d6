import Mathlib.Data.List.Induction
import WebForms.Proofs.Document.Edits
import WebForms.Server.Documents

/-!
# The history of a document

The server keeps the snapshots of all documents in one list. Seen from one document, only three
things matter: the address with which it was opened, its version and its text. How messages change
these is described here for one document alone, and the snapshot that the server keeps is always the
one of this version and text, whatever happens to other documents in between.

## Main definitions

* `DocumentState` — what there is to know about an open document
* `Follows`, `FollowsAll` — what messages do to one document

## Main results

* `Documents.find?_receiveAll` — the snapshot that the server keeps
-/

namespace WebForms

/-- What there is to know about an open document. -/
structure DocumentState where
  uri : Uri
  version : Int
  text : List Char

/-- The snapshot of the document. -/
def DocumentState.snapshot (d : DocumentState) : Snapshot :=
  .make d.uri d.version (String.ofList d.text)

namespace DocumentMessage

/-- The document that the message is about, unless it is about all of them. -/
def uri? : DocumentMessage → Option Uri
  | .opened uri _ _ => some uri
  | .changed uri _ _ => some uri
  | .closed uri => some uri
  | .ended => none

/-- The message opens the document with the given address. -/
def Opens (key : String) : DocumentMessage → Prop
  | .opened uri _ _ => uri.text = key
  | _ => False

end DocumentMessage

/-- The effect of a message on the document with the address `key`. -/
inductive Follows (key : String) :
    Option DocumentState → DocumentMessage → Option DocumentState → Prop
  /-- The document is opened, or opened again. -/
  | opened {before : Option DocumentState} {uri : Uri} (version : Int) (text : String)
      (same : uri.text = key) :
      Follows key before (.opened uri version text) (some ⟨uri, version, text.toList⟩)
  /-- An edit of a document that is not open. -/
  | unknown {uri : Uri} (version : Int) (changes : List TextChange) (same : uri.text = key) :
      Follows key none (.changed uri version changes) none
  /-- An edit for a version that is not later than the present one. -/
  | stale {d : DocumentState} {uri : Uri} {version : Int} (changes : List TextChange)
      (same : uri.text = key) (le : version ≤ d.version) :
      Follows key (some d) (.changed uri version changes) (some d)
  /-- An edit that fits the text. -/
  | edited {d : DocumentState} {uri : Uri} {version : Int} {changes : List TextChange}
      {text : List Char} (same : uri.text = key) (lt : d.version < version)
      (spliced : SplicedAll d.text changes text) :
      Follows key (some d) (.changed uri version changes) (some ⟨d.uri, version, text⟩)
  /-- An edit that does not fit the text. -/
  | spoiled {d : DocumentState} {uri : Uri} {version : Int} {changes : List TextChange}
      (same : uri.text = key) (lt : d.version < version)
      (spoiled : ∀ text, ¬ SplicedAll d.text changes text) :
      Follows key (some d) (.changed uri version changes) none
  | closed {before : Option DocumentState} {uri : Uri} (same : uri.text = key) :
      Follows key before (.closed uri) none
  | ended {before : Option DocumentState} : Follows key before .ended none
  /-- A message about another document. -/
  | other {before : Option DocumentState} {message : DocumentMessage} {uri : Uri}
      (about : message.uri? = some uri) (different : uri.text ≠ key) :
      Follows key before message before

/-- The effect of messages that arrive in turn, on a document that is not open at first. -/
inductive FollowsAll (key : String) : List DocumentMessage → Option DocumentState → Prop
  | nil : FollowsAll key [] none
  | concat {messages : List DocumentMessage} {message : DocumentMessage}
      {before after : Option DocumentState} (earlier : FollowsAll key messages before)
      (last : Follows key before message after) : FollowsAll key (messages ++ [message]) after

variable {key : String} {before after after' : Option DocumentState} {message : DocumentMessage}
  {messages later : List DocumentMessage} {d e : DocumentState}

/-- Every message has some effect. -/
theorem exists_follows (key : String) (before : Option DocumentState) (message : DocumentMessage) :
    ∃ after, Follows key before message after := by
  have elsewhere {uri : Uri} (about : message.uri? = some uri) (different : uri.text ≠ key) :
      ∃ after, Follows key before message after :=
    ⟨before, .other about different⟩
  cases message with
  | opened uri version text =>
    by_cases same : uri.text = key
    · exact ⟨_, .opened version text same⟩
    · exact elsewhere rfl same
  | changed uri version changes =>
    by_cases same : uri.text = key
    · cases before with
      | none => exact ⟨_, .unknown version changes same⟩
      | some d =>
        -- Whether an edit has an effect depends on its version, and then on its splices.
        by_cases le : version ≤ d.version
        · exact ⟨_, .stale changes same le⟩
        · have lt := Int.not_le.mp le
          by_cases fits : ∃ text, SplicedAll d.text changes text
          · obtain ⟨text, spliced⟩ := fits
            exact ⟨_, .edited same lt spliced⟩
          · exact ⟨_, .spoiled same lt (not_exists.mp fits)⟩
    · exact elsewhere rfl same
  | closed uri =>
    by_cases same : uri.text = key
    · exact ⟨_, .closed same⟩
    · exact elsewhere rfl same
  | ended => exact ⟨_, .ended⟩

/-- Every sequence of messages has some effect. -/
theorem exists_followsAll (key : String) (messages : List DocumentMessage) :
    ∃ after, FollowsAll key messages after := by
  induction messages using List.reverseRecOn with
  | nil => exact ⟨none, .nil⟩
  | append_singleton messages message ih =>
    obtain ⟨before, earlier⟩ := ih
    obtain ⟨after, last⟩ := exists_follows key before message
    exact ⟨after, earlier.concat last⟩

theorem exists_of_followsAll_concat (h : FollowsAll key (messages ++ [message]) after) :
    ∃ before, FollowsAll key messages before ∧ Follows key before message after := by
  -- The sequence has to be a variable for the cases to be told apart.
  generalize eq : messages ++ [message] = all at h
  cases h with
  | nil => exact absurd eq (List.append_ne_nil_of_right_ne_nil _ (List.cons_ne_nil _ _))
  | concat earlier last =>
    obtain ⟨rfl, rfl⟩ := List.append_singleton_inj.mp eq
    exact ⟨_, earlier, last⟩

/-- Unless it is opened, a document stays what it is or becomes a later version of itself. -/
theorem Follows.eq_or_lt (h : Follows key (some d) message (some e))
    (opens : ¬ message.Opens key) : e = d ∨ d.version < e.version := by
  cases h with
  | opened version text same => exact absurd same opens
  | stale | other => exact .inl rfl
  | edited same lt spliced => exact .inr lt

/-- A document that is not open does not become so without being opened. -/
theorem Follows.not_none (h : Follows key none message (some e)) : message.Opens key := by
  cases h with
  | opened version text same => exact same

/-- A document keeps the address with which it was opened. -/
theorem Follows.uri_text (h : Follows key before message (some e))
    (ih : ∀ d ∈ before, d.uri.text = key) : e.uri.text = key := by
  cases h with
  | opened version text same => exact same
  | @edited d => exact ih d rfl
  | stale | other => exact ih e rfl

theorem FollowsAll.uri_text (h : FollowsAll key messages after) :
    ∀ d ∈ after, d.uri.text = key := by
  induction h with
  | nil => exact nofun
  | concat earlier last ih =>
    rintro d rfl
    exact last.uri_text ih

namespace DocumentState

@[simp] theorem toList_text_snapshot (d : DocumentState) : d.snapshot.text.toList = d.text :=
  String.toList_ofList

theorem snapshot_injective (h : d.snapshot = e.snapshot) : d = e := by
  obtain ⟨uri, version, text⟩ := d
  obtain ⟨uri', version', text'⟩ := e
  simp only [snapshot, Snapshot.make, Snapshot.mk.injEq, String.ofList_inj] at h
  obtain ⟨rfl, rfl, rfl, -⟩ := h
  rfl

end DocumentState

namespace Documents

variable {docs : Documents} {uri : Uri}

/-- Only the text of an address matters. -/
theorem find?_congr (docs : Documents) {other : Uri} (same : other.text = uri.text) :
    docs.find? other = docs.find? uri := by
  rw [find?, find?, same]

/-- After an edit, a document is the next version, what it was, or no longer open. -/
theorem find?_change_self {s : Snapshot} (h : docs.find? uri = some s) (version : Int)
    (changes : List TextChange) :
    (docs.change uri version changes).find? uri =
      match s.apply changes version with
      | .ok next => some next
      | .error (.staleVersion ..) => some s
      | .error (.outOfBounds _) => none := by
  simp only [change, h]
  cases s.apply changes version with
  | ok next => exact find?_put_self docs uri next
  | error fault =>
    cases fault with
    | staleVersion current received => exact h
    | outOfBounds place => exact find?_close_self docs uri

/-- An edit of one document has no effect on another. -/
theorem find?_change_of_ne (docs : Documents) {other : Uri} (different : uri.text ≠ other.text)
    (version : Int) (changes : List TextChange) :
    (docs.change other version changes).find? uri = docs.find? uri := by
  unfold change
  split
  · rfl
  · split
    · exact docs.find?_put_of_ne different _
    · rfl
    · exact docs.find?_close_of_ne different

/-- A message about one document has no effect on another. -/
theorem find?_receive_of_ne (docs : Documents) {other : Uri} (about : message.uri? = some other)
    (different : uri.text ≠ other.text) : (docs.receive message).find? uri = docs.find? uri := by
  cases message with
  | opened _ version text =>
    obtain rfl := Option.some.inj about
    exact docs.find?_put_of_ne different _
  | changed _ version changes =>
    obtain rfl := Option.some.inj about
    exact docs.find?_change_of_ne different version changes
  | closed _ =>
    obtain rfl := Option.some.inj about
    exact docs.find?_close_of_ne different
  | ended => exact nomatch about

/-- The server keeps the snapshot of what a message makes of the document. -/
theorem find?_receive (h : docs.find? uri = before.map DocumentState.snapshot)
    (follows : Follows uri.text before message after) :
    (docs.receive message).find? uri = after.map DocumentState.snapshot := by
  cases follows with
  | @opened _ other version text same =>
    rw [receive, add, ← find?_congr _ same, find?_put_self]
    simp [DocumentState.snapshot]
  | @unknown other version changes same =>
    have absent : docs.find? other = none := (docs.find?_congr same).trans h
    rw [receive, change, absent]
    exact h
  | @stale d other version changes same le =>
    have present : docs.find? other = some d.snapshot := (docs.find?_congr same).trans h
    rw [receive, ← find?_congr _ same, find?_change_self present,
      Snapshot.apply_of_le (s := d.snapshot) changes le]
    rfl
  | @edited d other version changes text same lt spliced =>
    have present : docs.find? other = some d.snapshot := (docs.find?_congr same).trans h
    have spliced' : SplicedAll d.snapshot.text.toList changes text := by
      rwa [DocumentState.toList_text_snapshot]
    rw [receive, ← find?_congr _ same, find?_change_self present,
      Snapshot.apply_of_spliced (s := d.snapshot) lt spliced']
    rfl
  | @spoiled d other version changes same lt spoiled =>
    have present : docs.find? other = some d.snapshot := (docs.find?_congr same).trans h
    have spoiled' (text : List Char) : ¬ SplicedAll d.snapshot.text.toList changes text := by
      rw [DocumentState.toList_text_snapshot]
      exact spoiled text
    obtain ⟨q, refused⟩ := Snapshot.apply_of_not_spliced (s := d.snapshot) lt spoiled'
    rw [receive, ← find?_congr _ same, find?_change_self present, refused]
    rfl
  | @closed _ other same =>
    rw [receive, ← find?_congr _ same, find?_close_self]
    rfl
  | ended => rfl
  | other about different => rw [find?_receive_of_ne docs about different.symm, h]

/-- The server keeps the snapshot of what messages make of the document. -/
theorem find?_receiveAll_of_followsAll (h : FollowsAll uri.text messages after) :
    (receiveAll {} messages).find? uri = after.map DocumentState.snapshot := by
  induction h with
  | nil => rfl
  | @concat messages message before after earlier last ih =>
    rw [receiveAll, List.foldl_append]
    exact find?_receive ih last

end Documents

/-- Messages lead to one state only. -/
theorem FollowsAll.unique {uri : Uri} (h : FollowsAll uri.text messages after)
    (h' : FollowsAll uri.text messages after') : after = after' := by
  -- The server keeps one snapshot, and this determines the state.
  have same := (Documents.find?_receiveAll_of_followsAll h).symm.trans
    (Documents.find?_receiveAll_of_followsAll h')
  cases after with
  | none =>
    cases after' with
    | none => rfl
    | some e => exact nomatch same
  | some d =>
    cases after' with
    | none => exact nomatch same
    | some e => exact congrArg some (DocumentState.snapshot_injective (Option.some.inj same))

/-- Between two messages that open a document, its version grows with every change. -/
theorem FollowsAll.eq_or_lt {uri : Uri} (h : FollowsAll uri.text messages (some d))
    (h' : FollowsAll uri.text (messages ++ later) (some e))
    (opens : ∀ m ∈ later, ¬ m.Opens uri.text) : e = d ∨ d.version < e.version := by
  induction later using List.reverseRecOn generalizing e with
  | nil =>
    rw [List.append_nil] at h'
    exact .inl (Option.some.inj (h'.unique h))
  | append_singleton later message ih =>
    rw [← List.append_assoc] at h'
    rw [List.forall_mem_append] at opens
    obtain ⟨between, earlier, last⟩ := exists_of_followsAll_concat h'
    have opens' := opens.2 message List.mem_cons_self
    cases between with
    | none => exact absurd last.not_none opens'
    | some f =>
      -- The document was open in between, in a version that is the first one or later.
      obtain rfl | lt := ih earlier opens.1
      · exact last.eq_or_lt opens'
      · obtain rfl | lt' := last.eq_or_lt opens'
        · exact .inr lt
        · exact .inr (Int.lt_trans lt lt')

/-- Edits that are made in one go lead to the same text as in two. -/
theorem FollowsAll.append_changes {uri : Uri} (h : FollowsAll uri.text messages (some d))
    {version version₁ version₂ : Int} (lt : d.version < version) (lt₁ : d.version < version₁)
    (lt₂ : version₁ < version₂) {as bs : List TextChange} {between text : List Char}
    (first : SplicedAll d.text as between) (second : SplicedAll between bs text) :
    FollowsAll uri.text (messages ++ [.changed uri version (as ++ bs)])
        (some ⟨d.uri, version, text⟩) ∧
      FollowsAll uri.text
        (messages ++ [.changed uri version₁ as] ++ [.changed uri version₂ bs])
        (some ⟨d.uri, version₂, text⟩) := by
  refine ⟨h.concat (.edited rfl lt (first.append second)), ?_⟩
  have half := h.concat (.edited rfl lt₁ first)
  exact half.concat (.edited rfl lt₂ second)

/-- After all messages, the server keeps the snapshot of the one state that the messages about this
document lead to. Between two messages that open it the version grows with every change, and edits
that fit lead to the same text in one message as in two. -/
theorem Documents.find?_receiveAll (messages : List DocumentMessage) (uri : Uri) :
    (∃ after, FollowsAll uri.text messages after ∧
        (∀ after', FollowsAll uri.text messages after' → after' = after) ∧
        (∀ d ∈ after, d.uri.text = uri.text) ∧
        (receiveAll {} messages).find? uri = after.map DocumentState.snapshot) ∧
      (∀ later a b, (∀ m ∈ later, ¬ m.Opens uri.text) →
        (receiveAll {} messages).find? uri = some a →
        (receiveAll {} (messages ++ later)).find? uri = some b → b = a ∨ a.version < b.version) ∧
      (∀ d version version₁ version₂ as bs between text,
        FollowsAll uri.text messages (some d) → d.version < version → d.version < version₁ →
        version₁ < version₂ → SplicedAll d.text as between → SplicedAll between bs text →
        ((receiveAll {} (messages ++ [.changed uri version (as ++ bs)])).find? uri).map
            (·.text.toList) = some text ∧
          ((receiveAll {} (messages ++
              [.changed uri version₁ as, .changed uri version₂ bs])).find? uri).map
            (·.text.toList) = some text) := by
  refine ⟨?_, ?_, ?_⟩
  · obtain ⟨after, h⟩ := exists_followsAll uri.text messages
    exact ⟨after, h, fun _ h' => h'.unique h, h.uri_text, find?_receiveAll_of_followsAll h⟩
  · intro later a b opens ha hb
    obtain ⟨after, h⟩ := exists_followsAll uri.text messages
    obtain ⟨after', h'⟩ := exists_followsAll uri.text (messages ++ later)
    rw [find?_receiveAll_of_followsAll h] at ha
    rw [find?_receiveAll_of_followsAll h'] at hb
    obtain ⟨d, rfl, rfl⟩ := Option.map_eq_some_iff.mp ha
    obtain ⟨e, rfl, rfl⟩ := Option.map_eq_some_iff.mp hb
    exact (h.eq_or_lt h' opens).imp_left (congrArg DocumentState.snapshot)
  · intro d version version₁ version₂ as bs between text h lt lt₁ lt₂ first second
    obtain ⟨once, twice⟩ := h.append_changes lt lt₁ lt₂ first second
    rw [List.append_assoc] at twice
    rw [find?_receiveAll_of_followsAll once]
    have found := find?_receiveAll_of_followsAll twice
    simp only [List.singleton_append] at found
    rw [found]
    simp

end WebForms
