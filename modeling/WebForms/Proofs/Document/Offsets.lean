import WebForms.Proofs.Scanner.EventOrder
import WebForms.Proofs.Scanner.Sources
import WebForms.Proofs.Text.LineBreaks

/-!
# Offsets of the positions in a tree

The positions in the tree of a page have been counted while its markup was read, and an editor that
is told of them answers with positions in the document. Both can be turned into byte offsets. The
offsets agree for all positions in the tree when nothing but line feeds breaks lines, and otherwise
they do not agree for the end of the tree.

## Main definitions

* `Snapshot.Agrees` — a position with the same offset in the document as in its markup

## Main results

* `Node.allPositions_isPlace` — every position in a tree is a place in the text
* `Snapshot.agrees_iff_feedsOnly` — when all positions in the tree agree
-/

namespace WebForms

open Text

/-- All positions that are recorded of markup in a text are places in it. -/
theorem MarkupEvent.Stands.isPlace {text : List Char} {e : MarkupEvent} (h : e.Stands text) :
    ∀ p ∈ e.positions, IsPlace text p := by
  obtain ⟨before, body, behind, divides, -⟩ := h.divides
  exact List.forall_mem_cons.mpr
    ⟨divides.isPlace_start, List.forall_mem_cons.mpr ⟨divides.isPlace_stop, h.inner⟩⟩

/-- All positions in the tree of a text are places in it. -/
theorem Node.allPositions_isPlace (s : String) : (parse s).AllPositions (IsPlace s.toList) := by
  rw [parse_eq]
  refine allPositions_ofEvents ?_ (isPlace_origin _) ?_
  · exact fun e he => (Scanner.stands_of_mem_events (Array.mem_toList_iff.mp he)).isPlace
  · rw [Scanner.readAll, Scanner.position_advanceAll]
    exact isPlace_end _

/-- The tree of a text ends where the text does. -/
theorem Node.stop_parse (s : String) : (parse s).span.stop = place s.toList := by
  rw [parse_eq, FrameStack.span_ofEvents, Scanner.readAll, Scanner.position_advanceAll]

namespace Snapshot

variable {s : Snapshot} {p : Position}

/-- The position has an offset in the document, and the same one as in its markup. -/
def Agrees (s : Snapshot) (p : Position) : Prop :=
  ∃ offset, s.offsetOf p = .ok offset ∧ offsetOf? s.text.toList p = some offset

theorem offsetOf_eq_ok_iff {offset : Nat} :
    s.offsetOf p = .ok offset ↔
      ∃ i, index? s.text.toList p = some i ∧ byteLength (s.text.toList.take i) = offset := by
  unfold offsetOf indexOf
  cases index? s.text.toList p with
  | none => simp [bind, Except.bind]
  | some i => simp [bind, Except.bind, pure, Except.pure]

/-- A place agrees if and only if the document finds it where it is. -/
theorem agrees_place_iff {before behind : List Char} (split : s.text.toList = before ++ behind) :
    s.Agrees (place before) ↔ index? s.text.toList (place before) = some before.length := by
  have markup : offsetOf? s.text.toList (place before) = some (byteLength before) := by
    rw [split, offsetOf?_place]
  constructor
  · rintro ⟨offset, document, same⟩
    obtain ⟨i, found, size⟩ := offsetOf_eq_ok_iff.mp document
    rw [markup, ← size] at same
    -- Both are beginnings of the text, and they have the same size.
    have whole : s.text.toList.take i = before :=
      eq_of_byteLength_eq (List.take_prefix i _) ⟨behind, split.symm⟩ (Option.some.inj same).symm
    rw [found, ← whole, List.length_take_of_le (index?_le found)]
  · intro found
    refine ⟨byteLength before, offsetOf_eq_ok_iff.mpr ⟨before.length, found, ?_⟩, markup⟩
    rw [split, List.take_left]

section

variable {uri : Uri} {version : Int} {text : String}

/-- Where the end of a document has the same offset as in its markup, only line feeds break its
lines. -/
theorem feedsOnly_of_agrees
    (h : (make uri version text).Agrees (make uri version text).root.span.stop) :
    FeedsOnly text.toList := by
  rw [make, Node.stop_parse] at h
  exact index?_place_self_iff.mp ((agrees_place_iff (List.append_nil _).symm).mp h)

/-- Where only line feeds break the lines of a document, all its places have the same offset as in
its markup. -/
theorem agrees_of_isPlace (h : FeedsOnly text.toList) (hp : IsPlace text.toList p) :
    (make uri version text).Agrees p := by
  obtain ⟨before, ⟨behind, split⟩, rfl⟩ := hp
  refine (agrees_place_iff split.symm).mpr ?_
  rw [← split] at h
  have found := index?_place h
  rwa [split] at found

end

/-- The offsets of all positions in the tree of a document are the same as in its markup if and only
if only line feeds break its lines. -/
theorem agrees_iff_feedsOnly (uri : Uri) (version : Int) (text : String) :
    (∀ n ∈ (make uri version text).root.preorder, ∀ p ∈ n.positions,
        (make uri version text).Agrees p) ↔ FeedsOnly text.toList := by
  constructor
  · intro agrees
    refine feedsOnly_of_agrees (agrees _ (Node.mem_preorder_self _) _ ?_)
    exact List.mem_cons_of_mem _ List.mem_cons_self
  · intro feeds n hn p hp
    exact agrees_of_isPlace feeds ((Node.allPositions_isPlace text).of_mem_preorder hn p hp)

/-- A carriage return alone is a line break of the document, but not of its markup. -/
theorem not_agrees_return :
    ¬ ∀ n ∈ (make ⟨"file", none, .divided ["Default.aspx"], none, none⟩ 1 "a\rb").root.preorder,
      ∀ p ∈ n.positions,
        (make ⟨"file", none, .divided ["Default.aspx"], none, none⟩ 1 "a\rb").Agrees p := by
  intro agrees
  have feeds := feedsOnly_of_agrees
    (agrees _ (Node.mem_preorder_self _) _ (List.mem_cons_of_mem _ List.mem_cons_self))
  exact absurd feeds (by decide)

end Snapshot

end WebForms
