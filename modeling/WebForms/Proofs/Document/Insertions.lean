import WebForms.Code.Insertion
import WebForms.Proofs.Document.Offsets
import WebForms.Proofs.Text.Addresses

/-!
# Insertions by address

The place of a new handler is found as a byte offset in a code file, and the edit that writes it
carries the line and column of that offset. The editor that receives the edit applies it to its own
copy of the file, by address. Since addresses and offsets invert each other, the handler is written
at the offset that was found; and since addresses and places are in the same order, an edit whose
range is not reversed is refused only if one of its ends is no address at all.

## Main results

* `Snapshot.offsetOf_positionAt` — the address of an offset leads back to it
* `applyChange_of_le` — an edit is not refused for the order of its ends
* `Snapshot.apply_insertion` — a handler is written where its place was found
-/

namespace WebForms

open Text

variable {cs : List Char} {offset : Nat}

/-- A change between two addresses of a text succeeds unless the first is behind the second. -/
theorem applyChange_of_le {range : Span} {i j : Nat} (start : index? cs range.start = some i)
    (stop : index? cs range.stop = some j) (le : range.start ≤ range.stop) (text : String) :
    applyChange cs { range := some range, text } =
      .ok (cs.take i ++ text.toList ++ cs.drop j) :=
  applyChange_eq_ok_iff.mpr (.of_index start stop (index?_le_index? start stop le))

/-- The text that an insertion at the address of an offset leaves. -/
theorem spliced_positionAt (boundary : IsBoundary cs offset) (text : String) :
    Spliced cs { range := some ⟨positionAt cs offset, positionAt cs offset⟩, text }
      (takeBytes offset cs ++ text.toList ++ dropBytes offset cs) := by
  obtain ⟨front, back, rfl, rfl⟩ := isBoundary_iff.mp boundary
  have found := index?_positionAt front back
  rw [takeBytes_byteLength_append, dropBytes_byteLength_append]
  -- Nothing is cut out.
  have split : front ++ back = front ++ [] ++ back := by rw [List.append_nil]
  exact .range _ text split found (by rw [List.append_nil, found])

namespace Snapshot

theorem offsetOf_positionAt (s : Snapshot) (boundary : IsBoundary s.text.toList offset) :
    s.offsetOf (positionAt s.text.toList offset) = .ok offset := by
  obtain ⟨front, back, split, rfl⟩ := isBoundary_iff.mp boundary
  refine offsetOf_eq_ok_iff.mpr ⟨front.length, ?_, ?_⟩
  · rw [split, index?_positionAt]
  · rw [split, List.take_left]

end Snapshot

namespace Language

/-- The place of a new member is no place inside a character. -/
theorem isBoundary_of_insertionOffset? {l : Language} {source className : String}
    (found : l.insertionOffset? source className = some offset) :
    IsBoundary source.toList offset := by
  obtain ⟨i, -, rfl⟩ := Option.map_eq_some_iff.mp found
  exact isBoundary_iff.mpr ⟨_, _, (List.take_append_drop i _).symm, rfl⟩

end Language

namespace Snapshot

/-- A handler for which a place was found in the text of a document is written there, and nothing
else changes. -/
theorem apply_insertion (s : Snapshot) {version : Int} (later : s.version < version)
    (h : HandlerProposal) {l : Language}
    (found : l.insertionOffset? s.text h.className = some offset) :
    ∃ e, h.insertion? l s.text = some e ∧
      s.apply [{ range := some ⟨e.position, e.position⟩, text := e.text }] version =
        .ok (make s.uri version (String.ofList (takeBytes offset s.text.toList ++
          (h.stub l).toList ++ dropBytes offset s.text.toList))) := by
  refine ⟨⟨positionAt s.text.toList offset, h.stub l⟩, ?_, ?_⟩
  · rw [HandlerProposal.insertion?, found]
    rfl
  · have boundary := Language.isBoundary_of_insertionOffset? found
    exact apply_of_spliced later (.cons (spliced_positionAt boundary _) (.nil _))

/-- Addresses and offsets of a document invert each other. The address of an offset leads back to
it, and a later address does not lead to an earlier place, so that no edit is refused for the order
of ends that are not reversed. In particular a handler is written at the offset found for it. -/
theorem addresses_invert_offsets (s : Snapshot) :
    (∀ offset, IsBoundary s.text.toList offset →
      s.offsetOf (positionAt s.text.toList offset) = .ok offset) ∧
    (∀ p q i j, p ≤ q → index? s.text.toList p = some i → index? s.text.toList q = some j →
      i ≤ j) ∧
    (∀ (range : Span) (text : String), range.start ≤ range.stop →
      (index? s.text.toList range.start).isSome → (index? s.text.toList range.stop).isSome →
      ∃ after, applyChange s.text.toList { range := some range, text } = .ok after) ∧
    (∀ (version : Int) (h : HandlerProposal) (l : Language) (offset : Nat),
      s.version < version → l.insertionOffset? s.text h.className = some offset →
      IsBoundary s.text.toList offset ∧
        ∃ e, h.insertion? l s.text = some e ∧
          s.apply [{ range := some ⟨e.position, e.position⟩, text := e.text }] version =
            .ok (make s.uri version (String.ofList (takeBytes offset s.text.toList ++
              (h.stub l).toList ++ dropBytes offset s.text.toList)))) := by
  refine ⟨fun _ => s.offsetOf_positionAt, ?_, ?_, ?_⟩
  · intro p q i j le start stop
    exact index?_le_index? start stop le
  · intro range text le start stop
    obtain ⟨i, start⟩ := Option.isSome_iff_exists.mp start
    obtain ⟨j, stop⟩ := Option.isSome_iff_exists.mp stop
    exact ⟨_, applyChange_of_le start stop le text⟩
  · intro version h l offset later found
    exact ⟨Language.isBoundary_of_insertionOffset? found, s.apply_insertion later h found⟩

/-- A code file with three kinds of line break and a character of two columns. -/
def withBreaks : Snapshot :=
  make ⟨"file", none, .divided ["C.cs"], none, none⟩ 0 "\r\nclass C \x7b\n  \u2028😀 \x7d"

/-- A handler for the class of that file. -/
def withBreaksHandler : HandlerProposal :=
  ⟨"Go", "Click", "System.EventHandler", [], "Site.C", none⟩

/-- The handler is written in front of the brace, and the place inside of the first line break can
be addressed as well. -/
theorem addresses_invert_offsets_withBreaks :
    withBreaks.offsetOf ⟨0, 1⟩ = .ok 1 ∧
      Language.cSharp.insertionOffset? withBreaks.text withBreaksHandler.className = some 22 ∧
      ∃ e, withBreaksHandler.insertion? .cSharp withBreaks.text = some e ∧
        withBreaks.apply [{ range := some ⟨e.position, e.position⟩, text := e.text }] 1 =
          .ok (make withBreaks.uri 1
            "\r\nclass C \x7b\n  \u2028😀 \n    protected void Go()\n    \x7b\n    \x7d\n\x7d") := by
  have found : Language.cSharp.insertionOffset? withBreaks.text withBreaksHandler.className =
      some 22 := by
    decide +kernel
  obtain ⟨back, -, -, written⟩ := addresses_invert_offsets withBreaks
  obtain ⟨-, e, edit, applied⟩ := written 1 withBreaksHandler .cSharp 22 (by decide) found
  have text : String.ofList (takeBytes 22 withBreaks.text.toList ++
      (withBreaksHandler.stub .cSharp).toList ++ dropBytes 22 withBreaks.text.toList) =
      "\r\nclass C \x7b\n  \u2028😀 \n    protected void Go()\n    \x7b\n    \x7d\n\x7d" := by
    decide +kernel
  refine ⟨back 1 (by decide +kernel), found, e, edit, applied.trans ?_⟩
  rw [text]

end Snapshot

end WebForms
