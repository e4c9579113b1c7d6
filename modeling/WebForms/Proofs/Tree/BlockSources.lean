import WebForms.Proofs.Scanner.BlockTexts
import WebForms.Proofs.Tree.Leaves

/-!
# The source of a server block in the tree

A server block of the tree has a kind, a text and the place where this text starts. In the source
that it covers, the opening of its kind comes first, then its text and then its end. There is one
exception: an angle bracket right behind the opening of a block of code ends the block, as the
percent sign of the opening is in front of it. This block has no text, and no end of its own.

## Main definitions

* `ServerBlock.StandsIn` — opening, text and end are the source of a server block

## Main results

* `Node.exists_divides_block` — the source of a server block of the tree, in parts
* `Node.standsIn_iff` — only the one exception has another source
-/

namespace WebForms

open Text

/-- Of the source `cs`, in which the server block covers `span`, its text with its end behind it
stands at the place of the text, and the opening of its kind in front. -/
structure ServerBlock.StandsIn (cs : List Char) (span : Span) (e : ServerBlock) : Prop where
  opening : PageFacts.slice? cs ⟨span.start, e.textStart⟩ = some e.kind.opening
  text : PageFacts.slice? cs ⟨e.textStart, span.stop⟩ = some (e.text.toList ++ ['%', '>'])

/-- The source of a block of code that ends with its opening. -/
def ServerBlock.bareSource : List Char := ['<', '%', '>']

namespace Node

variable {s : String} {n : Node} {e : ServerBlock}

/-- The source of a server block is the opening of its kind, its text with a percent sign behind it,
and an angle bracket; only a block of code may have neither text nor percent sign. -/
theorem exists_divides_block (mem : n ∈ (parse s).preorder) (hkind : n.kind = .block e) :
    ∃ before body behind,
      n.span.Divides s.toList before (e.kind.opening ++ body ++ ['>']) behind ∧
        e.textStart = place (before ++ e.kind.opening) ∧
        (body = e.text.toList ++ ['%'] ∨ body = [] ∧ e.text = "" ∧ e.kind = .code) := by
  have recorded : .block e n.span ∈ (Scanner.readAll s).finish.events :=
    Array.mem_toList_iff.mp (mem_events_of_mem_preorder mem hkind)
  obtain ⟨opening, body, ends⟩ := Scanner.exists_blockEnds recorded
  obtain ⟨before, rfl, start⟩ := ends.reads.opened
  obtain ⟨behind, split⟩ := ends.inside
  have divides : n.span.Divides s.toList before (e.kind.opening ++ body ++ ['>']) behind :=
    { split := by simp [← split]
      start := start
      stop := by simp [ends.stop] }
  refine ⟨before, body, behind, divides, ends.textStart, ends.whole.imp_right ?_⟩
  rintro ⟨rfl, empty⟩
  refine ⟨rfl, empty, ?_⟩
  -- The source ends with a percent sign and a bracket, so the opening ends with a percent sign.
  obtain ⟨_, source, _, divides', -, closing⟩ := (Scanner.stands_of_mem_events recorded).divides
  have same : some source = some (e.kind.opening ++ [] ++ ['>']) :=
    divides'.slice?_eq.symm.trans divides.slice?_eq
  rw [Option.some.inj same] at closing
  cases kind : e.kind with
  | code => rfl
  | render | dataBinding | resource | htmlEncoded =>
    rw [kind] at closing
    exact absurd closing (by decide)

/-- In front of the text of a server block stands the opening of its kind. Behind the text stands
the end of the block, unless its source is nothing but an opening and an angle bracket; then it is
a block of code without text. -/
theorem standsIn_iff (mem : n ∈ (parse s).preorder) (hkind : n.kind = .block e) :
    (e.StandsIn s.toList n.span ↔
        PageFacts.slice? s.toList n.span ≠ some ServerBlock.bareSource) ∧
      (PageFacts.slice? s.toList n.span = some ServerBlock.bareSource →
        e.kind = .code ∧ e.text = "" ∧
          PageFacts.slice? s.toList ⟨n.span.start, e.textStart⟩ = some e.kind.opening) := by
  obtain ⟨before, body, behind, divides, textStart, whole⟩ := exists_divides_block mem hkind
  have opening : (⟨n.span.start, e.textStart⟩ : Span).Divides s.toList before e.kind.opening
      (body ++ ['>'] ++ behind) :=
    { split := by simp [divides.split]
      start := divides.start
      stop := textStart }
  have text : (⟨e.textStart, n.span.stop⟩ : Span).Divides s.toList (before ++ e.kind.opening)
      (body ++ ['>']) behind :=
    { split := by simp [divides.split]
      start := textStart
      stop := by simp [divides.stop] }
  rw [divides.slice?_eq, Ne, Option.some_inj]
  -- With a percent sign behind its text, a block is longer than the exception.
  obtain rfl | ⟨rfl, empty, code⟩ := whole
  · have longer : e.kind.opening ++ (e.text.toList ++ ['%']) ++ ['>'] ≠ ServerBlock.bareSource := by
      intro bare
      have length := congrArg List.length bare
      cases kind : e.kind <;> simp [kind, BlockKind.opening, ServerBlock.bareSource] at length
    refine ⟨⟨fun _ => longer, fun _ => ⟨opening.slice?_eq, ?_⟩⟩, fun bare => absurd bare longer⟩
    rw [text.slice?_eq, List.append_assoc]
    rfl
  · have bare : e.kind.opening ++ [] ++ ['>'] = ServerBlock.bareSource := by
      rw [code]
      rfl
    refine ⟨⟨fun stands => ?_, fun other => absurd bare other⟩,
      fun _ => ⟨code, empty, opening.slice?_eq⟩⟩
    have closing := stands.text
    rw [text.slice?_eq, empty] at closing
    exact absurd closing (by decide)

/-- A block of code that begins with a dash and ends with percent signs. -/
theorem standsIn_iff_percents :
    ∃ n ∈ (parse "a<%-%%>").preorder, n.kind = .block ⟨.code, "-%", ⟨0, 3⟩⟩ ∧
      (((⟨.code, "-%", ⟨0, 3⟩⟩ : ServerBlock).StandsIn "a<%-%%>".toList n.span ↔
          PageFacts.slice? "a<%-%%>".toList n.span ≠ some ServerBlock.bareSource) ∧
        (PageFacts.slice? "a<%-%%>".toList n.span = some ServerBlock.bareSource →
          BlockKind.code = .code ∧ "-%" = "" ∧
            PageFacts.slice? "a<%-%%>".toList ⟨n.span.start, ⟨0, 3⟩⟩ =
              some BlockKind.code.opening)) := by
  have found : ∃ n ∈ (parse "a<%-%%>").preorder, n.kind = .block ⟨.code, "-%", ⟨0, 3⟩⟩ := by
    decide +kernel
  obtain ⟨n, mem, hkind⟩ := found
  exact ⟨n, mem, hkind, standsIn_iff mem hkind⟩

/-- An angle bracket right behind an opening ends the block, and what follows is no part of it. -/
theorem not_standsIn_bare :
    ¬ ∀ n ∈ (parse "<%>a%>").preorder, ∀ e, n.kind = .block e →
      e.StandsIn "<%>a%>".toList n.span := by
  have found : ∃ n ∈ (parse "<%>a%>").preorder, n.kind = .block ⟨.code, "", ⟨0, 2⟩⟩ ∧
      PageFacts.slice? "<%>a%>".toList ⟨⟨0, 2⟩, n.span.stop⟩ = some ['>'] := by
    decide +kernel
  obtain ⟨n, mem, hkind, source⟩ := found
  intro stands
  exact absurd (source.symm.trans (stands n mem _ hkind).text) (by decide)

end Node

end WebForms
