import WebForms.Proofs.Scanner.BlockTexts
import WebForms.Proofs.Tree.Leaves
import WebForms.Workbench

/-!
# The code around a cursor is that of the page

Completion in a server block knows the text that has been gathered up to the cursor, and looks in
the rest of the page for the end of the block. The tree of the page has the same block from reading
all of it. Both have the same text, since the scanner goes through the same states on the way: what
it has gathered at the cursor is the beginning of what it records, and the end that it finds is the
first one behind the cursor.

## Main definitions

* `Cursor.between` — the cursor between two parts of a text

## Main results

* `Snippet.untilClosing_append` — the search for the end stops at the first one
* `Node.exists_gathers` — at each place of a block of the tree, its text has been gathered
* `Node.snippet_of_mem_preorder` — the code around a cursor is that of the block in the tree
-/

namespace WebForms

open Text

namespace Cursor

/-- The cursor in a text that goes on with `behind` where `front` ends. -/
def between (front behind : List Char) : Cursor :=
  ⟨({} : Scanner).advanceAll front, String.ofList behind⟩

variable (front behind : List Char) (kind : BlockKind)

theorem before_snippet_between :
    ((between front behind).snippet kind).before =
      (({} : Scanner).advanceAll front).blockText := rfl

theorem after_snippet_between :
    ((between front behind).snippet kind).after.toList = Snippet.untilClosing behind := by
  rw [between, snippet, Snippet.ofSource, String.toList_ofList, String.toList_ofList]

end Cursor

namespace Snippet

/-- The search for the end of a server block stops at the first one. -/
theorem untilClosing_append {inner rest : List Char} (unclosed : ¬ ['%', '>'] <:+: inner) :
    untilClosing (inner ++ '%' :: '>' :: rest) = inner := by
  induction inner with
  | nil => rfl
  | cons c cs ih =>
    have further : untilClosing (cs ++ '%' :: '>' :: rest) = cs :=
      ih fun closing => unclosed (closing.trans (List.suffix_cons c cs).isInfix)
    rw [List.cons_append, untilClosing, further]
    -- The first two characters are no end, or there would be one in front.
    rintro ds rfl eq
    cases cs with
    | nil => simp at eq
    | cons d ds' =>
      obtain ⟨rfl, -⟩ := List.cons.inj eq
      exact unclosed ⟨[], ds', rfl⟩

end Snippet

namespace Scanner

variable {t : Scanner} {start here : Position} {kind k : BlockKind} {body : List Char}

/-- Where code is completed, the kind of the block is known, and its text so far. -/
theorem Gathers.eq_of_target (h : t.Gathers start here kind body) (target : t.target = .block k) :
    k = kind ∧ t.blockText.toList = body := by
  cases h with
  | opened state top =>
    simp [Scanner.target, CompletionTarget.ofState, CompletionTarget.ofPlainState,
      ScannerState.inBlock, state] at target
    exact ⟨target.symm, by simp [blockText, innermost?, top]⟩
  | dash state top =>
    -- Behind a dash nothing is completed, as a comment may begin there.
    unfold Scanner.target CompletionTarget.ofState at target
    rw [state] at target
    by_cases angle : t.lastChar = some '<'
    · simp [angle, ScannerState.inBlock] at target
    · simp [angle, CompletionTarget.ofPlainState] at target
  | inside state top whole =>
    rw [target_of_block state] at target
    refine ⟨(CompletionTarget.block.inj target).symm, ?_⟩
    simp [blockText, innermost?, top, whole]

end Scanner

namespace Node

variable {s : String} {n : Node} {e : ServerBlock} {k : BlockKind} {front inner rest : List Char}

/-- At each place between the beginning of the text of a server block and its end, the scanner has
gathered the text up to this place, and the rest of it has no end inside. -/
theorem exists_gathers (mem : n ∈ (Node.parse s).preorder) (hkind : n.kind = .block e)
    (split : s.toList = front ++ inner ++ '%' :: '>' :: rest)
    (stop : n.span.stop = place (front ++ inner ++ ['%', '>']))
    (start : e.textStart ≤ place front) :
    ∃ opening before, front = opening ++ before ∧ e.textStart = place opening ∧
      e.text.toList = before ++ inner ∧ ¬ ['%', '>'] <:+: inner ∧
      (({} : Scanner).advanceAll front).Gathers n.span.start (place opening) e.kind before := by
  have recorded : .block e n.span ∈ (Scanner.readAll s).finish.events :=
    Array.mem_toList_iff.mp (mem_events_of_mem_preorder mem hkind)
  obtain ⟨opening, body, ends⟩ := Scanner.exists_blockEnds recorded
  -- The block that was recorded ends at the same place, and so with the same text.
  have whole : opening ++ body ++ ['>'] = front ++ inner ++ ['%'] ++ ['>'] := by
    refine eq_of_place_eq ends.inside ⟨rest, by simp [split]⟩ ?_
    rw [← ends.stop, stop]
    simp
  have whole' : opening ++ body = front ++ inner ++ ['%'] := List.append_cancel_right whole
  have opened : opening <+: s.toList :=
    ((List.prefix_append _ _).trans (List.prefix_append _ _)).trans ends.inside
  have read : front <+: s.toList := ⟨inner ++ '%' :: '>' :: rest, by simp [split]⟩
  obtain ⟨before, rfl⟩ := prefix_of_place_le opened read (ends.textStart ▸ start)
  have body_eq : body = before ++ inner ++ ['%'] := by
    simpa only [List.append_assoc, List.append_cancel_left_eq] using whole'
  have text : e.text.toList = before ++ inner := by
    obtain ends | ⟨empty, -⟩ := ends.whole
    · exact List.append_cancel_right (ends.symm.trans body_eq)
    · rw [empty] at body_eq
      simp at body_eq
  have reads := ends.reads
  rw [body_eq] at reads
  refine ⟨opening, before, rfl, ends.textStart, text, fun closing => ?_, ?_⟩
  · exact reads.unclosed (closing.trans ⟨before, ['%'], rfl⟩)
  · exact reads.gathers before ⟨inner ++ ['%'], by simp⟩

/-- Where code is completed between the beginning of the text of a server block and the percent
sign that ends it, the block in the tree is of the kind that is completed, its text is the code
around the cursor, and what stands in front of the cursor is its source up to there. -/
theorem snippet_of_mem_preorder (mem : n ∈ (Node.parse s).preorder) (hkind : n.kind = .block e)
    (split : s.toList = front ++ inner ++ '%' :: '>' :: rest)
    (stop : n.span.stop = place (front ++ inner ++ ['%', '>']))
    (start : e.textStart ≤ place front)
    (target : (Cursor.between front (inner ++ '%' :: '>' :: rest)).scanner.target = .block k) :
    k = e.kind ∧
      ((Cursor.between front (inner ++ '%' :: '>' :: rest)).snippet k).code = e.text ∧
      PageFacts.slice? s.toList ⟨e.textStart, place front⟩ =
        some ((Cursor.between front (inner ++ '%' :: '>' :: rest)).snippet k).before.toList := by
  obtain ⟨opening, before, rfl, textStart, text, unclosed, gathers⟩ :=
    exists_gathers mem hkind split stop start
  obtain ⟨rfl, gathered⟩ := gathers.eq_of_target target
  refine ⟨rfl, ?_, ?_⟩
  · -- In front of the cursor stands what has been gathered, behind it what is left of the text.
    rw [← String.toList_inj, text, Snippet.code, String.toList_append,
      Cursor.before_snippet_between, gathered, Cursor.after_snippet_between,
      Snippet.untilClosing_append unclosed]
  · have divides : (⟨e.textStart, place (opening ++ before)⟩ : Span).Divides s.toList opening
        before (inner ++ '%' :: '>' :: rest) := ⟨by simp [split], textStart, rfl⟩
    rw [divides.slice?_eq, Cursor.before_snippet_between, gathered]

/-- Behind the first letter of a value that is written to the page. -/
theorem snippet_of_mem_preorder_render :
    ∃ n ∈ (Node.parse "<p><%= a b %></p>").preorder,
      (n.kind = .block ⟨.render, " a b ", ⟨0, 6⟩⟩ ∧
        "<p><%= a b %></p>".toList = "<p><%= a".toList ++ " b ".toList ++ '%' :: '>' :: "</p>".toList ∧
        n.span.stop = place ("<p><%= a".toList ++ " b ".toList ++ ['%', '>']) ∧
        (⟨0, 6⟩ : Position) ≤ place "<p><%= a".toList ∧
        (Cursor.between "<p><%= a".toList
          (" b ".toList ++ '%' :: '>' :: "</p>".toList)).scanner.target = .block .render) ∧
      BlockKind.render = BlockKind.render ∧
        ((Cursor.between "<p><%= a".toList
          (" b ".toList ++ '%' :: '>' :: "</p>".toList)).snippet .render).code = " a b " ∧
        PageFacts.slice? "<p><%= a b %></p>".toList ⟨⟨0, 6⟩, place "<p><%= a".toList⟩ =
          some ((Cursor.between "<p><%= a".toList
            (" b ".toList ++ '%' :: '>' :: "</p>".toList)).snippet .render).before.toList := by
  have found : ∃ n ∈ (Node.parse "<p><%= a b %></p>").preorder,
      n.kind = .block ⟨.render, " a b ", ⟨0, 6⟩⟩ ∧
        n.span.stop = place ("<p><%= a".toList ++ " b ".toList ++ ['%', '>']) := by
    decide +kernel
  obtain ⟨n, mem, hkind, stop⟩ := found
  have split : "<p><%= a b %></p>".toList =
      "<p><%= a".toList ++ " b ".toList ++ '%' :: '>' :: "</p>".toList := by
    decide +kernel
  have start : (⟨0, 6⟩ : Position) ≤ place "<p><%= a".toList := by decide +kernel
  have target : (Cursor.between "<p><%= a".toList
      (" b ".toList ++ '%' :: '>' :: "</p>".toList)).scanner.target = .block .render := by
    decide +kernel
  exact ⟨n, mem, ⟨hkind, split, stop, start, target⟩,
    snippet_of_mem_preorder mem hkind split stop start target⟩

end Node

end WebForms
