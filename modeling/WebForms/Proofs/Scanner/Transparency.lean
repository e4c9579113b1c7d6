import WebForms.Proofs.Scanner.Sources
import WebForms.Proofs.Scanner.Values

/-!
# Server blocks inside of other markup

A server block may stand between constructs and inside a quoted value. While it is read, a scanner
keeps what the block has interrupted: the state is suspended, the pending constructs stay below the
block, and the open elements and the attribute being read stay as they are. Behind the block the
scanner takes all this up again. Only a value is different, which has the source of the block at its
end, unless the block is a comment.

## Main definitions

* `WrittenBlock` — a server block as it is written: a comment, a value, or code
* `Scanner.Interrupts` — a server block is read, and what it has interrupted is kept
* `Scanner.Resumes` — what a block had interrupted is taken up again

## Main results

* `Scanner.Reached.resumes` — behind every server block, what it had interrupted is taken up again
-/

namespace WebForms

/-- A server block from its opening to its end, as it is written. -/
inductive WrittenBlock where
  /-- What ends a comment stands for the first time at its end. -/
  | comment (content : List Char)
      (goesOn : ¬ ['-', '-', '%', '>'] <:+: content ++ ['-', '-', '%'])
  | value (b : ServerValue)
  /-- The text is not empty, and its first character makes the block neither a value nor a directive
  nor a comment. -/
  | code (first : Char) (rest : List Char)
      (unmarked : first ∉ ['=', '#', '$', ':', '@', '-', '>'])
      (goesOn : ¬ ['%', '>'] <:+: first :: rest)

namespace WrittenBlock

/-- The server block as it is written. -/
def source : WrittenBlock → List Char
  | comment content _ => ['<', '%', '-', '-'] ++ content ++ ['-', '-', '%', '>']
  | value b => b.source
  | code first rest _ _ => ['<', '%'] ++ first :: rest ++ ['%', '>']

/-- What the server block adds to the value in which it stands. -/
def inValue : WrittenBlock → List Char
  | comment .. => []
  | b => b.source

end WrittenBlock

namespace Scanner

/-- The scanner reads the construct `p` in the given state, inside of what `t` was reading. -/
structure Interrupts (t u : Scanner) (state : ScannerState) (p : Pending) : Prop where
  state : u.state = state
  pending : u.pending = p :: t.pending
  pendingLt : u.pendingLt = none
  /-- At the end, the scanner returns to the state of `t`. -/
  returns : u.resume.headD .free = t.state
  resume : u.resume.tail = t.resume
  openElements : u.openElements = t.openElements
  attrName : u.attrName = t.attrName
  attrValue : u.attrValue = t.attrValue

/-- The scanner reads on where `t` has stopped, with `inValue` at the end of the value, if it is one
that is being read. -/
structure Resumes (t u : Scanner) (inValue : List Char) : Prop where
  state : u.state = t.state
  pending : u.pending = t.pending
  pendingLt : u.pendingLt = none
  resume : u.resume = t.resume
  openElements : u.openElements = t.openElements
  attrName : u.attrName = t.attrName
  attributeValue : u.attributeValue? = t.attributeValue?.map (· ++ String.ofList inValue)

variable {t u v : Scanner} {c : Char} {state : ScannerState} {p q : Pending}

theorem attributeValue?_eq (state : u.state = t.state) (attrValue : u.attrValue = t.attrValue) :
    u.attributeValue? = t.attributeValue? := by
  rw [attributeValue?, attributeValue?, state, attrValue]

theorem matches_of_step (h : t.step c = u) : (t.advance c).Matches u :=
  ⟨_, _, _, congrArg (fun u : Scanner => { u with
    lastChar := some c, position := t.position.advance c, offset := t.offset + c.utf8Size }) h⟩

/-- How far a scanner has read makes no difference to where it reads on. -/
theorem Resumes.of_step {inValue : List Char} (h : t.Resumes (u.step c) inValue) :
    t.Resumes (u.advance c) inValue :=
  ⟨h.state, h.pending, h.pendingLt, h.resume, h.openElements, h.attrName, h.attributeValue⟩

namespace Interrupts

variable {kind : BlockKind} {text raw : String} {start textStart : Position}

/-- More of what interrupts is read. -/
theorem of_matches {state' : ScannerState} (h : t.Interrupts u state p)
    (next : v.Matches { u with state := state', pending := q :: t.pending }) :
    t.Interrupts v state' q := by
  obtain ⟨_, _, _, rfl⟩ := next
  exact ⟨rfl, rfl, h.pendingLt, h.returns, h.resume, h.openElements, h.attrName, h.attrValue⟩

/-! ### Blocks that have a text -/

/-- A marker makes the block one that yields a value. -/
theorem marker (h : t.Interrupts u .blockOpen (.block .code "" "<%" start textStart))
    (marked : BlockKind.ofMarker? c = some kind) :
    ∃ textStart, t.Interrupts (u.advance c) (.block kind)
      (.block kind "" ("<%".push c) start textStart) := by
  obtain ⟨textStart, next⟩ := exists_matches_marker h.state h.pending marked
  exact ⟨textStart, h.of_matches next⟩

/-- A character that has no meaning behind the opening begins a block of code. -/
theorem code (h : t.Interrupts u .blockOpen (.block .code "" "<%" start textStart))
    (unmarked : c ∉ ['=', '#', '$', ':', '@', '-', '>']) :
    t.Interrupts (u.advance c) (.block .code)
      (.block .code (String.singleton c) ("<%".push c) start u.position) := by
  have marker : BlockKind.ofMarker? c = none := by
    unfold BlockKind.ofMarker?
    split <;> simp_all
  simp only [List.mem_cons, List.not_mem_nil, or_false, not_or] at unmarked
  obtain ⟨-, -, -, -, directive, dash, close⟩ := unmarked
  refine h.of_matches (matches_of_step ?_)
  rw [step, h.state]
  simp only [inBlockOpen, if_neg directive, if_neg dash, marker,
    modifyTop_eq (f := Pending.startText? u.position) h.pending rfl]
  rw [inServerBlock_push rfl fun ends => close ends.1]
  rfl

/-- The text of the block is gathered. -/
theorem body {body : List Char}
    (h : t.Interrupts u (.block kind) (.block kind text raw start textStart))
    (goesOn : ¬ ['%', '>'] <:+: u.lastChar.toList ++ body) :
    t.Interrupts (u.advanceAll body) (.block kind)
      (.block kind (text ++ String.ofList body) (raw ++ String.ofList body) start textStart) := by
  have next := matches_body h.state h.pending goesOn
  refine h.of_matches (next.trans ?_)
  rw [← h.state]
  exact .refl _

theorem resumes_endBlock (h : t.Interrupts u state (.block kind text raw start textStart))
    (stop : Position) : t.Resumes (u.endBlock stop) (raw.toList ++ ['>']) := by
  have source : raw.push '>' = String.ofList (raw.toList ++ ['>']) := by
    simp [← String.toList_inj]
  have returns := h.returns
  have resume := h.resume
  unfold endBlock
  simp only [h.pending]
  cases hr : u.resume with
  | nil =>
    rw [hr] at returns resume
    refine ⟨returns, rfl, h.pendingLt, resume, h.openElements, h.attrName, ?_⟩
    simp [attributeValue?, ← returns]
  | cons interrupted states =>
    rw [hr] at returns resume
    cases interrupted with
    | attributeValue host quote =>
      refine ⟨returns, rfl, h.pendingLt, resume, h.openElements, h.attrName, ?_⟩
      simp [attributeValue?, ← returns, h.attrValue, source]
    | _ =>
      refine ⟨returns, rfl, h.pendingLt, resume, h.openElements, h.attrName, ?_⟩
      simp [attributeValue?, ← returns]

/-- At its end, the block is part of the value that it has interrupted, or it is recorded. -/
theorem blockEnd (h : t.Interrupts u (.block kind) (.block kind text raw start textStart)) :
    t.Resumes (u.advanceAll ['%', '>']) (raw.toList ++ ['%', '>']) := by
  have percent : t.Interrupts (u.advance '%') (.block kind)
      (.block kind (text.push '%') (raw.push '%') start textStart) := by
    refine h.of_matches (matches_of_step ?_)
    rw [step, h.state]
    exact (inServerBlock_push h.pending (by simp)).trans (by rw [← h.state])
  have last : (u.advance '%').lastChar = some '%' := rfl
  have ends : (u.advance '%').step '>' =
      (u.advance '%').endBlock ((u.advance '%').position.advance '>') := by
    rw [step, percent.state]
    exact if_pos ⟨rfl, last⟩
  have resumes := percent.resumes_endBlock ((u.advance '%').position.advance '>')
  rw [← ends, String.toList_push, List.append_assoc] at resumes
  exact resumes.of_step

/-! ### Comments -/

/-- Two dashes make the block a comment. -/
theorem dashes (h : t.Interrupts u .blockOpen (.block .code "" "<%" start textStart)) :
    t.Interrupts (u.advanceAll ['-', '-']) .serverComment (.comment .serverComment "" start) := by
  have first : t.Interrupts (u.advance '-') .serverCommentOpen
      (.block .code "" ("<%".push '-') start textStart) := by
    refine h.of_matches (matches_of_step ?_)
    rw [step, h.state]
    simp only [inBlockOpen, modifyTop_eq (f := Pending.pushRaw? '-') h.pending rfl]
    rfl
  refine first.of_matches (matches_of_step ?_)
  rw [step, first.state]
  simp only [inServerCommentOpen, modifyTop_eq (f := Pending.toServerComment?) first.pending rfl]
  rfl

/-- The text of the comment is gathered. -/
theorem content {content : List Char}
    (h : t.Interrupts u .serverComment (.comment .serverComment text start))
    (goesOn : ¬ ['-', '-', '%', '>'] <:+: text.toList ++ content) :
    t.Interrupts (u.advanceAll content) .serverComment
      (.comment .serverComment (text ++ String.ofList content) start) := by
  induction content generalizing u text with
  | nil => simpa using h
  | cons c content ih =>
    -- Else the comment would end with this character, and `--%>` would stand in its text.
    have within : ¬(c = '>' ∧ text.endsWith "--%") := by
      rintro ⟨rfl, ends⟩
      obtain ⟨front, whole⟩ := endsWith_iff.mp ends
      exact goesOn ⟨front, content, by simp [← whole]⟩
    have next : t.Interrupts (u.advance c) .serverComment
        (.comment .serverComment (text.push c) start) := by
      refine h.of_matches (matches_of_step ?_)
      rw [step, h.state]
      simp only [inComment, h.pending, if_neg within]
      rw [← h.state]
    rw [advanceAll_cons, ← push_append_ofList]
    exact ih next (by simpa using goesOn)

/-- At its end, the comment leaves no trace in the value that it has interrupted. -/
theorem commentEnd (h : t.Interrupts u .serverComment (.comment .serverComment text start))
    (ends : ['-', '-', '%'] <:+ text.toList) : t.Resumes (u.advance '>') [] := by
  have close : text.endsWith "--%" := endsWith_iff.mpr ends
  have stepped : u.step '>' = u.inComment "--%" '>' := by rw [step, h.state]
  have ended : u.inComment "--%" '>' = ({ u with
      pending := .comment .serverComment (text.dropEnd "--%".length).copy start :: t.pending } :
        Scanner).endPlain (u.position.advance '>') := by
    simp [inComment, h.pending, close]
  refine Resumes.of_step ?_
  rw [stepped, ended]
  refine ⟨h.returns, rfl, h.pendingLt, h.resume, h.openElements, h.attrName, ?_⟩
  refine (attributeValue?_eq (t := t) ?_ ?_).trans (by simp)
  · exact h.returns
  · exact h.attrValue

end Interrupts

/-- The text between constructs ends without an effect on what is pending. -/
theorem exists_endText_eq (t : Scanner) (stop : Position) :
    ∃ events, t.endText stop = { t with textStart := none, textHasContent := false, events } := by
  unfold endText
  cases t.textStart with
  | none => exact ⟨t.events, rfl⟩
  | some start =>
    simp only
    split
    · exact ⟨_, rfl⟩
    · exact ⟨t.events, rfl⟩

/-- Between constructs, a percent sign behind an angle bracket opens a server block. -/
theorem exists_matches_open (hs : t.state = .free) {lt : Position} (hlt : t.pendingLt = some lt) :
    ∃ textStart events, (t.advance '%').Matches { t with
      state := .blockOpen
      pending := .block .code "" "<%" lt textStart :: t.pending
      pendingLt := none
      textStart := none
      textHasContent := false
      events } := by
  obtain ⟨events, ended⟩ := exists_endText_eq { t with pendingLt := none } lt
  refine ⟨t.position.advance '%', events, matches_of_step ?_⟩
  rw [step, hs]
  simp only [inFree, hlt, if_true, ended]
  rfl

/-- Between constructs, a server block may open; nothing is suspended there. -/
theorem exists_interrupts_free (hs : t.state = .free) (hr : t.resume = [])
    (hlt : t.pendingLt = none) :
    ∃ start textStart, t.Interrupts (t.advanceAll ['<', '%']) .blockOpen
      (.block .code "" "<%" start textStart) := by
  have angle : (t.advance '<').Matches { t with
      textStart := some (t.textStart.getD t.position), pendingLt := some t.position } := by
    refine matches_of_step ?_
    rw [step, hs]
    simp only [inFree, hlt, inText, if_true, hs]
  have held : (t.advance '<').pendingLt = some t.position := by
    obtain ⟨_, _, _, matched⟩ := angle
    rw [matched]
  obtain ⟨textStart, events, percent⟩ := exists_matches_open (angle.state.trans hs) held
  refine ⟨t.position, textStart, ?_⟩
  rw [advanceAll_cons, advanceAll_cons, advanceAll_nil]
  generalize t.advance '<' = u at angle percent ⊢
  obtain ⟨_, _, _, rfl⟩ := angle
  obtain ⟨_, _, _, matched⟩ := percent
  rw [matched]
  constructor <;> simp [hs, hr]

/-- In quotes, a server block may open; the value is suspended. -/
theorem exists_interrupts_quoted (hs : t.state.InQuotes) (hlt : t.pendingLt = none) :
    ∃ start textStart, t.Interrupts (t.advanceAll ['<', '%']) .blockOpen
      (.block .code "" "<%" start textStart) := by
  cases state : t.state with
  | attributeValue host quote =>
    rw [state] at hs
    obtain ⟨mark, closes⟩ := Option.isSome_iff_exists.mp hs
    have angle := matches_angle state closes
    rw [settled_eq_self hlt] at angle
    have held : (t.advance '<').pendingLt = some t.position := by
      obtain ⟨_, _, _, matched⟩ := angle
      rw [matched]
    obtain ⟨textStart, percent⟩ := exists_matches_suspend (angle.state.trans state) closes held
    refine ⟨t.position, textStart, ?_⟩
    rw [advanceAll_cons, advanceAll_cons, advanceAll_nil]
    generalize t.advance '<' = u at angle percent ⊢
    obtain ⟨_, _, _, rfl⟩ := angle
    obtain ⟨_, _, _, matched⟩ := percent
    rw [matched]
    constructor <;> simp [state]
  | _ =>
    rw [state] at hs
    exact hs.elim

/-- Behind a server block that stands between constructs or in quotes, a scanner reads on where it
has been interrupted. -/
theorem Reached.resumes (h : t.Reached) (hs : t.state = .free ∨ t.state.InQuotes)
    (hlt : t.pendingLt = none) (b : WrittenBlock) :
    t.Resumes (t.advanceAll b.source) b.inValue := by
  have opens : ∃ start textStart, t.Interrupts (t.advanceAll ['<', '%']) .blockOpen
      (.block .code "" "<%" start textStart) := by
    obtain free | quoted := hs
    · have fits : t.state.Fits t.pending t.resume := h.consistent.fits
      rw [free] at fits
      exact exists_interrupts_free free fits.2 hlt
    · exact exists_interrupts_quoted quoted hlt
  obtain ⟨start, textStart, opened⟩ := opens
  cases b with
  | comment content goesOn =>
    have source : (WrittenBlock.comment content goesOn).source =
        ['<', '%'] ++ (['-', '-'] ++ (content ++ ['-', '-', '%'] ++ ['>'])) := by
      simp [WrittenBlock.source]
    have gathered := opened.dashes.content goesOn
    rw [source, advanceAll_append, advanceAll_append, advanceAll_append]
    exact gathered.commentEnd (by simp)
  | value b =>
    have source : (WrittenBlock.value b).source =
        ['<', '%'] ++ ([b.marker] ++ (b.body ++ ['%', '>'])) := by
      simp [WrittenBlock.source, ServerValue.source]
    have adds : (WrittenBlock.value b).inValue = (WrittenBlock.value b).source := rfl
    obtain ⟨textStart, marked⟩ := opened.marker b.marked
    have resumes := (marked.body b.goesOn_marker).blockEnd
    rw [adds, source, advanceAll_append, advanceAll_append, advanceAll_append]
    simpa using resumes
  | code first rest unmarked goesOn =>
    have source : (WrittenBlock.code first rest unmarked goesOn).source =
        ['<', '%'] ++ ([first] ++ (rest ++ ['%', '>'])) := by
      simp [WrittenBlock.source]
    have adds : (WrittenBlock.code first rest unmarked goesOn).inValue =
        (WrittenBlock.code first rest unmarked goesOn).source := rfl
    have resumes := ((opened.code unmarked).body goesOn).blockEnd
    rw [adds, source, advanceAll_append, advanceAll_append, advanceAll_append]
    simpa using resumes

/-- In a value, code may hold what ends a comment, and quotation marks and percent signs. -/
theorem resumes_behind_code :
    let t := ({} : Scanner).advanceAll ['<', 'a', ' ', 'b', '=', '"', 'c']
    let source := ['<', '%', '%', '-', '-', '>', '"', '%', '%', '>']
    t.state = .attributeValue .element .double ∧ t.pendingLt = none ∧
      t.Resumes (t.advanceAll source) source := by
  have state : (({} : Scanner).advanceAll ['<', 'a', ' ', 'b', '=', '"', 'c']).state =
      .attributeValue .element .double := by decide
  have inQuotes : (ScannerState.attributeValue .element .double).InQuotes := rfl
  refine ⟨state, by decide, ?_⟩
  exact Reached.resumes (reached_advanceAll _) (.inr (state ▸ inQuotes)) (by decide)
    (.code '%' ['-', '-', '>', '"', '%'] (by decide) (by decide))

end Scanner

end WebForms
