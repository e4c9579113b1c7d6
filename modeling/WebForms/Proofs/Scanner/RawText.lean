import WebForms.Proofs.Scanner.OpenElements

/-!
# Raw text is the content of the innermost element

The start tag of a script or style element is followed by raw text. In there no tag can begin, so no
element is opened inside, and nothing but the end of the raw text closes the element. What can begin
is a server block: it suspends the raw text, and all that it contains, directives with their values
and further blocks in these, is suspended above it. As long as the element is open, raw text
therefore is what is being read, or the outermost of what is suspended.

## Main definitions

* `ScannerState.ReadsServerBlock` — the states in which part of a server block is read
* `Skeleton.RawInnermost` — no open element but the innermost one has raw text as its content

## Main results

* `Scanner.Reached.rawInnermost` — this holds after every text
-/

namespace WebForms

/-- Part of a server block is read: its opening or text, a comment, or a directive. -/
def ScannerState.ReadsServerBlock : ScannerState → Prop
  | .blockOpen | .serverCommentOpen | .serverComment | .block _ => True
  | .directive | .directiveName => True
  | .attributeName host | .attributeValue host _ => host = .directive
  | _ => False

/-- Constructs of server blocks are read in states of their own. -/
theorem Pending.Suits.readsServerBlock {p : Pending} {state : ScannerState} (suits : p.Suits state)
    (server : p.isServer) : state.ReadsServerBlock := by
  cases p with
  | element | closingTag => exact absurd server Bool.false_ne_true
  | directive | block =>
    cases state <;> first | exact suits | trivial
  | comment kind =>
    cases kind with
    | serverComment => cases state <;> trivial
    | text | comment | docType => exact absurd server Bool.false_ne_true

/-- Raw text that is suspended is the outermost of what is. -/
theorem Suspended.getLast?_eq {outer : List Pending} {states : List ScannerState}
    (h : Suspended outer states) (raw : .rawText ∈ states) : states.getLast? = some .rawText := by
  induction h with
  | nothing => exact nomatch raw
  | rawText => rfl
  | element => exact absurd (List.mem_singleton.mp raw) nofun
  | directive _ _ ih =>
    rcases List.mem_cons.mp raw with same | inside
    · exact nomatch same
    · rw [List.getLast?_cons, ih inside]
      rfl

namespace Skeleton

variable {c : Char} {here stop : Position} {s u v : Skeleton} {p : Pending} {ps : List Pending}

/-- Where raw text is suspended, a server block is read, and nothing else is suspended below. -/
theorem Consistent.inRawText (h : s.Consistent) (raw : s.InRawText) :
    s.state = .rawText ∨ s.state.ReadsServerBlock ∧ s.resume.getLast? = some .rawText := by
  by_cases hs : s.state = .rawText
  · exact .inl hs
  have suspended : .rawText ∈ s.resume := raw.resolve_left hs
  have hfree : s.state ≠ .free := fun free => h.not_inRawText free raw
  obtain ⟨p, outer, hp, suits, below⟩ := h.fits.exists_suits hfree hs
  refine .inr ?_
  split at below
  next server => exact ⟨suits.readsServerBlock server, below.getLast?_eq suspended⟩
  next =>
    rw [below.2] at suspended
    exact nomatch suspended

/-- The open elements outside the innermost one have markup as their content, and so has the
innermost one unless raw text is read. -/
structure RawInnermost (s : Skeleton) : Prop where
  outer : ∀ e ∈ s.openElements.tail, e.name.isRawText = false
  reads : ∀ e ∈ s.openElements, e.name.isRawText → s.InRawText

namespace RawInnermost

/-- Where no raw text is read, every open element has markup as its content. -/
theorem markup (h : s.RawInnermost) (markup : ¬ s.InRawText) :
    ∀ e ∈ s.openElements, e.name.isRawText = false := by
  intro e he
  exact Bool.eq_false_iff.mpr fun raw => markup (h.reads e he raw)

theorem of_markup (h : ∀ e ∈ s.openElements, e.name.isRawText = false) : s.RawInnermost where
  outer := fun e he => h e (List.mem_of_mem_tail he)
  reads := fun e he raw => absurd raw (by rw [h e he]; exact Bool.false_ne_true)

/-- The open elements stay the same, and raw text goes on if it has been read. -/
theorem congr (h : s.RawInnermost) (same : u.openElements = s.openElements)
    (raw : s.InRawText → u.InRawText) : u.RawInnermost where
  outer := by
    rw [same]
    exact h.outer
  reads := by
    rw [same]
    exact fun e he isRaw => raw (h.reads e he isRaw)

end RawInnermost

theorem Stays.rawInnermost (stays : Stays here s u) (consistent : s.Consistent)
    (h : s.RawInnermost) : u.RawInnermost :=
  h.congr stays.openElements (stays.inRawText_iff consistent).mpr

/-- While a tag is read, no raw text is. -/
theorem Consistent.not_inRawText_of_pending (h : s.Consistent) (hp : s.pending = p :: ps)
    (server : p.isServer = false) : ¬ s.InRawText := by
  rw [inRawText_iff_of_suits (h.suits hp), (h.alone hp server).1]
  exact nofun

/-- A tag is read among markup, and opens one element at most. -/
theorem TagEnd.rawInnermost (e : TagEnd stop s v) (consistent : s.Consistent)
    (h : s.RawInnermost) : v.RawInnermost := by
  cases e with
  | leaf hp | nameless hp =>
    exact .of_markup (h.markup (consistent.not_inRawText_of_pending hp rfl))
  | closing hp name =>
    have others := h.markup (consistent.not_inRawText_of_pending hp rfl)
    refine .of_markup fun e he => others e ?_
    exact Scanner.closeInnermost_sublist.subset he
  | scope hp tag _ _ markup =>
    have others := h.markup (consistent.not_inRawText_of_pending hp rfl)
    refine .of_markup (List.forall_mem_cons.mpr ⟨?_, others⟩)
    simpa using markup
  | raw hp tag =>
    exact
      { outer := h.markup (consistent.not_inRawText_of_pending hp rfl)
        reads := fun _ _ _ => .inl rfl }

/-- No character opens an element inside raw text, or leaves it with its element open. -/
theorem Turn.rawInnermost (turn : Turn c here s u) (consistent : s.Consistent)
    (h : s.RawInnermost) : u.RawInnermost := by
  -- What ends a server block takes up what has been suspended.
  have takeUp {w w' : Skeleton} {p : Pending} {ps : List Pending} (stays : Stays here s w)
      (hp : w.pending = p :: ps) (same : w'.openElements = w.openElements)
      (resume : w'.resume = w.resume) : (w'.takeUp ps).RawInnermost := by
    have consistent' := stays.consistent consistent
    refine (stays.rawInnermost consistent h).congr same fun raw => ?_
    rw [inRawText_takeUp, resume]
    exact (inRawText_iff_of_suits (consistent'.suits hp)).mp raw
  cases turn with
  | text hs => exact .of_markup (h.markup (consistent.not_inRawText hs))
  | opening hs hlt start suits =>
    obtain ⟨events, ended⟩ := endText_eq { s with pendingLt := none } _
    rw [ended]
    exact .of_markup (h.markup (consistent.not_inRawText hs))
  | suspend hs =>
    refine h.congr rfl fun raw => .inr (List.mem_cons.mpr ?_)
    exact raw.imp_left Eq.symm
  | stay stays => exact stays.rawInnermost consistent h
  | endTag stays hlt e =>
    exact e.rawInnermost (stays.consistent consistent) (stays.rawInnermost consistent h)
  | cutTag angle stays hlt e =>
    have ended := e.rawInnermost (stays.consistent consistent) (stays.rawInnermost consistent h)
    exact ended.congr rfl id
  | endPlain stays hlt hp | endDirective stays hlt hp | endBlock stays hlt hp
  | dropBlock stays hlt hp => exact takeUp stays hp rfl rfl
  | rawChar hs | rawAngle hs => exact h.congr rfl id
  | @endRaw hs e es he =>
    have others := h.outer
    rw [he, List.tail_cons] at others
    split
    · exact .of_markup others
    · exact .of_markup others

end Skeleton

/-- Whatever has been read, no open element but the innermost one has raw text as its content. -/
theorem Scanner.Reached.rawInnermost {t : Scanner} (h : t.Reached) :
    t.skeleton.RawInnermost := by
  induction h with
  | start => exact ⟨nofun, nofun⟩
  | advance h c ih => exact (h.turn c).rawInnermost h.consistent ih

end WebForms
