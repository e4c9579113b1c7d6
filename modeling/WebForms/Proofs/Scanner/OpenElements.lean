import WebForms.Proofs.Scanner.Starts
import WebForms.Proofs.Tree.Frames

/-!
# Two views of nesting

While a page is read, the scanner keeps its own list of open elements, and the tree is built later
from what the scanner has recorded. Both find the same elements open after every character. Their
start tags follow one another without overlap, since a tag starts where unfinished markup does, and
all of that stands behind the tags that are complete.

## Main definitions

* `Skeleton.Mirrored` — the stack of the tree has the elements that the scanner has open
* `Skeleton.InOrder` — the start tags of the open elements follow one another

## Main results

* `openTags_eq_openElements` — both hold after every text
-/

namespace WebForms

namespace Skeleton

variable {c : Char} {here stop : Position} {s u v : Skeleton} {p : Pending} {ps : List Pending}

/-! ### The same elements -/

/-- The stack of the tree, after what has been recorded, has the elements that are open. -/
def Mirrored (stop : Position) (s : Skeleton) : Prop :=
  (FrameStack.after stop s.events.toList).openTags = s.openElements.map some

namespace Mirrored

/-- The stack depends on what is recorded and open only. -/
theorem congr (h : s.Mirrored stop) (events : u.events = s.events)
    (openElements : u.openElements = s.openElements) : u.Mirrored stop := by
  unfold Mirrored
  rw [events, openElements]
  exact h

/-- Markup without content leaves all elements open. -/
theorem record_leaf (h : s.Mirrored stop) {e : MarkupEvent} {n : Node} (leaf : e.leaf? = some n) :
    (s.record e).Mirrored stop := by
  unfold Mirrored Skeleton.record
  rw [Array.toList_push, FrameStack.after_concat, FrameStack.openTags_step_of_leaf leaf]
  exact h

theorem record_startTag (h : s.Mirrored stop) (tag : Tag)
    (opens : u.openElements = ⟨tag.name, tag.attributes, tag.startTag⟩ :: s.openElements)
    (events : u.events = s.events) : (u.record (.startTag tag true)).Mirrored stop := by
  unfold Mirrored Skeleton.record
  rw [Array.toList_push, FrameStack.after_concat, FrameStack.openTags_step_startTag, events, h,
    opens, List.map_cons]

theorem record_endTag (h : s.Mirrored stop) (name : TagName) (span : Span)
    (closes : u.openElements = Scanner.closeInnermost name s.openElements)
    (events : u.events = s.events) : (u.record (.endTag name span)).Mirrored stop := by
  unfold Mirrored Skeleton.record
  rw [Array.toList_push, FrameStack.after_concat, events, closes]
  exact FrameStack.openTags_close h

theorem endText (h : s.Mirrored stop) (lt : Position) : (s.endText lt).Mirrored stop := by
  have open' : (s.endText lt).openElements = s.openElements := by
    obtain ⟨events, ended⟩ := endText_eq s lt
    rw [ended]
  obtain same | ⟨start, -, -, pushed⟩ := events_endText s lt
  · exact h.congr same open'
  · exact (h.record_leaf (e := .text ⟨start, lt⟩) rfl).congr pushed open'

end Mirrored

theorem TagEnd.mirrored {at' : Position} (e : TagEnd at' s v) (h : s.Mirrored stop) :
    v.Mirrored stop := by
  cases e with
  | leaf hp tag => exact .record_leaf (h.congr rfl rfl) rfl
  | scope hp tag => exact h.record_startTag tag rfl rfl
  | raw hp tag => exact h.record_startTag tag rfl rfl
  | nameless hp => exact h
  | closing hp name => exact h.record_endTag name _ rfl rfl

theorem Stays.mirrored (stays : Stays here s u) (h : s.Mirrored stop) : u.Mirrored stop :=
  h.congr stays.events stays.openElements

/-- Every character has the same effect on both views. -/
theorem Turn.mirrored (turn : Turn c here s u) (h : s.Mirrored stop) : u.Mirrored stop := by
  cases turn with
  | text hs | rawChar hs | rawAngle hs | suspend hs => exact h
  | opening hs hlt start suits =>
    have unheld : ({ s with pendingLt := none } : Skeleton).Mirrored stop := h
    exact unheld.endText _
  | stay stays => exact stays.mirrored h
  | endTag stays hlt e => exact e.mirrored (stays.mirrored h)
  | cutTag angle stays hlt e => exact e.mirrored (stays.mirrored h)
  | endPlain stays hlt hp | endDirective stays hlt hp | endBlock stays hlt hp =>
    exact (stays.mirrored h).record_leaf rfl
  | dropBlock stays hlt hp => exact stays.mirrored h
  | @endRaw hs e es he lt hlt =>
    -- Raw text is closed by name, and the innermost element has this name.
    have closes : es = Scanner.closeInnermost e.name s.openElements := by
      rw [he, Scanner.closeInnermost_cons_of_agrees e.name.agrees_self]
    split
    · have recorded : (s.record (.text ⟨s.rawStart, lt⟩)).Mirrored stop := h.record_leaf rfl
      exact recorded.record_endTag e.name _ closes rfl
    · exact h.record_endTag e.name _ closes rfl

/-! ### The order of start tags -/

/-- The start tags of the open elements follow one another, and unfinished markup stands behind
them. -/
structure InOrder (here : Position) (s : Skeleton) : Prop where
  start_le : ∀ e ∈ s.openElements, e.startTag.start ≤ e.startTag.stop
  stop_le : ∀ e ∈ s.openElements, e.startTag.stop ≤ here
  apart : s.openElements.Pairwise fun inner outer => outer.startTag.stop ≤ inner.startTag.start
  starts : ∀ e ∈ s.openElements, ∀ place, s.Starts place → e.startTag.stop ≤ place

/-- A tag opens one element at most, which starts where it does. -/
theorem TagEnd.openElements (e : TagEnd stop s v) :
    v.openElements.Sublist s.openElements ∨
      ∃ p ∈ s.pending, ∃ tag : OpenTag, v.openElements = tag :: s.openElements ∧
        tag.startTag = ⟨p.start, stop⟩ := by
  cases e with
  | leaf hp | nameless hp => exact .inl (.refl _)
  | closing hp name => exact .inl Scanner.closeInnermost_sublist
  | scope hp tag span | raw hp tag span =>
    refine .inr ⟨_, hp ▸ List.mem_cons_self, _, rfl, ?_⟩
    exact span

namespace InOrder

/-- Fewer open elements are in order too, when what is unfinished started before or starts now. -/
theorem sublist (h : s.InOrder here) (kept : u.openElements.Sublist s.openElements)
    (starts : ∀ place, u.Starts place → s.Starts place ∨ here ≤ place) {there : Position}
    (le : here ≤ there) : u.InOrder there where
  start_le := fun e he => h.start_le e (kept.subset he)
  stop_le := fun e he => le_trans (h.stop_le e (kept.subset he)) le
  apart := h.apart.sublist kept
  starts := by
    intro e he place at'
    obtain before | behind := starts place at'
    · exact h.starts e (kept.subset he) place before
    · exact le_trans (h.stop_le e (kept.subset he)) behind

/-- An element may be opened behind the others, with nothing unfinished in front of its end. -/
theorem cons (h : s.InOrder here) {e : OpenTag} (opened : u.openElements = e :: s.openElements)
    (start : s.Starts e.startTag.start) (le : e.startTag.start ≤ e.startTag.stop)
    (starts : ∀ place, u.Starts place → e.startTag.stop ≤ place) :
    u.InOrder e.startTag.stop := by
  have behind (o : OpenTag) (ho : o ∈ s.openElements) : o.startTag.stop ≤ e.startTag.stop :=
    le_trans (h.starts o ho _ start) le
  refine ⟨?_, ?_, ?_, ?_⟩
  -- Each property holds of the new element and, as before, of the others.
  all_goals rw [opened]
  · exact List.forall_mem_cons.mpr ⟨le, h.start_le⟩
  · exact List.forall_mem_cons.mpr ⟨le_rfl, behind⟩
  · exact List.pairwise_cons.mpr ⟨fun o ho => h.starts o ho _ start, h.apart⟩
  · refine List.forall_mem_cons.mpr ⟨starts, ?_⟩
    intro o ho place at'
    exact le_trans (behind o ho) (starts place at')

/-- A tag that ends at `stop` leaves the open elements in order. -/
theorem tagEnd (h : s.InOrder here) (e : TagEnd stop s v) (consistent : s.Consistent)
    (hlt : s.pendingLt = none) (le : here ≤ stop) (started : ∀ p ∈ s.pending, p.start ≤ here) :
    v.InOrder stop := by
  have starts (place : Position) (at' : v.Starts place) : stop ≤ place :=
    ge_of_eq (e.starts consistent hlt at')
  obtain kept | ⟨p, hp, tag, opened, span⟩ := e.openElements
  · exact h.sublist kept (fun place at' => .inr (le_trans le (starts place at'))) le
  · obtain ⟨name, attributes, span'⟩ := tag
    obtain rfl : span' = ⟨p.start, stop⟩ := span
    exact h.cons opened (.pending hp) (le_trans (started p hp) le) starts

end InOrder

theorem Stays.inOrder (stays : Stays here s u) (h : s.InOrder here) : u.InOrder here :=
  h.sublist (stays.openElements ▸ .refl _)
    (fun _ at' => (stays.starts at').imp_right ge_of_eq) le_rfl

/-- No character brings the start tags out of order. -/
theorem Turn.inOrder (turn : Turn c here s u) (h : s.InOrder here) (consistent : s.Consistent)
    (started : ∀ place, s.Starts place → place ≤ here) : u.InOrder (here.advance c) := by
  have le := here.le_advance c
  have kept (sublist : u.openElements.Sublist s.openElements) : u.InOrder (here.advance c) :=
    h.sublist sublist (fun _ at' => (turn.starts consistent at').imp_right And.left) le
  have pending {w : Skeleton} (stays : Stays here s w) (p : Pending) (hp : p ∈ w.pending) :
      p.start ≤ here :=
    stays.starts_le started (.pending hp)
  cases turn with
  | text hs | rawChar hs | rawAngle hs | suspend hs => exact kept (.refl _)
  | @opening hs lt hlt =>
    obtain ⟨events, ended⟩ := endText_eq { s with pendingLt := none } lt
    rw [ended] at kept ⊢
    exact kept (.refl _)
  | stay stays => exact kept (stays.openElements ▸ .refl _)
  | endTag stays hlt e =>
    exact (stays.inOrder h).tagEnd e (stays.consistent consistent) hlt le (pending stays)
  | cutTag angle stays hlt e =>
    -- The tag ends where the character stands, and then the angle bracket starts there.
    have consistent' := stays.consistent consistent
    have ended := (stays.inOrder h).tagEnd e consistent' hlt le_rfl (pending stays)
    refine ended.sublist (u := Skeleton.hold _ here) (.refl _) ?_ le
    intro place at'
    exact (at'.of_hold (e.textStart_eq_none consistent')).imp_right ge_of_eq
  | endPlain stays | endDirective stays | endBlock stays | dropBlock stays =>
    exact kept (stays.openElements ▸ .refl _)
  | endRaw hs he hlt =>
    refine kept ?_
    rw [he]
    split
    · exact List.sublist_cons_self _ _
    · exact List.sublist_cons_self _ _

end Skeleton

namespace Scanner

variable {t : Scanner}

theorem Reached.mirrored (h : t.Reached) (stop : Position) : t.skeleton.Mirrored stop := by
  induction h with
  | start => rfl
  | advance h c ih => exact (h.turn c).mirrored ih

theorem Reached.inOrder (h : t.Reached) : t.skeleton.InOrder t.position := by
  induction h with
  | start => exact ⟨nofun, nofun, .nil, nofun⟩
  | advance h c ih => exact (h.turn c).inOrder ih h.consistent fun _ => h.starts_le

/-- After every text, the elements that are open while the page is read are those that are under
construction in its tree, in the same order and with the same start tags; and these start tags
follow one another without overlap. -/
theorem openTags_eq_openElements (cs : List Char) (stop : Position) :
    let t := ({} : Scanner).advanceAll cs
    (FrameStack.after stop t.events.toList).openTags = t.openElements.map some ∧
      (t.openElements.Pairwise fun inner outer => outer.startTag.stop ≤ inner.startTag.start) ∧
      ∀ e ∈ t.openElements, e.startTag.start ≤ e.startTag.stop := by
  intro t
  have reached : t.Reached := reached_advanceAll cs
  exact ⟨reached.mirrored stop, reached.inOrder.apart, reached.inOrder.start_le⟩

end Scanner

end WebForms
