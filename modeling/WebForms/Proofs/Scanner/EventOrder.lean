import WebForms.Proofs.Scanner.OpenElements
import WebForms.Proofs.Tree.Nesting

/-!
# The order of what is recorded

Markup is recorded when it ends, and then stands behind all that has been recorded before, with two
exceptions. A server comment or directive inside a value or raw text is recorded before the markup
around it. And an angle bracket that cuts off the start tag of raw text begins text between
constructs, which is recorded behind the element and covers it. Both let unfinished markup start in
front of the end of something recorded. When this markup is recorded in turn, the element that it is
added to does not admit it, so the tree is not well nested.

## Main definitions

* `Skeleton.Slips` — the two exceptions
* `Skeleton.Placed` — the invariant

## Main results

* `wellNested_parse_iff` — the trees that are well nested
-/

namespace WebForms

namespace Skeleton

variable {slipped : Prop} {c : Char} {here stop place : Position} {s u v : Skeleton} {p : Pending}
  {ps : List Pending} {e : MarkupEvent}

/-- The character records markup inside other markup, or begins text between constructs where raw
text begins. -/
def Slips (c : Char) (s u : Skeleton) : Prop :=
  s.resume ≠ [] ∧ u.events ≠ s.events ∨ c = '<' ∧ s.state ≠ .rawText ∧ u.state = .rawText

/-- The stack of the tree after what has been recorded. -/
def stack (stop : Position) (s : Skeleton) : FrameStack :=
  FrameStack.after stop s.events.toList

/-- All that has been recorded ends at `place` or in front of it. -/
def EndsBy (s : Skeleton) (place : Position) : Prop :=
  ∀ e ∈ s.events.toList, e.span.stop ≤ place

/-- Markup that starts at `place` follows what has been recorded, unless there was a slip and the
tree has no place for it. -/
def Free (slipped : Prop) (stop : Position) (s : Skeleton) (place : Position) : Prop :=
  s.EndsBy place ∨ slipped ∧ ¬ (s.stack stop).innermost.Admits place

/-- Each event follows the others, unless there was a slip and the tree is not nested. -/
def Orderly (slipped : Prop) (stop : Position) (s : Skeleton) : Prop :=
  (slipped → (s.stack stop).Nested) → s.events.toList.Pairwise MarkupEvent.Clears

/-- What has been recorded up to `here` stands in order. -/
structure Sequenced (slipped : Prop) (stop here : Position) (s : Skeleton) : Prop where
  ordered : ∀ e ∈ s.events.toList, e.span.start ≤ e.span.stop
  ends : s.EndsBy here
  orderly : s.Orderly slipped stop

/-- What is unfinished starts behind all that has been recorded, unless there was a slip. -/
structure Placed (slipped : Prop) (stop here : Position) (s : Skeleton) : Prop
    extends Sequenced slipped stop here s where
  free : ∀ place, s.Starts place → s.Free slipped stop place
  /-- No text between constructs is open around raw text. -/
  stale : s.textStart.isSome → s.InRawText → slipped
  rawLt : ∀ lt, s.rawLt = some lt → lt ≤ here

/-! ### Recording -/

theorem EndsBy.mono (h : s.EndsBy place) {place' : Position} (le : place ≤ place') :
    s.EndsBy place' :=
  fun e he => le_trans (h e he) le

theorem Sequenced.congr (h : s.Sequenced slipped stop here) (events : u.events = s.events)
    {there : Position} (le : here ≤ there) : u.Sequenced slipped stop there where
  ordered := events ▸ h.ordered
  ends := by
    unfold EndsBy
    rw [events]
    exact h.ends.mono le
  orderly := by
    unfold Orderly stack
    rw [events]
    exact h.orderly

section

variable (events : u.events = s.events.push e)
include events

theorem events_push : u.events.toList = s.events.toList ++ [e] := by
  rw [events, Array.toList_push]

theorem stack_push : u.stack stop = (s.stack stop).step e := by
  rw [stack, stack, events_push events, FrameStack.after_concat]

theorem EndsBy.push (h : s.EndsBy place) (le : e.span.stop ≤ place) : u.EndsBy place := by
  rw [EndsBy, events_push events, List.forall_mem_append]
  exact ⟨h, List.forall_mem_singleton.mpr le⟩

/-- The order is kept by an event that follows the others, unless there was a slip. -/
theorem Orderly.push (h : s.Orderly slipped stop)
    (clears : (slipped → (u.stack stop).Nested) → s.EndsBy e.limit) : u.Orderly slipped stop := by
  intro nested
  rw [events_push events, List.pairwise_append]
  refine ⟨h ?_, List.pairwise_singleton _ _, ?_⟩
  · intro slip
    have nested' := nested slip
    rw [stack_push events] at nested'
    exact FrameStack.nested_of_step nested'
  · intro a ha b hb
    obtain rfl := List.mem_singleton.mp hb
    exact clears nested a ha

/-- Markup may be recorded when it starts where this is free. -/
theorem Sequenced.push (h : s.Sequenced slipped stop here) (starts : e.isEndTag = false)
    (free : s.Free slipped stop e.span.start) (ordered : e.span.start ≤ e.span.stop)
    {there : Position} (le : here ≤ there) (ends : e.span.stop ≤ there) :
    u.Sequenced slipped stop there where
  ordered := by
    rw [events_push events, List.forall_mem_append]
    exact ⟨h.ordered, List.forall_mem_singleton.mpr ordered⟩
  ends := (h.ends.mono le).push events ends
  orderly := by
    refine h.orderly.push events ?_
    intro nested
    rw [MarkupEvent.limit_eq_start starts]
    obtain clear | ⟨slip, blocked⟩ := free
    · exact clear
    · -- The tree has no place for the event, so it is not nested when it has been added.
      have nested' := nested slip
      rw [stack_push events] at nested'
      exact absurd (FrameStack.admits_of_step nested' starts) blocked

end

/-- A closing tag may be recorded behind everything else. -/
theorem Sequenced.endTag (h : s.Sequenced slipped stop here) {name : TagName}
    {start there : Position} (events : u.events = s.events.push (.endTag name ⟨start, there⟩))
    (ordered : start ≤ there) (le : here ≤ there) : u.Sequenced slipped stop there where
  ordered := by
    rw [events_push events, List.forall_mem_append]
    exact ⟨h.ordered, List.forall_mem_singleton.mpr ordered⟩
  ends := (h.ends.mono le).push events le_rfl
  orderly := h.orderly.push events fun _ => h.ends.mono le

namespace Free

theorem congr (h : s.Free slipped stop place) (events : u.events = s.events) :
    u.Free slipped stop place := by
  unfold Free EndsBy stack
  rw [events]
  exact h

/-- A place that is free stays so when something is recorded in front of it. -/
theorem push (h : s.Free slipped stop place) {n : Node} (leaf : e.leaf? = some n)
    (events : u.events = s.events.push e) (le : e.span.stop ≤ place) :
    u.Free slipped stop place := by
  obtain ends | ⟨slip, blocked⟩ := h
  · exact .inl (ends.push events le)
  · refine .inr ⟨slip, ?_⟩
    rw [stack_push events, FrameStack.step_of_leaf leaf, FrameStack.innermost_attach,
      Frame.admits_attach_iff]
    exact fun admits => blocked admits.1

/-- After a slip, what is recorded covers the places in front of its end. -/
theorem cover {n : Node} (leaf : e.leaf? = some n) (events : u.events = s.events.push e)
    (slip : slipped) (before : place < e.span.stop) : u.Free slipped stop place := by
  refine .inr ⟨slip, ?_⟩
  rw [stack_push events, FrameStack.step_of_leaf leaf, FrameStack.innermost_attach,
    Frame.admits_attach_iff]
  obtain ⟨kind, rfl⟩ := MarkupEvent.leaf?_eq_some leaf
  exact fun admits => absurd admits.2 (not_le_of_gt before)

/-- After a slip, an element that is closed covers the places in front of its end. -/
theorem cover_endTag (mirrored : s.Mirrored stop) {o : OpenTag} {os : List OpenTag}
    (ho : s.openElements = o :: os) {start there : Position}
    (events : u.events = s.events.push (.endTag o.name ⟨start, there⟩)) (slip : slipped)
    (before : place < there) : u.Free slipped stop place := by
  refine .inr ⟨slip, ?_⟩
  have opens : (s.stack stop).openTags = some o :: os.map some := by
    rw [stack, mirrored, ho, List.map_cons]
  obtain ⟨s', n, closed, ends⟩ :=
    FrameStack.exists_close_eq_attach opens o.name.agrees_self ⟨start, there⟩
  rw [stack_push events, FrameStack.step, closed, FrameStack.innermost_attach,
    Frame.admits_attach_iff, ends]
  exact fun admits => absurd admits.2 (not_le_of_gt before)

end Free

/-! ### What one character preserves -/

namespace Placed

theorem mono (h : s.Placed slipped stop here) {there : Position} (le : here ≤ there) :
    s.Placed slipped stop there where
  toSequenced := h.toSequenced.congr rfl le
  free := h.free
  stale := h.stale
  rawLt := fun lt hlt => le_trans (h.rawLt lt hlt) le

/-- As long as nothing is recorded, only what begins has to be placed. -/
theorem keep (h : s.Placed slipped stop here)
    (starts : ∀ place, u.Starts place → s.Starts place ∨ here ≤ place)
    (events : u.events = s.events) (stale : u.textStart.isSome → u.InRawText → slipped)
    (rawLt : ∀ lt, u.rawLt = some lt → lt ≤ here) : u.Placed slipped stop here where
  toSequenced := h.congr events le_rfl
  free := by
    intro place at'
    obtain before | behind := starts place at'
    · exact (h.free place before).congr events
    · exact Free.congr (.inl (h.ends.mono behind)) events
  stale := stale
  rawLt := rawLt

/-- A character that belongs to the innermost construct leaves everything in its place. -/
theorem stays (h : s.Placed slipped stop here) (stays : Stays here s u)
    (consistent : s.Consistent) : u.Placed slipped stop here := by
  refine h.keep (fun _ at' => (stays.starts at').imp_right ge_of_eq) stays.events ?_ ?_
  · rw [stays.textStart, stays.inRawText_iff consistent]
    exact h.stale
  · rw [stays.rawLt]
    exact h.rawLt

/-- A tag that ends at `there` leaves nothing unfinished in front of it. -/
theorem tagEnd (h : s.Placed slipped stop here) {there : Position} (e : TagEnd there s v)
    (consistent : s.Consistent) (hlt : s.pendingLt = none) (le : here ≤ there)
    (started : ∀ p ∈ s.pending, p.start ≤ here) : v.Placed slipped stop there := by
  have start_le (p : Pending) (hp : p ∈ s.pending) : p.start ≤ there := le_trans (started p hp) le
  have sequenced : v.Sequenced slipped stop there := by
    cases e with
    | leaf hp tag span | scope hp tag span | raw hp tag span =>
      refine h.toSequenced.push rfl rfl ?_ ?_ le ?_
      all_goals simp only [MarkupEvent.span, span]
      · exact h.free _ (.pending (hp ▸ List.mem_cons_self))
      · exact start_le _ (hp ▸ List.mem_cons_self)
      · exact le_rfl
    | nameless hp =>
      refine h.toSequenced.congr ?_ le
      rfl
    | @closing n start ps hp name =>
      have before := start_le (.closingTag n start) (hp ▸ List.mem_cons_self)
      exact h.toSequenced.endTag rfl before le
  have none := e.textStart_eq_none consistent
  refine ⟨sequenced, ?_, ?_, ?_⟩
  · -- What is unfinished starts behind the tag, where everything has ended.
    intro place at'
    rw [e.starts consistent hlt at']
    exact .inl sequenced.ends
  · rw [none]
    exact nofun
  · intro lt hlt
    cases e with
    | raw => exact nomatch hlt
    | leaf | scope | nameless | closing => exact le_trans (h.rawLt lt hlt) le

/-- Inside other markup, a server block is recorded at the price of a slip. -/
theorem takeUp (h : s.Placed slipped stop here) (consistent : s.Consistent)
    (hp : s.pending = p :: ps) (hlt : s.pendingLt = none) {n : Node} (leaf : e.leaf? = some n)
    (span : e.span = ⟨p.start, here.advance c⟩) (started : ∀ place, s.Starts place → place ≤ here)
    (slip : s.resume ≠ [] → slipped) :
    ((s.record e).takeUp ps).Placed slipped stop (here.advance c) := by
  have le := here.le_advance c
  have start : s.Starts p.start := .pending (hp ▸ List.mem_cons_self)
  have ordered : e.span.start ≤ e.span.stop := by
    rw [span]
    exact le_trans (started _ start) le
  have free : s.Free slipped stop e.span.start := by
    rw [span]
    exact h.free _ start
  have stops : e.span.stop = here.advance c := by rw [span]
  have sequenced : ((s.record e).takeUp ps).Sequenced slipped stop (here.advance c) :=
    h.toSequenced.push rfl (MarkupEvent.isEndTag_of_leaf leaf) free ordered le (le_of_eq stops)
  refine ⟨sequenced, ?_, ?_, ?_⟩
  · intro place at'
    by_cases hr : s.resume = []
    · have starts : (s.takeUp ps).Starts place := Starts.of_record (s := s.takeUp ps) at'
      exact absurd starts (consistent.not_starts_takeUp hp hlt hr)
    · -- Whatever the server block has interrupted starts in front of its end.
      have before : place ≤ here := started place (at'.of_takeUp hp).of_record
      have covered : place < e.span.stop := by
        rw [stops]
        exact lt_of_le_of_lt before (here.lt_advance c)
      exact .cover leaf rfl (slip hr) covered
  · intro open' raw
    have suspended : .rawText ∈ (s.record e).resume := inRawText_takeUp.mp raw
    exact h.stale open' (.inr suspended)
  · exact fun lt hlt => le_trans (h.rawLt lt hlt) le

/-- Raw text ends with the element that it belongs to. -/
theorem endRaw (h : s.Placed slipped stop here) (consistent : s.Consistent)
    (mirrored : s.Mirrored stop) (hs : s.state = .rawText) {o : OpenTag} {os : List OpenTag}
    (ho : s.openElements = o :: os) {lt : Position} (hlt : s.rawLt = some lt)
    (started : ∀ place, s.Starts place → place ≤ here) :
    ({ (if s.rawStart < lt then s.record (.text ⟨s.rawStart, lt⟩) else s) with
        rawTail := (c :: s.rawTail).take rawTailLength
        pendingLt := none
        openElements := os
        state := .free }.record (.endTag o.name ⟨lt, here.advance c⟩)).Placed slipped stop
      (here.advance c) := by
  have le := here.le_advance c
  have before := h.rawLt lt hlt
  -- The raw text itself, if there is any, is recorded first.
  have recorded : ∃ events,
      (if s.rawStart < lt then s.record (.text ⟨s.rawStart, lt⟩) else s) = { s with events } ∧
        Sequenced slipped stop here { s with events } ∧ Mirrored stop { s with events } := by
    split
    next nonempty =>
      have start := h.free _ (.raw (.inl hs))
      refine ⟨s.events.push (.text ⟨s.rawStart, lt⟩), rfl, ?_, ?_⟩
      · exact .push (e := .text ⟨s.rawStart, lt⟩) rfl h.toSequenced rfl start (le_of_lt nonempty)
          le_rfl before
      · exact mirrored.record_leaf (e := .text ⟨s.rawStart, lt⟩) rfl
    next => exact ⟨s.events, rfl, h.toSequenced, mirrored⟩
  obtain ⟨events, eq, sequenced, mirrored⟩ := recorded
  have fits := consistent.fits
  rw [hs] at fits
  rw [eq]
  refine ⟨sequenced.endTag rfl (le_trans before le) le, ?_, ?_, ?_⟩
  · intro place at'
    -- Text that was begun where the raw text begins is all that can be left.
    have open' := (at'.of_free rfl fits.1 fits.2).resolve_left nofun
    have slip := h.stale (Option.isSome_of_eq_some open') (.inl hs)
    have behind : place < here.advance c :=
      lt_of_le_of_lt (started place (.text open')) (here.lt_advance c)
    exact .cover_endTag mirrored ho rfl slip behind
  · rintro - (raw | raw)
    · exact nomatch raw
    · exact nomatch fits.2 ▸ raw
  · exact fun lt hlt => le_trans (h.rawLt lt hlt) le

/-- Text between constructs ends where the angle bracket behind it stands. -/
theorem endText (h : s.Placed slipped stop here) {lt : Position} (hlt : s.pendingLt = some lt)
    (le : lt ≤ here) : ({ s with pendingLt := none }.endText lt).Sequenced slipped stop here ∧
      ({ s with pendingLt := none }.endText lt).Free slipped stop lt := by
  have free := h.free lt (.lt hlt)
  obtain same | ⟨start, ht, before, pushed⟩ := events_endText { s with pendingLt := none } lt
  · exact ⟨h.toSequenced.congr same le_rfl, free.congr same⟩
  · -- The text ends in front of the angle bracket, whose place remains free.
    have open' := h.free start (.text ht)
    exact ⟨.push (s := s) pushed h.toSequenced rfl open' (le_of_lt before) le_rfl le,
      free.push (n := .mk (.plain .text) ⟨start, lt⟩ []) rfl pushed le_rfl⟩

/-- A construct between others starts with the angle bracket that ends the text in front of it. -/
theorem opening (h : s.Placed slipped stop here) (consistent : s.Consistent) (hs : s.state = .free)
    {lt : Position} (hlt : s.pendingLt = some lt) (le : lt ≤ here) {state : ScannerState}
    (start : p.start = lt) (suits : p.Suits state) :
    (({ s with pendingLt := none }.endText lt).push p state).Placed slipped stop here := by
  obtain ⟨sequenced, free⟩ := h.endText hlt le
  obtain ⟨events, ended⟩ := endText_eq { s with pendingLt := none } lt
  have fits := consistent.fits
  rw [hs] at fits
  rw [ended] at sequenced free ⊢
  refine ⟨?_, ?_, nofun, h.rawLt⟩
  · refine sequenced.congr ?_ le_rfl
    rfl
  · intro place at'
    obtain before | rfl := at'.of_push suits
    · exact absurd (before.of_free hs fits.1 fits.2) (by simp)
    · rw [start]
      exact free.congr rfl

end Placed

/-- Recording markup inside other markup is a slip. -/
theorem Stays.slips (stays : Stays here s u) (events : v.events = u.events.push e)
    (inner : u.resume ≠ []) : Slips c s v := by
  refine .inl ⟨stays.resume ▸ inner, ?_⟩
  intro same
  -- Recording makes the list of events longer.
  have sizes := congrArg Array.size (events.symm.trans same)
  rw [Array.size_push, stays.events] at sizes
  exact absurd sizes (Nat.succ_ne_self _)

/-- Cutting off the start tag of raw text is a slip. -/
theorem Stays.slips_hold (stays : Stays here s u) (consistent : s.Consistent) (angle : c = '<')
    (e : TagEnd here u v) (raw : v.InRawText) : Slips c s (v.hold here) := by
  obtain ⟨p, q, ps, hp, -⟩ := stays.top
  have reads : s.state ≠ .rawText := fun hs => not_suits_rawText (hs ▸ consistent.suits hp)
  have nothing := e.resume_eq_nil (stays.consistent consistent)
  refine .inr ⟨angle, reads, raw.resolve_right ?_⟩
  rw [nothing]
  exact List.not_mem_nil

/-- No character breaks the order, unless it slips. -/
theorem Turn.placed (turn : Turn c here s u) (h : s.Placed slipped stop here)
    (consistent : s.Consistent) (mirrored : s.Mirrored stop)
    (started : ∀ place, s.Starts place → place ≤ here) (slip : Slips c s u → slipped) :
    u.Placed slipped stop (here.advance c) := by
  have le := here.le_advance c
  have consistent' := turn.consistent consistent
  have starts (place : Position) (at' : u.Starts place) : s.Starts place ∨ here ≤ place :=
    (turn.starts consistent at').imp_right And.left
  cases turn with
  | text hs content hlt =>
    have kept := h.keep starts rfl (fun _ raw => absurd raw (consistent'.not_inRawText hs)) h.rawLt
    exact kept.mono le
  | opening hs hlt start suits =>
    exact (h.opening consistent hs hlt (started _ (.lt hlt)) start suits).mono le
  | suspend hs hlt start suits =>
    have stale (open' : s.textStart.isSome)
        (raw : ScannerState.blockOpen = .rawText ∨ .rawText ∈ s.state :: s.resume) : slipped := by
      obtain raw | raw := raw
      · exact nomatch raw
      · exact h.stale open' ((List.mem_cons.mp raw).imp_left Eq.symm)
    exact (h.keep starts rfl stale h.rawLt).mono le
  | stay stays => exact (h.stays stays consistent).mono le
  | endTag stays hlt e =>
    have pending {w : Skeleton} (stays : Stays here s w) (p : Pending) (hp : p ∈ w.pending) :
        p.start ≤ here :=
      stays.starts_le started (.pending hp)
    exact (h.stays stays consistent).tagEnd e (stays.consistent consistent) hlt le (pending stays)
  | cutTag angle stays hlt e =>
    -- The tag ends in front of the angle bracket. If raw text begins there, text is open around it.
    have ended := (h.stays stays consistent).tagEnd e (stays.consistent consistent) hlt le_rfl
      (fun p hp => stays.starts_le started (.pending hp))
    have none := e.textStart_eq_none (stays.consistent consistent)
    refine (ended.keep (u := Skeleton.hold _ here) ?_ rfl ?_ ended.rawLt).mono le
    · intro place at'
      exact (at'.of_hold none).imp_right ge_of_eq
    · exact fun _ raw => slip (stays.slips_hold consistent angle e raw)
  | endPlain stays hlt hp text =>
    exact (h.stays stays consistent).takeUp (stays.consistent consistent) hp hlt rfl rfl
      (fun _ => stays.starts_le started) (fun inner => slip (stays.slips rfl inner))
  | endDirective stays hlt hp =>
    exact (h.stays stays consistent).takeUp (stays.consistent consistent) hp hlt rfl rfl
      (fun _ => stays.starts_le started) (fun inner => slip (stays.slips rfl inner))
  | endBlock stays hlt hp outermost block =>
    exact (h.stays stays consistent).takeUp (stays.consistent consistent) hp hlt rfl rfl
      (fun _ => stays.starts_le started) (fun inner => absurd outermost inner)
  | dropBlock stays hlt hp =>
    have kept := h.stays stays consistent
    refine (kept.keep (fun _ at' => .inl (at'.of_takeUp hp)) rfl ?_ kept.rawLt).mono le
    exact fun open' raw => kept.stale open' (.inr (inRawText_takeUp.mp raw))
  | rawChar hs other => exact (h.keep starts rfl h.stale h.rawLt).mono le
  | rawAngle hs angle =>
    have rawLt (lt : Position) (hlt : some here = some lt) : lt ≤ here :=
      le_of_eq (Option.some.inj hlt).symm
    exact (h.keep starts rfl h.stale rawLt).mono le
  | endRaw hs he hlt => exact h.endRaw consistent mirrored hs he hlt started

end Skeleton

namespace Scanner

variable {slipped : Prop} {stop : Position} {t : Scanner} {cs : List Char}

/-- Some character of the text slips. -/
def Slips (cs : List Char) : Prop :=
  ∃ before c behind, cs = before ++ c :: behind ∧
    Skeleton.Slips c (({} : Scanner).advanceAll before).skeleton
      ((({} : Scanner).advanceAll before).advance c).skeleton

/-- After every text, what is unfinished starts behind all that has been recorded, unless there was
a slip. -/
theorem placed_advanceAll (stop : Position) (cs : List Char) (slip : Slips cs → slipped) :
    (({} : Scanner).advanceAll cs).skeleton.Placed slipped stop
      (({} : Scanner).advanceAll cs).position := by
  induction cs using List.reverseRecOn with
  | nil =>
    exact
      { ordered := nofun
        ends := nofun
        orderly := fun _ => .nil
        free := fun _ _ => .inl nofun
        stale := nofun
        rawLt := nofun }
  | append_singleton cs c ih =>
    have reached := reached_advanceAll cs
    have earlier : Slips cs → slipped := by
      rintro ⟨before, c', behind, rfl, slips⟩
      exact slip ⟨before, c', behind ++ [c], by simp, slips⟩
    rw [advanceAll_append]
    exact (reached.turn c).placed (ih earlier) reached.consistent (reached.mirrored stop)
      (fun _ => reached.starts_le) (fun slips => slip ⟨cs, c, [], rfl, slips⟩)

@[simp] theorem position_finish (t : Scanner) : t.finish.position = t.position := by
  unfold finish endText
  split
  · simp only [record]
    split
    · split <;> rfl
    · rfl
  · rfl

/-- At the end of the text, what has been recorded stands in order. -/
theorem sequenced_finish (h : t.skeleton.Placed slipped stop t.position) :
    t.finish.skeleton.Sequenced slipped stop t.position := by
  unfold finish
  split
  · rw [skeleton_endText]
    obtain same | ⟨start, ht, before, pushed⟩ := Skeleton.events_endText
      ({ t with
        textHasContent := t.textHasContent || t.pendingLt.isSome
        pendingLt := none } : Scanner).skeleton t.position
    · exact h.toSequenced.congr same le_rfl
    · exact .push (s := t.skeleton) pushed h.toSequenced rfl (h.free start (.text ht))
        (le_of_lt before) le_rfl le_rfl
  · exact h.toSequenced

end Scanner

namespace Node

/-- The tree of a text is that of the events that have been recorded at its end. -/
theorem parse_eq (s : String) :
    parse s = ofEvents (Scanner.readAll s).finish.events.toList (Scanner.readAll s).position := by
  rw [parse, Scanner.position_finish]

variable {s : String}

/-- At the end of a text, what has been recorded stands in order. -/
theorem sequenced_readAll (s : String) :
    (Scanner.readAll s).finish.skeleton.Sequenced (Scanner.Slips s.toList)
      (Scanner.readAll s).position (Scanner.readAll s).position :=
  Scanner.sequenced_finish (Scanner.placed_advanceAll _ s.toList id)

/-- The markup of a well-nested tree has been recorded in order. -/
theorem pairwise_clears_of_wellNested (h : (parse s).WellNested) :
    (Scanner.readAll s).finish.events.toList.Pairwise MarkupEvent.Clears := by
  rw [parse_eq] at h
  exact (sequenced_readAll s).orderly fun _ => FrameStack.nested_of_wellNested h

/-- Markup that has been recorded in order makes a well-nested tree. -/
theorem wellNested_of_pairwise_clears
    (apart : (Scanner.readAll s).finish.events.toList.Pairwise MarkupEvent.Clears) :
    (parse s).WellNested := by
  have sequenced := sequenced_readAll s
  rw [parse_eq]
  exact wellNested_ofEvents apart sequenced.ordered sequenced.ends

/-- The tree of a text is well nested if and only if everything but closing tags starts behind all
that was recorded before it. This is so for every text in which no character slips. -/
theorem wellNested_parse_iff (s : String) :
    ((parse s).WellNested ↔
        (Scanner.readAll s).finish.events.toList.Pairwise MarkupEvent.Clears) ∧
      (¬ Scanner.Slips s.toList → (parse s).WellNested) := by
  refine ⟨⟨pairwise_clears_of_wellNested, wellNested_of_pairwise_clears⟩, ?_⟩
  intro noSlip
  exact wellNested_of_pairwise_clears ((sequenced_readAll s).orderly fun slip => absurd slip noSlip)

/-- A server comment inside a value is recorded in front of the element that it stands in. -/
theorem not_wellNested_comment_in_value : ¬ (parse "<a b=\"<%-- c --%>\">").WellNested := by
  intro h
  have apart := pairwise_clears_of_wellNested h
  revert apart
  decide +kernel

end Node

end WebForms
