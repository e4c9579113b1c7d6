import WebForms.Proofs.Scanner.BlockOpenings
import WebForms.Proofs.Scanner.EventOrder
import WebForms.Proofs.Tree.Preorder

/-!
# The start tag around a place

Where a scanner stands between the attributes of a start tag, it has read the name of the element
and some of its attributes. Whatever the text goes on with, a start tag that is recorded in the end
stands in front of this place, or behind it, or it is the one that was being read: then it has this
name, and its attributes begin with those that had been read.

## Main definitions

* `CutTag` — what has been read of a start tag at some place
* `CutTag.Fits` — a start tag that is apart from the place, or goes on from it
* `Skeleton.Encloses` — the invariant of reading on

## Main results

* `Node.exists_prefix_of_mem_tags` — the element of the tree in whose start tag a place lies
-/

namespace WebForms

/-- What has been read of a start tag, up to the place `here`. -/
structure CutTag where
  name : String
  attributes : AttributeSet
  start : Position
  here : Position

namespace CutTag

/-- An element begins behind the place, or is the one around it. -/
def Continued (k : CutTag) : Pending → Prop
  | .element n a start =>
    k.here ≤ start ∨ start = k.start ∧ n = k.name ∧ k.attributes.names <+: a.names
  | _ => True

/-- A start tag ends in front of the place or starts behind it, or is the one around it. -/
def Fits (k : CutTag) (tag : Tag) : Prop :=
  tag.startTag.stop ≤ k.here ∨ k.here ≤ tag.startTag.start ∨
    tag.startTag.start = k.start ∧ tag.name = TagName.parse k.name ∧
      k.attributes.names <+: tag.attributes.names

variable {k : CutTag} {p q : Pending} {state next : ScannerState} {c : Char}

/-- What is read on stays where it is, provided that its name has been read. -/
theorem Continued.continues (h : k.Continued p) (naming : state = .tagName → k.here ≤ p.start)
    (continues : p.Continues state next q) : k.Continued q := by
  cases q with
  | element n' a' start' =>
    cases p with
    | element n a start =>
      obtain ⟨rfl, more, -, kept⟩ := continues
      obtain behind | ⟨same, rfl, names⟩ := h
      · exact .inl behind
      · by_cases hs : state = .tagName
        · exact .inl (naming hs)
        · exact .inr ⟨same, (kept hs).1, names.trans more⟩
    | directive | block | closingTag | comment => exact continues.elim
  | directive | block | closingTag | comment => trivial

end CutTag

/-- No name of an element is interrupted by a server block. -/
theorem Suspended.headD_ne_tagName {outer : List Pending} {resume : List ScannerState}
    (h : Suspended outer resume) : resume.headD .free ≠ .tagName := by
  cases h with
  | nothing | rawText | element | directive => exact nofun

namespace Skeleton

/-- Start tags that are read or recorded stand in front of the place or behind it, but for the one
around it. -/
structure Encloses (k : CutTag) (s : Skeleton) : Prop where
  pending : ∀ p ∈ s.pending, k.Continued p
  /-- The name of the element around the place is not read again. -/
  naming : s.state = .tagName → ∀ p ∈ s.pending, k.here ≤ p.start
  lt : ∀ lt, s.pendingLt = some lt → k.here ≤ lt
  events : ∀ tag opensScope, .startTag tag opensScope ∈ s.events → k.Fits tag

variable {k : CutTag} {c : Char} {here stop : Position} {s u v : Skeleton} {p : Pending}
  {ps : List Pending} {e : MarkupEvent}

namespace Encloses

/-- Other markup than a start tag may be recorded. -/
theorem record (h : s.Encloses k) (other : ∀ tag opensScope, e ≠ .startTag tag opensScope) :
    (s.record e).Encloses k where
  pending := h.pending
  naming := h.naming
  lt := h.lt
  events := by
    intro tag opensScope recorded
    rcases Array.mem_push.mp recorded with before | now
    · exact h.events tag opensScope before
    · exact absurd now.symm (other tag opensScope)

theorem endText (h : s.Encloses k) (stop : Position) : (s.endText stop).Encloses k := by
  obtain ⟨events, ended⟩ := endText_eq s stop
  have kept : ∀ tag opensScope, .startTag tag opensScope ∈ events → k.Fits tag := by
    obtain same | ⟨start, -, -, pushed⟩ := events_endText s stop
    · rw [ended] at same
      obtain rfl : events = s.events := same
      exact h.events
    · rw [ended] at pushed
      obtain rfl : events = s.events.push (.text ⟨start, stop⟩) := pushed
      have recorded := h.record (e := .text ⟨start, stop⟩) fun _ _ => nofun
      exact recorded.events
  rw [ended]
  exact ⟨h.pending, h.naming, h.lt, kept⟩

/-- The innermost construct is read on. -/
theorem stays (h : s.Encloses k) (stays : Stays here s u) (le : k.here ≤ here) :
    u.Encloses k := by
  obtain ⟨p, q, ps, hs, hu, start, -, suits⟩ := stays.top
  have continues := stays.continues p q ps hs hu
  have innermost : p ∈ s.pending := hs ▸ List.mem_cons_self
  have outer : ∀ r ∈ ps, r ∈ s.pending := fun r hr => hs ▸ List.mem_cons_of_mem p hr
  refine ⟨?_, ?_, ?_, ?_⟩
  · rw [hu]
    refine List.forall_mem_cons.mpr ⟨?_, fun r hr => h.pending r (outer r hr)⟩
    exact (h.pending p innermost).continues (fun named => h.naming named p innermost) continues
  · intro named
    -- A name is read only where it was read before.
    have before : s.state = .tagName := by
      by_contra other
      cases q with
      | element =>
        cases p with
        | element => exact (continues.2.2.2 other).2 named
        | directive | block | closingTag | comment => exact continues.elim
      | directive | block | closingTag | comment =>
        rw [named] at suits
        exact suits.elim
    have behind := h.naming before
    rw [hu]
    refine List.forall_mem_cons.mpr ⟨?_, fun r hr => behind r (outer r hr)⟩
    rw [start]
    exact behind p innermost
  · intro lt hlt
    obtain none | ⟨some, -⟩ := stays.lt
    · cases none.symm.trans hlt
    · obtain rfl := Option.some.inj (some.symm.trans hlt)
      exact le
  · rw [stays.events]
    exact h.events

/-- Where a construct ends, those around it are read on. -/
theorem drop (h : s.Encloses k) (hp : s.pending = p :: ps) (state : ScannerState)
    (other : state ≠ .tagName) : ({ s with pending := ps, state } : Skeleton).Encloses k where
  pending := (List.forall_mem_cons.mp (hp ▸ h.pending)).2
  naming := fun named => absurd named other
  lt := h.lt
  events := h.events

/-- A start tag that ends has what was read of it. -/
theorem fits {name : String} {attributes : AttributeSet} {start : Position} {tag : Tag}
    (h : s.Encloses k) (hp : s.pending = .element name attributes start :: ps)
    (span : tag.startTag = ⟨start, stop⟩) (named : tag.name = TagName.parse name)
    (attrs : tag.attributes = attributes) : k.Fits tag := by
  have read : k.Continued (.element name attributes start) :=
    h.pending _ (hp ▸ List.mem_cons_self)
  unfold CutTag.Fits
  rw [span, named, attrs]
  obtain behind | ⟨same, rfl, names⟩ := read
  · exact .inr (.inl behind)
  · exact .inr (.inr ⟨same, rfl, names⟩)

/-- A start tag may be recorded when it is apart from the place, or around it. -/
theorem recordTag (h : s.Encloses k) {tag : Tag} (fits : k.Fits tag) (opensScope : Bool) :
    (s.record (.startTag tag opensScope)).Encloses k where
  pending := h.pending
  naming := h.naming
  lt := h.lt
  events := by
    intro tag' opensScope' recorded
    rcases Array.mem_push.mp recorded with before | now
    · exact h.events tag' opensScope' before
    · obtain ⟨rfl, -⟩ := MarkupEvent.startTag.inj now
      exact fits

theorem tagEnd (h : s.Encloses k) (e : TagEnd stop s v) : v.Encloses k := by
  cases e with
  | leaf hp tag span _ named attrs =>
    exact (h.drop hp .free nofun).recordTag (h.fits hp span named attrs) false
  | scope hp tag span _ _ named attrs | raw hp tag span _ _ named attrs =>
    have ended := (h.drop hp .free nofun).recordTag (h.fits hp span named attrs) true
    exact ⟨ended.pending, nofun, ended.lt, ended.events⟩
  | nameless hp => exact h.drop hp _ nofun
  | @closing name start ps hp tagName =>
    have ended := (h.drop hp .free nofun).record (e := .endTag tagName ⟨start, stop⟩) fun _ _ => nofun
    exact ⟨ended.pending, nofun, ended.lt, ended.events⟩

/-- Behind a server block, what it has interrupted is read on, and that is no name. -/
theorem takeUp (h : s.Encloses k) (consistent : s.Consistent) (hp : s.pending = p :: ps) :
    (s.takeUp ps).Encloses k := by
  have fits := consistent.fits
  rw [hp] at fits
  have dropped := h.drop hp _ fits.suspended.headD_ne_tagName
  exact ⟨dropped.pending, dropped.naming, dropped.lt, dropped.events⟩

/-- Behind the place, any construct may begin. -/
theorem push (h : s.Encloses k) (behind : k.here ≤ p.start) {state : ScannerState}
    (naming : state = .tagName → s.pending = []) : (s.push p state).Encloses k where
  pending := by
    refine List.forall_mem_cons.mpr ⟨?_, h.pending⟩
    cases p with
    | element => exact .inl behind
    | directive | block | closingTag | comment => trivial
  naming := by
    intro named
    rw [Skeleton.push, naming named]
    exact List.forall_mem_singleton.mpr behind
  lt := h.lt
  events := h.events

end Encloses

/-- Whatever a character does, start tags stand apart from the place, but for the one around it. -/
theorem Turn.encloses (turn : Turn c here s u) (h : s.Encloses k) (consistent : s.Consistent)
    (le : k.here ≤ here) : u.Encloses k := by
  have free (hs : s.state = .free) : s.pending = [] := by
    have fits := consistent.fits
    rw [hs] at fits
    exact fits.1
  have atHere {lt : Position} (held : some here = some lt) : k.here ≤ lt :=
    Option.some.inj held ▸ le
  cases turn with
  | text hs content hlt =>
    refine ⟨h.pending, h.naming, ?_, h.events⟩
    obtain rfl | rfl := hlt
    · exact nofun
    · exact fun _ => atHere
  | @opening hs lt hlt p state start suits begins =>
    have unheld : ({ s with pendingLt := none } : Skeleton).Encloses k :=
      ⟨h.pending, h.naming, nofun, h.events⟩
    have ended := unheld.endText lt
    obtain ⟨events, eq⟩ := endText_eq { s with pendingLt := none } lt
    rw [eq] at ended ⊢
    refine ended.push ?_ fun _ => free hs
    rw [start]
    exact h.lt lt hlt
  | @suspend hs lt hlt p start suits =>
    have unheld :
        ({ s with pendingLt := none, resume := s.state :: s.resume } : Skeleton).Encloses k :=
      ⟨h.pending, h.naming, nofun, h.events⟩
    refine unheld.push ?_ fun named => nomatch named
    rw [start]
    exact h.lt lt hlt
  | stay stays => exact h.stays stays le
  | endTag stays hlt e => exact (h.stays stays le).tagEnd e
  | cutTag angle stays hlt e =>
    have ended := (h.stays stays le).tagEnd e
    exact ⟨ended.pending, ended.naming, fun _ => atHere, ended.events⟩
  | endPlain stays hlt hp | endDirective stays hlt hp | endBlock stays hlt hp =>
    have kept := (h.stays stays le).takeUp (stays.consistent consistent) hp
    exact kept.record fun _ _ => nofun
  | dropBlock stays hlt hp => exact (h.stays stays le).takeUp (stays.consistent consistent) hp
  | rawChar hs => exact ⟨h.pending, h.naming, nofun, h.events⟩
  | rawAngle hs => exact ⟨h.pending, h.naming, fun _ => atHere, h.events⟩
  | @endRaw hs e es he lt hlt =>
    refine Encloses.record ?_ fun _ _ => nofun
    split
    · have recorded := h.record (e := .text ⟨s.rawStart, lt⟩) fun _ _ => nofun
      exact ⟨recorded.pending, nofun, nofun, recorded.events⟩
    · exact ⟨h.pending, nofun, nofun, h.events⟩

end Skeleton

namespace Scanner

variable {t : Scanner} {k : CutTag} {cs ds : List Char} {n : String} {a : AttributeSet}
  {start : Position}

/-! ### Between the attributes of a start tag -/

/-- Between the attributes of a start tag, the element is all that is pending. -/
theorem Reached.exists_element (h : t.Reached) (hs : t.state = .tag) :
    ∃ n a start, t.pending = [.element n a start] := by
  have fits := h.consistent.fits
  rw [show t.skeleton.state = .tag from hs] at fits
  obtain ⟨p, outer, hp, suits, below⟩ := fits
  cases p with
  | element n a start =>
    obtain ⟨rfl, -⟩ := below
    exact ⟨n, a, start, hp⟩
  | directive | block | closingTag | comment => exact suits.elim

/-- An angle bracket is not found between the attributes of a start tag, since it cuts the tag
off. -/
theorem Reached.lastChar_ne (h : t.Reached) (hs : t.state = .tag) : t.lastChar ≠ some '<' := by
  cases h with
  | start => exact nofun
  | @advance t h c =>
    intro angle
    obtain rfl : c = '<' := Option.some.inj angle
    have hs : (t.step '<').state = .tag := hs
    obtain held | readsOn := t.step_angle
    · have state := held.state
      rw [hs] at state
      obtain free | raw | inQuotes := state
      · cases free
      · cases raw
      · exact inQuotes
    · obtain content | directive | ⟨kind, block⟩ := readsOn
      · rw [hs] at content
        exact absurd content Bool.false_ne_true
      · cases hs.symm.trans directive
      · cases hs.symm.trans block

/-- At the place itself, everything that is recorded stands in front of it. -/
theorem encloses_of_tag (hs : (({} : Scanner).advanceAll cs).state = .tag)
    (hp : (({} : Scanner).advanceAll cs).pending = [.element n a start]) :
    (({} : Scanner).advanceAll cs).skeleton.Encloses
      ⟨n, a, start, (({} : Scanner).advanceAll cs).position⟩ := by
  have consistent := (reached_advanceAll cs).consistent
  have placed := placed_advanceAll {} cs id
  generalize ({} : Scanner).advanceAll cs = t at hs hp consistent placed ⊢
  refine ⟨?_, ?_, ?_, ?_⟩
  · rw [show t.skeleton.pending = _ from hp]
    exact List.forall_mem_singleton.mpr (.inr ⟨rfl, rfl, List.prefix_refl _⟩)
  · intro named
    cases hs.symm.trans named
  · intro lt held
    have somewhere := consistent.lt (Option.isSome_of_eq_some held)
    rw [show t.skeleton.state = .tag from hs] at somewhere
    obtain free | raw | inQuotes := somewhere
    · cases free
    · cases raw
    · exact inQuotes.elim
  · intro tag opensScope recorded
    exact .inl (placed.ends _ (Array.mem_toList_iff.mpr recorded))

/-- Reading on, start tags stand apart from the place, but for the one around it. -/
theorem Reached.encloses (h : t.Reached) (encloses : t.skeleton.Encloses k)
    (le : k.here ≤ t.position) (ds : List Char) : (t.advanceAll ds).skeleton.Encloses k := by
  induction ds generalizing t with
  | nil => exact encloses
  | cons c ds ih =>
    have turned := (h.turn c).encloses encloses h.consistent le
    exact ih (h.advance c) turned (le_trans le (t.position.le_advance c))

/-- At the end of the text nothing but text is recorded. -/
theorem encloses_finish (h : t.skeleton.Encloses k) : t.finish.skeleton.Encloses k := by
  unfold finish
  split
  · rw [skeleton_endText]
    have unheld : ({ t.skeleton with
        textHasContent := t.textHasContent || t.pendingLt.isSome
        pendingLt := none } : Skeleton).Encloses k :=
      ⟨h.pending, h.naming, nofun, h.events⟩
    exact unheld.endText _
  · exact h

end Scanner

/-- An element of the tree in whose start tag a place between the attributes lies is the one that
was being read there: its attributes begin with those that had been read. -/
theorem Node.exists_prefix_of_mem_tags {cs ds : List Char} {tag : Tag}
    (hs : (({} : Scanner).advanceAll cs).state = .tag)
    (mem : tag ∈ (parse (String.ofList (cs ++ ds))).tags)
    (before : tag.startTag.start < (({} : Scanner).advanceAll cs).position)
    (behind : (({} : Scanner).advanceAll cs).position < tag.startTag.stop) :
    ∃ n a, (({} : Scanner).advanceAll cs).pending = [.element n a tag.startTag.start] ∧
      tag.name = TagName.parse n ∧ a.names <+: tag.attributes.names := by
  have reached := Scanner.reached_advanceAll cs
  obtain ⟨n, a, start, hp⟩ := reached.exists_element hs
  have encloses := Scanner.encloses_finish
    (reached.encloses (Scanner.encloses_of_tag hs hp) le_rfl ds)
  rw [parse_eq, Scanner.readAll, String.toList_ofList, Scanner.advanceAll_append] at mem
  obtain ⟨recorded, opensScope, found, name, attributes, span⟩ := exists_startTag_of_mem_tags mem
  have fits := encloses.events recorded opensScope (Array.mem_toList_iff.mp found)
  unfold CutTag.Fits at fits
  rw [name, attributes, span] at fits
  obtain ends | starts | ⟨same, named, names⟩ := fits
  · exact absurd ends (not_le_of_gt behind)
  · exact absurd starts (not_le_of_gt before)
  · exact ⟨n, a, same ▸ hp, named, names⟩

end WebForms
