import WebForms.Proofs.Scanner.Runs
import WebForms.Proofs.Text.PositionOrder

/-!
# Where unfinished markup starts

Markup that has been read without being recorded starts at one of few places: at an angle bracket
that is held back, where a pending construct starts, or where the text between constructs or the raw
text does. A character keeps these places or drops them; a new one can only be where the character
stands, or right behind it.

## Main definitions

* `Skeleton.Starts` — the places at which unfinished markup starts

## Main results

* `Skeleton.Turn.starts` — the places after a character
* `Scanner.Reached.starts_le` — what is unfinished has been read
-/

namespace WebForms

namespace Skeleton

/-- The places where markup starts that has not been recorded. -/
inductive Starts (s : Skeleton) : Position → Prop
  | lt {p : Position} (h : s.pendingLt = some p) : Starts s p
  | pending {q : Pending} (h : q ∈ s.pending) : Starts s q.start
  | text {p : Position} (h : s.textStart = some p) : Starts s p
  | raw (h : s.InRawText) : Starts s s.rawStart

variable {c : Char} {here stop place : Position} {s u v : Skeleton} {p : Pending}
  {ps : List Pending}

/-- When the constructs, the text and the raw text are among what there was before, only an angle
bracket can be new. -/
theorem Starts.of_kept (starts : u.Starts place) (pending : ∀ q ∈ u.pending, q ∈ s.pending)
    (text : ∀ place, u.textStart = some place → s.textStart = some place)
    (raw : u.InRawText → s.InRawText) (rawStart : u.rawStart = s.rawStart) :
    u.pendingLt = some place ∨ s.Starts place := by
  cases starts with
  | lt held => exact .inl held
  | pending hq => exact .inr (.pending (pending _ hq))
  | text open' => exact .inr (.text (text _ open'))
  | raw inRaw =>
    rw [rawStart]
    exact .inr (.raw (raw inRaw))

/-- A character that belongs to the innermost construct adds at most an angle bracket. -/
theorem Stays.starts (stays : Stays here s u) (starts : u.Starts place) :
    s.Starts place ∨ place = here := by
  obtain ⟨p, q, ps, hs, hu, start, -, suits⟩ := stays.top
  cases starts with
  | lt hlt =>
    obtain none | ⟨some, -⟩ := stays.lt
    · rw [hlt] at none
      exact nomatch none
    · rw [hlt] at some
      exact .inr (Option.some.inj some)
  | @pending q' hq =>
    rw [hu] at hq
    obtain rfl | hq := List.mem_cons.mp hq
    · rw [start]
      exact .inl (.pending (hs ▸ List.mem_cons_self))
    · exact .inl (.pending (hs ▸ List.mem_cons_of_mem p hq))
  | text open' => exact .inl (.text (stays.textStart ▸ open'))
  | raw raw =>
    rw [stays.rawStart]
    rw [inRawText_iff_of_suits suits, stays.resume] at raw
    exact .inl (.raw (.inr raw))

/-- What is unfinished after a character that belongs to the innermost construct has been read. -/
theorem Stays.starts_le (stays : Stays here s u) (started : ∀ place, s.Starts place → place ≤ here)
    (starts : u.Starts place) : place ≤ here := by
  obtain before | eq := stays.starts starts
  · exact started place before
  · exact le_of_eq eq

/-- Where no construct is pending, only text and an angle bracket can be unfinished. -/
theorem Starts.of_free (starts : s.Starts place) (state : s.state = .free)
    (pending : s.pending = []) (resume : s.resume = []) :
    s.pendingLt = some place ∨ s.textStart = some place := by
  cases starts with
  | lt h => exact .inl h
  | pending hq =>
    rw [pending] at hq
    exact nomatch hq
  | text h => exact .inr h
  | raw raw =>
    obtain raw | raw := raw
    · rw [state] at raw
      exact nomatch raw
    · rw [resume] at raw
      exact nomatch raw

/-- A tag leaves no text open. -/
theorem TagEnd.textStart_eq_none (e : TagEnd stop s v) (h : s.Consistent) : v.textStart = none := by
  cases e with
  | leaf hp | scope hp | raw hp | nameless hp | closing hp => exact h.textStart_eq_none hp rfl

theorem TagEnd.pendingLt_eq (e : TagEnd stop s v) : v.pendingLt = s.pendingLt := by
  cases e <;> rfl

/-- Behind a tag nothing is unfinished but the raw text that follows. -/
theorem TagEnd.starts (e : TagEnd stop s v) (h : s.Consistent) (hlt : s.pendingLt = none)
    (starts : v.Starts place) : place = stop := by
  have nothing : ¬ (v.pendingLt = some place ∨ v.textStart = some place) := by
    rw [e.pendingLt_eq, hlt, e.textStart_eq_none h]
    exact fun found => found.elim nofun nofun
  cases e with
  | leaf hp | scope hp | nameless hp | closing hp =>
    obtain ⟨hr, rfl⟩ := h.alone hp rfl
    exact absurd (starts.of_free rfl rfl hr) nothing
  | raw hp =>
    -- The raw text starts right behind the tag.
    obtain ⟨-, rfl⟩ := h.alone hp rfl
    cases starts with
    | lt held => exact absurd (.inl held) nothing
    | pending hq => exact nomatch hq
    | text open' => exact absurd (.inr open') nothing
    | raw => rfl

/-- Holding back an angle bracket adds its place. -/
theorem Starts.of_hold (starts : (s.hold here).Starts place) (text : s.textStart = none) :
    s.Starts place ∨ place = here := by
  cases starts with
  | lt held => exact .inr (Option.some.inj held).symm
  | pending hq => exact .inl (.pending hq)
  | text open' =>
    rw [hold, text] at open'
    exact .inr (Option.some.inj open').symm
  | raw raw => exact .inl (.raw raw)

/-- What is recorded has no effect on what is unfinished. -/
theorem Starts.of_record {e : MarkupEvent} (starts : (s.record e).Starts place) :
    s.Starts place := by
  obtain held | before := starts.of_kept (s := s) (fun _ hq => hq) (fun _ open' => open') id rfl
  · exact .lt held
  · exact before

/-- When a construct ends, nothing begins. -/
theorem Starts.of_takeUp (starts : (s.takeUp ps).Starts place) (hp : s.pending = p :: ps) :
    s.Starts place := by
  have outer (q : Pending) (hq : q ∈ ps) : q ∈ s.pending := hp ▸ List.mem_cons_of_mem p hq
  have suspended (raw : (s.takeUp ps).InRawText) : s.InRawText := .inr (inRawText_takeUp.mp raw)
  obtain held | before := starts.of_kept outer (fun _ open' => open') suspended rfl
  · exact .lt held
  · exact before

/-- Behind a construct that has interrupted nothing, nothing is unfinished. -/
theorem Consistent.not_starts_takeUp (h : s.Consistent) (hp : s.pending = p :: ps)
    (hlt : s.pendingLt = none) (hr : s.resume = []) : ¬ (s.takeUp ps).Starts place := by
  intro starts
  have fits := h.fits
  rw [hp, hr] at fits
  have state : (s.takeUp ps).state = .free := by
    simp only [Skeleton.takeUp, hr, List.headD_nil]
  have resume : (s.takeUp ps).resume = [] := by
    simp only [Skeleton.takeUp, hr, List.tail_nil]
  have pending : ps = [] := by
    cases fits.suspended
    rfl
  obtain held | open' := starts.of_free state pending resume
  · cases hlt.symm.trans held
  · have raw := h.rawText_mem_resume hp (Option.isSome_of_eq_some open')
    rw [hr] at raw
    cases raw

/-- A construct starts with the angle bracket that opens it. -/
theorem Starts.of_push {state : ScannerState} (starts : (s.push p state).Starts place)
    (suits : p.Suits state) : s.Starts place ∨ place = p.start := by
  cases starts with
  | lt held => exact .inl (.lt held)
  | pending hq =>
    obtain rfl | hq := List.mem_cons.mp hq
    · exact .inr rfl
    · exact .inl (.pending hq)
  | text open' => exact .inl (.text open')
  | raw raw =>
    have pushed : (s.push p state).InRawText ↔ .rawText ∈ s.resume := inRawText_iff_of_suits suits
    exact .inl (.raw (.inr (pushed.mp raw)))

/-- Where unfinished markup starts, it did so before, unless it starts with the character or behind
it. -/
theorem Turn.starts (turn : Turn c here s u) (h : s.Consistent) (starts : u.Starts place) :
    s.Starts place ∨ here ≤ place ∧ place ≤ here.advance c := by
  have atHere {place : Position} (eq : place = here) : here ≤ place ∧ place ≤ here.advance c := by
    rw [eq]
    exact ⟨le_rfl, Position.le_advance here c⟩
  cases turn with
  | text hs content hlt =>
    have fits := h.fits
    rw [hs] at fits
    obtain held | open' := starts.of_free hs fits.1 fits.2
    · obtain none | some := hlt
      · exact nomatch none.symm.trans held
      · exact .inr (atHere (Option.some.inj (held.symm.trans some)))
    · -- The text goes on if there was some, and starts with the character otherwise.
      cases ht : s.textStart with
      | none =>
        simp only [ht, Option.getD_none, Option.some.injEq] at open'
        exact .inr (atHere open'.symm)
      | some start =>
        simp only [ht, Option.getD_some, Option.some.injEq] at open'
        exact .inl (.text (ht.trans (congrArg some open')))
  | @opening hs lt hlt q state start suits =>
    -- The construct takes over the place of the angle bracket that was held back.
    obtain ⟨events, ended⟩ := endText_eq { s with pendingLt := none } lt
    rw [ended] at starts
    obtain starts | rfl := starts.of_push suits
    · obtain held | before := starts.of_kept (s := s) (fun _ hq => hq) nofun id rfl
      · exact nomatch held
      · exact .inl before
    · exact .inl (.lt (start ▸ hlt))
  | suspend hs hlt start suits =>
    obtain starts | rfl := starts.of_push suits
    · have around (raw : s.state = .rawText ∨ .rawText ∈ s.state :: s.resume) : s.InRawText :=
        raw.elim .inl fun mem => (List.mem_cons.mp mem).imp_left Eq.symm
      obtain held | before :=
        starts.of_kept (s := s) (fun _ hq => hq) (fun _ open' => open') around rfl
      · exact nomatch held
      · exact .inl before
    · exact .inl (.lt (start ▸ hlt))
  | stay stays => exact (stays.starts starts).imp_right atHere
  | endTag stays hlt e =>
    obtain rfl := e.starts (stays.consistent h) hlt starts
    exact .inr ⟨Position.le_advance here c, le_rfl⟩
  | cutTag angle stays hlt e =>
    have consistent := stays.consistent h
    obtain starts | eq := starts.of_hold (e.textStart_eq_none consistent)
    · exact .inr (atHere (e.starts consistent hlt starts))
    · exact .inr (atHere eq)
  | endPlain stays hlt hp | endDirective stays hlt hp | endBlock stays hlt hp =>
    exact (stays.starts (starts.of_takeUp hp).of_record).imp_right atHere
  | dropBlock stays hlt hp => exact (stays.starts (starts.of_takeUp hp)).imp_right atHere
  | rawChar hs other =>
    obtain held | before := starts.of_kept (s := s) (fun _ hq => hq) (fun _ open' => open') id rfl
    · exact nomatch held
    · exact .inl before
  | rawAngle hs angle =>
    obtain held | before := starts.of_kept (s := s) (fun _ hq => hq) (fun _ open' => open') id rfl
    · exact .inr (atHere (Option.some.inj held).symm)
    · exact .inl before
  | endRaw hs he hlt =>
    have fits := h.fits
    rw [hs] at fits
    have ended := starts.of_record
    -- Whether there was raw text to record makes no difference to what is unfinished.
    split at ended
    · exact .inl (.text ((ended.of_free rfl fits.1 fits.2).resolve_left nofun))
    · exact .inl (.text ((ended.of_free rfl fits.1 fits.2).resolve_left nofun))

end Skeleton

namespace Scanner

variable {t : Scanner} {place : Position}

/-- Unfinished markup starts with a character that has been read. -/
theorem Reached.starts_le (h : t.Reached) (starts : t.skeleton.Starts place) :
    place ≤ t.position := by
  induction h generalizing place with
  | start =>
    obtain held | open' := starts.of_free rfl rfl rfl
    · exact nomatch held
    · exact nomatch open'
  | @advance t h c ih =>
    obtain before | ⟨-, behind⟩ := (h.turn c).starts h.consistent starts
    · exact le_trans (ih before) (t.position.le_advance c)
    · exact behind

end Scanner

end WebForms
