import WebForms.Proofs.Scanner.Skeleton

/-!
# The stacks of a scanner fit its state

A server block may begin inside a quoted value or inside raw text, and what it interrupts is
suspended. Only directives have values of their own, so everything below the innermost construct
is a chain of directives that ends at an element, at raw text or between constructs. This chain,
together with two facts about angle brackets, is what every character preserves.

## Main definitions

* `Suspended` — the constructs below the innermost one, and the states to return to
* `ScannerState.Fits` — the constructs that may be pending in a state
* `Skeleton.Consistent` — the invariant

## Main results

* `Skeleton.Turn.consistent` — no character breaks the invariant
-/

namespace WebForms

/-- What a server block has interrupted: constructs, and the states in which they are read. -/
inductive Suspended : List Pending → List ScannerState → Prop
  /-- The server block stands between other constructs. -/
  | nothing : Suspended [] []
  /-- The server block stands in raw text. -/
  | rawText : Suspended [] [.rawText]
  /-- The server block stands in a quoted value of an element. -/
  | element {name : String} {attributes : AttributeSet} {start : Position} {quote : Quote}
      (quoted : quote.closing?.isSome) :
      Suspended [.element name attributes start] [.attributeValue .element quote]
  /-- The server block stands in a quoted value of a directive, which stands in turn where a server
  block may. -/
  | directive {name : String} {attributes : AttributeSet} {start : Position} {quote : Quote}
      {outer : List Pending} {states : List ScannerState} (quoted : quote.closing?.isSome)
      (suspended : Suspended outer states) :
      Suspended (.directive name attributes start :: outer)
        (.attributeValue .directive quote :: states)

/-- The constructs that are pending in a state, given the states to which reading returns. -/
def ScannerState.Fits (pending : List Pending) (resume : List ScannerState) : ScannerState → Prop
  | .free => pending = [] ∧ resume = []
  | .rawText => pending = [] ∧ resume = []
  | state => ∃ p outer, pending = p :: outer ∧ p.Suits state ∧
      if p.isServer then Suspended outer resume else outer = [] ∧ resume = []

section

variable {state : ScannerState} {p : Pending} {pending outer : List Pending}
  {resume : List ScannerState}

/-- A construct and what is suspended below it fit a state in which the construct is read. -/
theorem ScannerState.Fits.of_suits (suits : p.Suits state)
    (below : if p.isServer then Suspended outer resume else outer = [] ∧ resume = []) :
    state.Fits (p :: outer) resume := by
  cases state with
  | free | rawText => cases p <;> exact suits.elim
  | _ => exact ⟨p, outer, rfl, suits, below⟩

/-- Where a construct is pending, it is the one that the state reads. -/
theorem ScannerState.Fits.cons (fits : state.Fits (p :: outer) resume) :
    p.Suits state ∧ if p.isServer then Suspended outer resume else outer = [] ∧ resume = [] := by
  have reads (h : ∃ q rest, p :: outer = q :: rest ∧ q.Suits state ∧
      if q.isServer then Suspended rest resume else rest = [] ∧ resume = []) :
      p.Suits state ∧
        if p.isServer then Suspended outer resume else outer = [] ∧ resume = [] := by
    obtain ⟨q, rest, hcons, suits, below⟩ := h
    obtain ⟨rfl, rfl⟩ := List.cons.inj hcons
    exact ⟨suits, below⟩
  cases state with
  | free | rawText => exact absurd fits.1 (List.cons_ne_nil p outer)
  | _ => exact reads fits

/-- In a state that reads a construct, this construct is the innermost one. -/
theorem ScannerState.Fits.exists_suits (fits : state.Fits pending resume) (hfree : state ≠ .free)
    (hraw : state ≠ .rawText) :
    ∃ p outer, pending = p :: outer ∧ p.Suits state ∧
      if p.isServer then Suspended outer resume else outer = [] ∧ resume = [] := by
  cases state with
  | free => exact absurd rfl hfree
  | rawText => exact absurd rfl hraw
  | _ => exact fits

/-- What lies below a pending construct has been interrupted by a server block. -/
theorem ScannerState.Fits.suspended (fits : state.Fits (p :: outer) resume) :
    Suspended outer resume := by
  obtain ⟨-, below⟩ := fits.cons
  split at below
  · exact below
  · obtain ⟨rfl, rfl⟩ := below
    exact .nothing

/-- Behind a server block, the suspended state is taken up with what it reads. -/
theorem Suspended.fits (h : Suspended outer resume) :
    (resume.headD .free).Fits outer resume.tail := by
  cases h with
  | nothing => exact ⟨rfl, rfl⟩
  | rawText => exact ⟨rfl, rfl⟩
  | element quoted => exact .of_suits rfl ⟨rfl, rfl⟩
  | directive quoted suspended => exact .of_suits rfl suspended

/-- Where a server block may begin, what it interrupts is suspended properly. -/
theorem ScannerState.Fits.suspend (fits : state.Fits pending resume)
    (h : state.InQuotes ∨ state = .rawText) : Suspended pending (state :: resume) := by
  obtain inQuotes | rfl := h
  · -- Only a value is read in quotes, and only two kinds of constructs have values.
    cases state with
    | attributeValue host quote =>
      obtain ⟨p, outer, rfl, suits, below⟩ := fits
      cases p with
      | element n a start =>
        obtain rfl : host = .element := suits
        obtain ⟨rfl, rfl⟩ := below
        exact .element inQuotes
      | directive n a start =>
        obtain rfl : host = .directive := suits
        exact .directive inQuotes below
      | block | closingTag | comment => exact suits.elim
    | _ => exact inQuotes.elim
  · obtain ⟨rfl, rfl⟩ := fits
    exact .rawText

end

namespace Skeleton

/-- Raw text is being read, or a server block inside it. -/
def InRawText (s : Skeleton) : Prop := s.state = .rawText ∨ .rawText ∈ s.resume

/-- The skeletons that texts lead to. -/
structure Consistent (s : Skeleton) : Prop where
  fits : s.state.Fits s.pending s.resume
  /-- Raw text is the content of an element that has such content. -/
  raw : s.InRawText → ∃ e es, s.openElements = e :: es ∧ e.name.isRawText
  /-- Text between constructs is open there, and behind a tag that raw text follows. -/
  text : s.textStart.isSome → s.state = .free ∨ s.InRawText
  /-- An angle bracket is held back only where it may open something. -/
  lt : s.pendingLt.isSome → s.state = .free ∨ s.state = .rawText ∨ s.state.InQuotes
  /-- The place of an angle bracket among the latest characters is known. -/
  rawLt : '<' ∈ s.rawTail → s.rawLt.isSome
  astray : s.astray = false

variable {c : Char} {here stop : Position} {s u v : Skeleton} {p : Pending} {ps : List Pending}

theorem not_suits_free : ¬ p.Suits .free := by
  cases p <;> exact id

theorem not_suits_rawText : ¬ p.Suits .rawText := by
  cases p <;> exact id

/-- While a construct is read, raw text is found among the suspended states only. -/
theorem inRawText_iff_of_suits (suits : p.Suits s.state) : s.InRawText ↔ .rawText ∈ s.resume :=
  or_iff_right fun raw => not_suits_rawText (raw ▸ suits)

section

variable (h : s.Consistent) (hp : s.pending = p :: ps)
include h hp

/-- The innermost construct is the one that is read. -/
theorem Consistent.suits : p.Suits s.state := by
  have fits := h.fits
  rw [hp] at fits
  exact fits.cons.1

/-- A construct of plain markup is the only one. -/
theorem Consistent.alone (server : p.isServer = false) : s.resume = [] ∧ ps = [] := by
  have fits := h.fits
  rw [hp] at fits
  obtain ⟨-, below⟩ := fits.cons
  rw [server] at below
  exact ⟨below.2, below.1⟩

/-- While a construct is read, text between constructs is open only around raw text. -/
theorem Consistent.rawText_mem_resume (open' : s.textStart.isSome) : .rawText ∈ s.resume := by
  have suits := h.suits hp
  obtain free | raw := h.text open'
  · exact absurd (free ▸ suits) not_suits_free
  · exact (inRawText_iff_of_suits suits).mp raw

/-- A construct of plain markup ends the text in front of it. -/
theorem Consistent.textStart_eq_none (server : p.isServer = false) : s.textStart = none := by
  rw [← Option.not_isSome_iff_eq_none]
  intro open'
  have raw := h.rawText_mem_resume hp open'
  rw [(h.alone hp server).1] at raw
  exact nomatch raw

end

/-- A character that belongs to the innermost construct stands in raw text if the construct does. -/
theorem Stays.inRawText_iff (stays : Stays here s u) (h : s.Consistent) :
    u.InRawText ↔ s.InRawText := by
  obtain ⟨p, q, ps, hs, -, -, -, suits⟩ := stays.top
  rw [inRawText_iff_of_suits suits, inRawText_iff_of_suits (h.suits hs), stays.resume]

/-- A character that belongs to the innermost construct leaves everything consistent. -/
theorem Stays.consistent (stays : Stays here s u) (h : s.Consistent) : u.Consistent := by
  have raw := stays.inRawText_iff h
  obtain ⟨p, q, ps, hs, hu, -, server, suits⟩ := stays.top
  refine ⟨?_, ?_, ?_, ?_, ?_, stays.astray.trans h.astray⟩
  · have fits := h.fits
    rw [hs] at fits
    rw [hu, stays.resume]
    exact .of_suits suits (by rw [server]; exact fits.cons.2)
  · rw [raw, stays.openElements]
    exact h.raw
  · -- Text that is open while a construct is read has been left open in front of raw text.
    intro open'
    rw [stays.textStart] at open'
    refine .inr (raw.mpr ?_)
    exact .inr (h.rawText_mem_resume hs open')
  · intro held
    obtain hlt | ⟨-, inQuotes⟩ := stays.lt
    · rw [hlt] at held
      exact absurd held Bool.false_ne_true
    · exact .inr (.inr inQuotes)
  · rw [stays.rawTail, stays.rawLt]
    exact h.rawLt

/-- Between constructs, nothing is pending and nothing suspended. -/
theorem Consistent.ofFree (state : s.state = .free) (pending : s.pending = [])
    (resume : s.resume = []) (rawLt : '<' ∈ s.rawTail → s.rawLt.isSome)
    (astray : s.astray = false) : s.Consistent where
  fits := by
    rw [state]
    exact ⟨pending, resume⟩
  raw := by
    rintro (raw | raw)
    · rw [state] at raw
      exact nomatch raw
    · rw [resume] at raw
      exact nomatch raw
  text := fun _ => .inl state
  lt := fun _ => .inl state
  rawLt := rawLt
  astray := astray

/-- Between constructs, no raw text is read. -/
theorem Consistent.not_inRawText (h : s.Consistent) (hs : s.state = .free) : ¬ s.InRawText := by
  have fits := h.fits
  rw [hs] at fits
  rintro (raw | raw)
  · rw [hs] at raw
    exact nomatch raw
  · rw [fits.2] at raw
    exact nomatch raw

/-- A tag leaves everything consistent, since no other construct is pending or suspended. -/
theorem TagEnd.consistent (e : TagEnd stop s v) (h : s.Consistent) : v.Consistent := by
  cases e with
  | leaf hp | scope hp | nameless hp | closing hp =>
    obtain ⟨hr, rfl⟩ := h.alone hp rfl
    exact .ofFree rfl rfl hr h.rawLt h.astray
  | raw hp tag _ _ rawText =>
    obtain ⟨hr, rfl⟩ := h.alone hp rfl
    exact
      { fits := ⟨rfl, hr⟩
        raw := fun _ => ⟨_, _, rfl, rawText⟩
        text := fun _ => .inr (.inl rfl)
        lt := fun _ => .inr (.inl rfl)
        rawLt := fun angle => nomatch angle
        astray := h.astray }

/-- Holding back an angle bracket behind a tag leaves everything consistent. -/
theorem Consistent.hold (h : s.Consistent) (hs : s.state = .free ∨ s.state = .rawText) :
    (s.hold here).Consistent where
  fits := h.fits
  raw := h.raw
  text := fun _ => hs.imp_right .inl
  lt := fun _ => hs.imp_right .inl
  rawLt := h.rawLt
  astray := h.astray

theorem TagEnd.state_eq (e : TagEnd stop s v) : v.state = .free ∨ v.state = .rawText := by
  cases e with
  | raw => exact .inr rfl
  | leaf | scope | nameless | closing => exact .inl rfl

/-- A tag interrupts nothing. -/
theorem TagEnd.resume_eq_nil (e : TagEnd stop s v) (h : s.Consistent) : v.resume = [] := by
  cases e with
  | leaf hp | scope hp | raw hp | nameless hp | closing hp => exact (h.alone hp rfl).1

/-- What is suspended is raw text, or inside it, when it was so while a construct was read. -/
theorem inRawText_takeUp : (s.takeUp ps).InRawText ↔ .rawText ∈ s.resume := by
  unfold InRawText Skeleton.takeUp
  cases hr : s.resume with
  | nil => simp
  | cons state states =>
    rw [List.headD_cons, List.tail_cons, List.mem_cons, eq_comm]

/-- Behind a server block everything is consistent, whatever has been recorded of it. -/
theorem Consistent.takeUp (h : s.Consistent) (hp : s.pending = p :: ps) (hlt : s.pendingLt = none)
    (events : Array MarkupEvent) : ({ s with events }.takeUp ps).Consistent := by
  have raw : ({ s with events }.takeUp ps).InRawText ↔ .rawText ∈ s.resume := inRawText_takeUp
  have fits := h.fits
  rw [hp] at fits
  exact
    { fits := fits.suspended.fits
      raw := fun inRaw => h.raw (.inr (raw.mp inRaw))
      text := fun open' => .inr (raw.mpr (h.rawText_mem_resume hp open'))
      lt := by
        intro held
        simp [Skeleton.takeUp, hlt] at held
      rawLt := h.rawLt
      astray := h.astray }

/-- A server block may begin where it interrupts a quoted value or raw text. -/
theorem Consistent.suspend (h : s.Consistent) (hs : s.state.InQuotes ∨ s.state = .rawText)
    (suits : p.Suits .blockOpen) :
    ({ s with pendingLt := none, resume := s.state :: s.resume }.push p .blockOpen).Consistent where
  fits := by
    have server : p.isServer := by
      cases p with
      | block => rfl
      | element | directive | closingTag | comment => exact suits.elim
    exact .of_suits suits (by rw [server]; exact h.fits.suspend hs)
  raw := by
    rintro (raw | raw)
    · exact nomatch raw
    · exact h.raw ((List.mem_cons.mp raw).imp_left Eq.symm)
  text := by
    intro open'
    refine .inr (.inr (List.mem_cons.mpr ?_))
    obtain free | raw := h.text open'
    · rw [free] at hs
      exact hs.elim False.elim fun raw => nomatch raw
    · exact raw.imp_left Eq.symm
  lt := fun held => nomatch held
  rawLt := h.rawLt
  astray := h.astray

/-- The text between constructs ends without an effect on what is pending. -/
theorem endText_eq (s : Skeleton) (stop : Position) :
    ∃ events, s.endText stop = { s with textStart := none, textHasContent := false, events } := by
  unfold endText
  cases s.textStart with
  | none => exact ⟨s.events, rfl⟩
  | some start =>
    simp only
    split
    · exact ⟨_, rfl⟩
    · exact ⟨s.events, rfl⟩

/-- When the text between constructs ends, it may be recorded. -/
theorem events_endText (s : Skeleton) (stop : Position) :
    (s.endText stop).events = s.events ∨
      ∃ start, s.textStart = some start ∧ start < stop ∧
        (s.endText stop).events = s.events.push (.text ⟨start, stop⟩) := by
  unfold endText
  cases h : s.textStart with
  | none => exact .inl rfl
  | some start =>
    simp only
    split
    next recorded => exact .inr ⟨start, rfl, recorded.2, rfl⟩
    next => exact .inl rfl

/-- Between constructs, any construct may begin. -/
theorem Consistent.opening (h : s.Consistent) (hs : s.state = .free) {lt : Position}
    {state : ScannerState} (suits : p.Suits state) :
    (({ s with pendingLt := none }.endText lt).push p state).Consistent := by
  obtain ⟨events, ended⟩ := endText_eq { s with pendingLt := none } lt
  rw [ended]
  have fits := h.fits
  rw [hs] at fits
  obtain ⟨hp, hr⟩ := fits
  -- Nothing lies below the new construct, so it does not matter of which kind it is.
  have below : if p.isServer then Suspended s.pending s.resume
      else s.pending = [] ∧ s.resume = [] := by
    split
    · rw [hp, hr]
      exact .nothing
    · exact ⟨hp, hr⟩
  exact
    { fits := .of_suits suits below
      raw := by
        rintro (raw | raw)
        · obtain rfl : state = .rawText := raw
          exact absurd suits not_suits_rawText
        · simp [Skeleton.push, hr] at raw
      text := fun open' => nomatch open'
      lt := fun held => nomatch held
      rawLt := h.rawLt
      astray := h.astray }

/-- The place of every angle bracket but the latest one is known. -/
theorem Consistent.tail (h : s.Consistent) (angle : '<' ∈ (c :: s.rawTail).take rawTailLength) :
    c = '<' ∨ s.rawLt.isSome := by
  obtain rfl | angle := List.mem_cons.mp (List.mem_of_mem_take angle)
  · exact .inl rfl
  · exact .inr (h.rawLt angle)

/-- No character breaks the fit of stacks and state. -/
theorem Turn.consistent (turn : Turn c here s u) (h : s.Consistent) : u.Consistent := by
  cases turn with
  | text hs =>
    have fits := h.fits
    rw [hs] at fits
    exact .ofFree hs fits.1 fits.2 h.rawLt h.astray
  | opening hs hlt start suits => exact h.opening hs suits
  | suspend hs hlt start suits => exact h.suspend hs suits
  | stay stays => exact stays.consistent h
  | endTag stays hlt e => exact e.consistent (stays.consistent h)
  | cutTag angle stays hlt e => exact (e.consistent (stays.consistent h)).hold e.state_eq
  | endPlain stays hlt hp text => exact (stays.consistent h).takeUp hp hlt _
  | endDirective stays hlt hp => exact (stays.consistent h).takeUp hp hlt _
  | endBlock stays hlt hp outermost block => exact (stays.consistent h).takeUp hp hlt _
  | dropBlock stays hlt hp inner => exact (stays.consistent h).takeUp hp hlt _
  | rawChar hs other =>
    exact
      { h with
        lt := fun held => nomatch held
        rawLt := fun angle => (h.tail angle).resolve_left other }
  | rawAngle hs angle =>
    -- This is the angle bracket that is now the latest one.
    exact
      { h with
        lt := fun _ => .inr (.inl hs)
        rawLt := fun _ => rfl }
  | endRaw hs he hlt =>
    have fits := h.fits
    rw [hs] at fits
    split
    · exact .ofFree rfl fits.1 fits.2 (fun _ => Option.isSome_of_eq_some hlt) h.astray
    · exact .ofFree rfl fits.1 fits.2 (fun _ => Option.isSome_of_eq_some hlt) h.astray

end Skeleton

end WebForms
