import WebForms.Proofs.Scanner.Runs
import WebForms.Proofs.Text.Places
import WebForms.Proofs.Tree.Positions

/-!
# What a scanner keeps of the text

A scanner notes where a construct begins while it is still unknown what it will be, carries the
place along while the construct is renamed or interrupted, and gathers its text character by
character. Everything that it keeps in this way is compared with the text that has been read: what
is pending has begun there, and what is held back stands there.

## Main definitions

* `MarkupEvent.Delimits`, `MarkupEvent.Stands` — the marks with which the source of a construct
  begins and ends, and markup that stands in a text
* `Pending.Reads`, `Pending.Waits` — the source so far of the construct that is being read, and of
  one that another has interrupted
* `Memory`, `Memory.Found` — what a scanner keeps, and that it stands in the text
-/

namespace WebForms

open Text

namespace MarkupEvent

/-- The source `body` of the markup begins and ends with the marks of its kind, and what is recorded
of a comment or declaration is the text between them. A start tag that has not been ended goes on up
to the next angle bracket. -/
def Delimits (body behind : List Char) : MarkupEvent → Prop
  | .startTag tag _ =>
    '<' :: tag.name.qualified.toList <+: body ∧ (['>'] <:+ body ∨ ['<'] <+: behind)
  | .directive .. => ['<', '%', '@'] <+: body ∧ ['%', '>'] <:+ body
  | .block .. => ['<', '%'] <+: body ∧ ['%', '>'] <:+ body
  | .plain .comment content _ => body = ['<', '!', '-', '-'] ++ content.toList ++ ['-', '-', '>']
  | .plain .serverComment content _ =>
    body = ['<', '%', '-', '-'] ++ content.toList ++ ['-', '-', '%', '>']
  | .plain .docType content _ => body = ['<', '!'] ++ content.toList ++ ['>']
  | .plain .text _ _ => False
  | .text _ => True
  | .endTag _ _ => True

/-- The markup stands in the text, with its marks around it. -/
structure Stands (text : List Char) (e : MarkupEvent) : Prop where
  divides : ∃ before body behind, e.span.Divides text before body behind ∧ e.Delimits body behind
  inner : ∀ p ∈ e.innerPositions, IsPlace text p

end MarkupEvent

namespace Pending

/-- What is known of the source so far of a construct, when `cs` has been read. -/
def Source (state : ScannerState) (dash : Bool) (cs body : List Char) : Pending → Prop
  | .element name _ _ =>
    (∃ c rest, name.toList = c :: rest ∧ isNameStart c) ∧ '<' :: name.toList <+: body ∧
      (state = .tagName → body = '<' :: name.toList)
  | .directive .. => ['<', '%', '@'] <+: body
  | .block _ _ _ _ textStart =>
    ['<', '%'] <+: body ∧ (state = .blockOpen → body = ['<', '%']) ∧
      (state = .serverCommentOpen → body = ['<', '%', '-']) ∧ IsPlace cs textStart
  | .closingTag .. => True
  | .comment .comment content _ =>
    (state = .bang → content = "" ∧ body = ['<', '!'] ++ if dash then ['-'] else []) ∧
      (state ≠ .bang → body = ['<', '!', '-', '-'] ++ content.toList)
  | .comment .docType content _ => body = ['<', '!'] ++ content.toList
  | .comment .serverComment content _ => body = ['<', '%', '-', '-'] ++ content.toList
  | .comment .text _ _ => False

/-- The construct begins in `cs`, and has been read up to the end of it. -/
def Reads (cs : List Char) (state : ScannerState) (dash : Bool) (p : Pending) : Prop :=
  ∃ before body, cs = before ++ body ∧ p.start = place before ∧ p.Source state dash cs body

/-- The construct has been interrupted in a value and goes on behind `cs`. -/
def Waits (cs : List Char) (p : Pending) : Prop :=
  ∀ host quote dash, p.Suits (.attributeValue host quote) →
    p.Reads cs (.attributeValue host quote) dash

variable {p q : Pending} {text cs ds behind : List Char} {state state' : ScannerState}
  {dash dash' : Bool} {host : AttributeHost} {e : MarkupEvent}

/-- A construct that has attributes may go on with any text. -/
theorem Source.goOn {body : List Char} (h : p.Source state dash cs body)
    (hosts : p.Suits (.attributeName host)) (other : state' ≠ .tagName) :
    p.Source state' dash' (cs ++ ds) (body ++ ds) := by
  cases p with
  | element name a start =>
    obtain ⟨named, opening, -⟩ := h
    exact ⟨named, opening.trans (List.prefix_append _ _), fun hs => absurd hs other⟩
  | directive name a start => exact List.IsPrefix.trans h (List.prefix_append _ _)
  | block | closingTag | comment => exact hosts.elim

theorem Source.move {body : List Char} (h : p.Source state dash cs body)
    (hosts : p.Suits (.attributeName host)) (other : state' ≠ .tagName) :
    p.Source state' dash' cs body := by
  have moved : p.Source state' dash' (cs ++ []) (body ++ []) := h.goOn hosts other
  simpa only [List.append_nil] using moved

@[simp] theorem source_withAttributes (a : AttributeSet) {body : List Char} :
    (p.withAttributes a).Source state dash cs body ↔ p.Source state dash cs body := by
  cases p <;> exact Iff.rfl

/-- What is read next belongs to the construct. -/
theorem Reads.next (h : p.Reads cs state dash) (start : q.start = p.start)
    (source : ∀ body, p.Source state dash cs body →
      q.Source state' dash' (cs ++ ds) (body ++ ds)) : q.Reads (cs ++ ds) state' dash' := by
  obtain ⟨before, body, rfl, begins, read⟩ := h
  exact ⟨before, body ++ ds, by rw [List.append_assoc], start.trans begins, source body read⟩

/-- A construct that has attributes may be interrupted. -/
theorem Reads.waits (h : p.Reads cs state dash) (hosts : p.Suits (.attributeName host)) :
    p.Waits (cs ++ ds) := by
  intro host' quote dash' suits
  exact h.next rfl fun body read => read.goOn hosts nofun

/-- While other text is read, a construct waits. -/
theorem Waits.append (h : p.Waits cs) (ds : List Char) : p.Waits (cs ++ ds) := by
  intro host quote dash suits
  exact (h host quote dash suits).waits (suits_attributeValue.mp suits) host quote dash suits

/-- A construct that ends behind `ds` stands in the text when it has its marks. -/
theorem Reads.stands (h : p.Reads cs state dash) (split : text = cs ++ ds ++ behind)
    (span : e.span = ⟨p.start, place (cs ++ ds)⟩)
    (marks : ∀ before body, cs = before ++ body → p.Source state dash cs body →
      e.Delimits (body ++ ds) behind)
    (inner : ∀ place ∈ e.innerPositions,
      place = e.span.start ∨ place = e.span.stop ∨ IsPlace cs place) : e.Stands text := by
  have inside : cs <+: text := ⟨ds ++ behind, by rw [split, List.append_assoc]⟩
  obtain ⟨before, body, rfl, begins, read⟩ := h
  -- The source is what has been read of the construct, with its end.
  have divides : e.span.Divides text before (body ++ ds) behind :=
    { split := by simp [split]
      start := by rw [span, begins]
      stop := by rw [span, List.append_assoc] }
  refine ⟨⟨before, body ++ ds, behind, divides, marks before body rfl read⟩, ?_⟩
  intro place hplace
  obtain rfl | rfl | kept := inner place hplace
  · exact divides.isPlace_start
  · exact divides.isPlace_stop
  · exact kept.of_inside inside

end Pending

/-! ### What a scanner keeps -/

/-- What a scanner keeps of the text: the constructs that are pending, and places. -/
structure Memory where
  state : ScannerState
  pending : List Pending
  dash : Bool
  lt : Option Position
  places : List Position
  events : Array MarkupEvent

/-- What the scanner keeps of the text. -/
def Scanner.memory (t : Scanner) : Memory where
  state := t.state
  pending := t.pending
  dash := t.bangDash
  lt := t.pendingLt
  places := t.rawStart :: (t.textStart.toList ++ t.rawLt.toList)
  events := t.events

namespace Memory

/-- What is kept stands in the text, of which `cs` has been read. -/
structure Found (text cs : List Char) (m : Memory) : Prop where
  top : ∀ p ps, m.pending = p :: ps → p.Reads cs m.state m.dash
  outer : ∀ p ∈ m.pending.tail, p.Waits cs
  /-- An angle bracket that is held back is the latest character. -/
  lt : ∀ lt, m.lt = some lt → ∃ before, cs = before ++ ['<'] ∧ lt = place before
  places : ∀ p ∈ m.places, IsPlace cs p
  events : ∀ e ∈ m.events, e.Stands text

variable {text cs ds : List Char} {c : Char} {m : Memory} {p q : Pending}
  {pending ps : List Pending} {state : ScannerState} {dash : Bool} {lt : Option Position}
  {resume : List ScannerState} {events : Array MarkupEvent}

/-- What is read next belongs to the innermost construct. -/
theorem Found.change (h : m.Found text cs) (hp : m.pending = p :: ps) (hq : pending = q :: ps)
    (start : q.start = p.start)
    (source : ∀ body, p.Source m.state m.dash cs body →
      q.Source state dash (cs ++ ds) (body ++ ds))
    (hlt : lt = none ∨ lt = some (place cs) ∧ ds = ['<']) :
    { m with pending, state, dash, lt }.Found text (cs ++ ds) where
  top := by
    subst hq
    rintro _ _ ⟨⟩
    exact (h.top p ps hp).next start source
  outer := by
    intro r hr
    have waits := h.outer r
    rw [hp] at waits
    rw [hq] at hr
    exact (waits hr).append ds
  lt := by
    rintro place' held
    obtain rfl | ⟨rfl, rfl⟩ := hlt
    · exact nomatch held
    · exact ⟨cs, rfl, (Option.some.inj held).symm⟩
  places := fun place hplace => (h.places place hplace).append ds
  events := h.events

/-- The innermost construct may be seen in another way, without reading on. -/
theorem Found.exchange (h : m.Found text cs) (hp : m.pending = p :: ps) (hq : pending = q :: ps)
    (start : q.start = p.start)
    (source : ∀ body, p.Source m.state m.dash cs body → q.Source state dash cs body)
    (hlt : lt = none) : { m with pending, state, dash, lt }.Found text cs := by
  have changed : { m with pending, state, dash, lt }.Found text (cs ++ []) := by
    refine h.change hp hq start (fun body read => ?_) (.inl hlt)
    simpa only [List.append_nil] using source body read
  rwa [List.append_nil] at changed

/-- A new construct begins inside others that wait for its end. -/
theorem Found.push (h : m.Found text cs) (reads : p.Reads (cs ++ ds) state dash)
    (waits : ∀ q ∈ m.pending, q.Waits (cs ++ ds)) (hlt : lt = none) :
    { m with pending := p :: m.pending, state, dash, lt }.Found text (cs ++ ds) where
  top := by
    rintro _ _ ⟨⟩
    exact reads
  outer := waits
  lt := fun place held => nomatch hlt.symm.trans held
  places := fun place hplace => (h.places place hplace).append ds
  events := h.events

/-- Where no construct is pending, only places and events are kept. -/
theorem Found.of_nil (hp : m.pending = [])
    (hlt : ∀ lt, m.lt = some lt → ∃ before, cs = before ++ ['<'] ∧ lt = place before)
    (places : ∀ p ∈ m.places, IsPlace cs p) (events : ∀ e ∈ m.events, e.Stands text) :
    m.Found text cs where
  top := fun p ps hcons => nomatch hp.symm.trans hcons
  outer := by
    rw [hp]
    exact nofun
  lt := hlt
  places := places
  events := events

/-- Behind a server block, what it has interrupted is taken up. -/
theorem Found.takeUp (h : m.Found text cs) (hp : m.pending = p :: ps)
    (suspended : Suspended ps resume) (hlt : lt = none) (he : ∀ e ∈ events, e.Stands text) :
    { m with pending := ps, state := resume.headD .free, lt, events }.Found text (cs ++ ds) := by
  have waits : ∀ r ∈ ps, r.Waits (cs ++ ds) := by
    intro r hr
    have outer := h.outer r
    rw [hp] at outer
    exact (outer hr).append ds
  refine ⟨?_, ?_, ?_, ?_, he⟩
  · intro r rs hr
    -- Only an element or a directive can have been interrupted, inside a quoted value.
    cases suspended with
    | nothing | rawText => exact nomatch hr
    | element quoted =>
      obtain ⟨rfl, rfl⟩ := List.cons.inj hr
      exact waits _ List.mem_cons_self _ _ _ rfl
    | directive quoted rest =>
      obtain ⟨rfl, rfl⟩ := List.cons.inj hr
      exact waits _ List.mem_cons_self _ _ _ rfl
  · exact fun r hr => waits r (List.mem_of_mem_tail hr)
  · intro place held
    exact nomatch hlt.symm.trans held
  · exact fun place hplace => (h.places place hplace).append ds

end Memory

end WebForms
