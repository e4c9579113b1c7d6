import WebForms.Markup.Scanner.Step

/-!
# The skeleton of a scanner

Names, values and texts are gathered character by character, but which constructs are open, what
is suspended and what is recorded follows from a small part of a scanner's state. This part is its
skeleton. A character turns one skeleton into the next in one of a dozen ways; everything that is
said later about constructs and their order is proved from these.

## Main definitions

* `Skeleton`, `Scanner.skeleton` — the part of a scanner that decides the structure
* `Pending.Suits` — the construct that a state reads
* `Pending.Continues`, `Pending.Begins` — an element while more of it is read, and at first
* `Skeleton.Stays` — a character that leaves the same constructs pending
* `Skeleton.TagEnd` — the end of a start tag or closing tag
* `Skeleton.Turn` — what one character may do
-/

namespace WebForms

/-- The state reads a quoted value. -/
def ScannerState.InQuotes : ScannerState → Prop
  | .attributeValue _ quote => quote.closing?.isSome
  | _ => False

namespace Pending

/-- The construct is part of a server block and may stand inside another construct. -/
def isServer : Pending → Bool
  | .directive .. => true
  | .block .. => true
  | .comment .serverComment .. => true
  | _ => false

/-- The construct is what the state reads. -/
def Suits : Pending → ScannerState → Prop
  | .element .., .tagName => True
  | .element .., .tag => True
  | .element .., .attributeName host => host = .element
  | .element .., .attributeValue host _ => host = .element
  | .closingTag .., .closingTag => True
  | .comment kind .., .bang => kind = .comment
  | .comment kind .., .comment => kind = .comment
  | .comment kind .., .docType => kind = .docType
  | .comment kind .., .serverComment => kind = .serverComment
  | .block kind .., .blockOpen => kind = .code
  | .block kind .., .serverCommentOpen => kind = .code
  | .block kind .., .block kind' => kind = kind'
  | .directive .., .directive => True
  | .directive .., .directiveName => True
  | .directive .., .attributeName host => host = .directive
  | .directive .., .attributeValue host _ => host = .directive
  | _, _ => False

/-- Where a name may stand, so may what separates attributes. -/
theorem Suits.between {p : Pending} {host : AttributeHost} (h : p.Suits (.attributeName host)) :
    p.Suits (.between host) := by
  cases p with
  | element n a start =>
    obtain rfl : host = .element := h
    trivial
  | directive n a start =>
    obtain rfl : host = .directive := h
    trivial
  | block | closingTag | comment => exact h.elim

/-- The names and the values of attributes belong to the same constructs. -/
theorem suits_attributeValue {p : Pending} {host : AttributeHost} {quote : Quote} :
    p.Suits (.attributeValue host quote) ↔ p.Suits (.attributeName host) := by
  cases p <;> exact Iff.rfl

/-- The construct with other attributes, if it is one that has them. -/
def withAttributes (attributes : AttributeSet) : Pending → Pending
  | .element name _ start => .element name attributes start
  | .directive name _ start => .directive name attributes start
  | p => p

section

variable (p : Pending) (attributes : AttributeSet)

@[simp] theorem start_withAttributes : (p.withAttributes attributes).start = p.start := by
  cases p <;> rfl

@[simp] theorem isServer_withAttributes :
    (p.withAttributes attributes).isServer = p.isServer := by
  cases p <;> rfl

/-- Which states read a construct does not depend on its attributes. -/
@[simp] theorem suits_withAttributes {state : ScannerState} :
    (p.withAttributes attributes).Suits state ↔ p.Suits state := by
  cases p <;> cases state <;> exact Iff.rfl

end

/-- Which states read a comment does not depend on its text. -/
theorem Suits.comment {kind : PlainKind} {text text' : String} {start : Position}
    {state : ScannerState} (h : (Pending.comment kind text start).Suits state) :
    (Pending.comment kind text' start).Suits state := by
  cases state <;> exact h

/-- From the state `state` to the state `next`, the first construct becomes the second. An element
stays one, with a longer name while the name is read, and with further attributes. Nothing else
becomes an element. -/
def Continues (state next : ScannerState) : Pending → Pending → Prop
  | .element n a start, .element n' a' start' =>
    start' = start ∧ a.names <+: a'.names ∧
      (∃ cs, n'.toList = n.toList ++ cs ∧ ∀ c ∈ cs, isNameChar c) ∧
      (state ≠ .tagName → n' = n ∧ next ≠ .tagName)
  | .element .., _ => False
  | _, .element .. => False
  | _, _ => True

section

variable {p q r : Pending} {state middle next : ScannerState} {n : String} {a : AttributeSet}
  {start : Position}

theorem Continues.trans (first : p.Continues state middle q) (second : q.Continues state next r) :
    p.Continues state next r := by
  cases q with
  | element n' a' start' =>
    -- Elements become elements, and nothing else does.
    cases p with
    | element n a start =>
      cases r with
      | element n'' a'' start'' =>
        obtain ⟨rfl, names, ⟨cs, grown, letters⟩, kept⟩ := first
        obtain ⟨rfl, names', ⟨cs', grown', letters'⟩, kept'⟩ := second
        refine ⟨rfl, names.trans names', ⟨cs ++ cs', ?_, ?_⟩, ?_⟩
        · rw [grown', grown, List.append_assoc]
        · exact List.forall_mem_append.mpr ⟨letters, letters'⟩
        · intro other
          exact ⟨(kept' other).1.trans (kept other).1, (kept' other).2⟩
      | directive | block | closingTag | comment => exact second.elim
    | directive | block | closingTag | comment => exact first.elim
  | directive | block | closingTag | comment =>
    cases p with
    | element => exact first.elim
    | directive | block | closingTag | comment =>
      cases r with
      | element => exact second.elim
      | directive | block | closingTag | comment => trivial

/-- Nothing about a construct has to change when the state does, but a name is not taken up again. -/
theorem continues_self (kept : next ≠ .tagName ∨ next = state) : p.Continues state next p := by
  cases p with
  | element n a start =>
    refine ⟨rfl, List.prefix_refl _, ⟨[], (List.append_nil _).symm, nofun⟩, fun other => ?_⟩
    exact ⟨rfl, kept.elim id fun same => same ▸ other⟩
  | directive | block | closingTag | comment => trivial

/-- A construct that has been read on may be left as it is. -/
theorem Continues.right (h : p.Continues state next q) : q.Continues state next q := by
  cases q with
  | element n a start =>
    cases p with
    | element =>
      obtain ⟨-, -, -, kept⟩ := h
      exact ⟨rfl, List.prefix_refl _, ⟨[], (List.append_nil _).symm, nofun⟩,
        fun other => ⟨rfl, (kept other).2⟩⟩
    | directive | block | closingTag | comment => exact h.elim
  | directive | block | closingTag | comment => trivial

/-- A construct gets further attributes behind its name. -/
theorem continues_withAttributes {attributes : AttributeSet} (other : next ≠ .tagName)
    (names : ∀ a ∈ p.attributes?, a.names <+: attributes.names) :
    p.Continues state next (p.withAttributes attributes) := by
  cases p with
  | element n a start =>
    exact ⟨rfl, names a rfl, ⟨[], (List.append_nil _).symm, nofun⟩, fun _ => ⟨rfl, other⟩⟩
  | directive | block | closingTag | comment => trivial

end

/-- An element begins with the first character of its name, and without attributes. -/
def Begins (c : Char) : Pending → Prop
  | .element n a _ => n.toList = [c] ∧ isNameStart c ∧ a = {}
  | _ => True

end Pending

/-- The part of a scanner's state that decides which constructs there are and where. -/
structure Skeleton where
  state : ScannerState
  pending : List Pending
  openElements : List OpenTag
  resume : List ScannerState
  pendingLt : Option Position
  textStart : Option Position
  textHasContent : Bool
  rawStart : Position
  rawLt : Option Position
  rawTail : List Char
  events : Array MarkupEvent
  astray : Bool

/-- The part of the scanner that decides the structure. -/
def Scanner.skeleton (t : Scanner) : Skeleton where
  state := t.state
  pending := t.pending
  openElements := t.openElements
  resume := t.resume
  pendingLt := t.pendingLt
  textStart := t.textStart
  textHasContent := t.textHasContent
  rawStart := t.rawStart
  rawLt := t.rawLt
  rawTail := t.rawTail
  events := t.events
  astray := t.astray

namespace Skeleton

/-- Records an event. -/
def record (s : Skeleton) (e : MarkupEvent) : Skeleton :=
  { s with events := s.events.push e }

/-- Ends the text between constructs at `stop`. -/
def endText (s : Skeleton) (stop : Position) : Skeleton :=
  let s' := { s with textStart := none, textHasContent := false }
  match s.textStart with
  | some start => if s.textHasContent ∧ start < stop then s'.record (.text ⟨start, stop⟩) else s'
  | none => s'

/-- Holds back an angle bracket that may be part of text. -/
def hold (s : Skeleton) (lt : Position) : Skeleton :=
  { s with textStart := some (s.textStart.getD lt), pendingLt := some lt }

/-- Begins a construct. -/
def push (s : Skeleton) (p : Pending) (state : ScannerState) : Skeleton :=
  { s with pending := p :: s.pending, state }

/-- Takes up again what the innermost server block has suspended. -/
def takeUp (s : Skeleton) (outer : List Pending) : Skeleton :=
  { s with pending := outer, state := s.resume.headD .free, resume := s.resume.tail }

/-- From `s` to `u` the same constructs stay pending, and nothing is recorded, opened or closed. -/
structure Stays (here : Position) (s u : Skeleton) : Prop where
  top : ∃ p q ps, s.pending = p :: ps ∧ u.pending = q :: ps ∧ q.start = p.start ∧
    q.isServer = p.isServer ∧ q.Suits u.state
  continues : ∀ p q ps, s.pending = p :: ps → u.pending = q :: ps →
    p.Continues s.state u.state q
  lt : u.pendingLt = none ∨ u.pendingLt = some here ∧ u.state.InQuotes
  openElements : u.openElements = s.openElements
  resume : u.resume = s.resume
  textStart : u.textStart = s.textStart
  textHasContent : u.textHasContent = s.textHasContent
  rawStart : u.rawStart = s.rawStart
  rawLt : u.rawLt = s.rawLt
  rawTail : u.rawTail = s.rawTail
  events : u.events = s.events
  astray : u.astray = s.astray

section

variable {here : Position} {s u : Skeleton}

/-- The state and the angle bracket may change while the constructs stay what they are. -/
theorem Stays.ofTop {p : Pending} {ps : List Pending} {state : ScannerState} {lt : Option Position}
    (hp : s.pending = p :: ps) (suits : p.Suits state)
    (hlt : lt = none ∨ lt = some here ∧ state.InQuotes)
    (kept : state ≠ .tagName ∨ state = s.state) :
    Stays here s { s with state, pendingLt := lt } where
  top := ⟨p, p, ps, hp, hp, rfl, rfl, suits⟩
  continues := by
    intro p q ps hs hu
    obtain ⟨rfl, -⟩ := List.cons.inj (hs.symm.trans hu)
    exact Pending.continues_self kept
  lt := hlt
  openElements := rfl
  resume := rfl
  textStart := rfl
  textHasContent := rfl
  rawStart := rfl
  rawLt := rfl
  rawTail := rfl
  events := rfl
  astray := rfl

/-- After a character that leaves the same constructs pending, the innermost one, the state and the
angle bracket may still change. -/
theorem Stays.change (h : Stays here s u) {p q : Pending} {ps : List Pending} {state : ScannerState}
    {lt : Option Position} (hp : u.pending = p :: ps) (start : q.start = p.start)
    (server : q.isServer = p.isServer) (suits : q.Suits state)
    (hlt : lt = none ∨ lt = some here ∧ state.InQuotes) (continues : p.Continues s.state state q) :
    Stays here s { u with pending := q :: ps, state, pendingLt := lt } where
  top := by
    obtain ⟨p₀, q₀, ps₀, hs, hu, hstart, hserver, -⟩ := h.top
    obtain ⟨rfl, rfl⟩ := List.cons.inj (hu.symm.trans hp)
    exact ⟨p₀, q, _, hs, rfl, start.trans hstart, server.trans hserver, suits⟩
  continues := by
    intro p₀ q₀ ps₀ hs hu
    obtain ⟨rfl, rfl⟩ := List.cons.inj hu
    exact (h.continues p₀ p ps hs hp).trans continues
  lt := hlt
  openElements := h.openElements
  resume := h.resume
  textStart := h.textStart
  textHasContent := h.textHasContent
  rawStart := h.rawStart
  rawLt := h.rawLt
  rawTail := h.rawTail
  events := h.events
  astray := h.astray

/-- After a character that leaves the same constructs pending, the state may still change. -/
theorem Stays.moveTo (h : Stays here s u) (hlt : u.pendingLt = none) {p : Pending}
    {ps : List Pending} {state : ScannerState} (hp : u.pending = p :: ps)
    (suits : p.Suits state) (other : state ≠ .tagName) : Stays here s { u with state } := by
  have moved := h.change hp rfl rfl suits (.inl hlt) (Pending.continues_self (.inl other))
  rwa [← hp] at moved

/-- After a character that leaves the same constructs pending, an angle bracket may be held back. -/
theorem Stays.holdBack (h : Stays here s u) {lt : Option Position}
    (hlt : lt = none ∨ lt = some here ∧ u.state.InQuotes) :
    Stays here s { u with pendingLt := lt } := by
  obtain ⟨p, q, ps, hs, hp, -, -, suits⟩ := h.top
  have held := h.change hp rfl rfl suits hlt (h.continues p q ps hs hp).right
  rwa [← hp] at held

end

/-- The effect of a start tag or closing tag that ends at `stop`. -/
inductive TagEnd (stop : Position) (s : Skeleton) : Skeleton → Prop
  /-- A start tag behind which there is no content. -/
  | leaf {name : String} {attributes : AttributeSet} {start : Position} {ps : List Pending}
      (hp : s.pending = .element name attributes start :: ps) (tag : Tag)
      (span : tag.startTag = ⟨start, stop⟩) (closed : tag.selfClosing || tag.name.isVoid)
      (named : tag.name = TagName.parse name) (attrs : tag.attributes = attributes) :
      TagEnd stop s ({ s with pending := ps, state := .free }.record (.startTag tag false))
  /-- A start tag with markup behind it. -/
  | scope {name : String} {attributes : AttributeSet} {start : Position} {ps : List Pending}
      (hp : s.pending = .element name attributes start :: ps) (tag : Tag)
      (span : tag.startTag = ⟨start, stop⟩) (opens : !(tag.selfClosing || tag.name.isVoid))
      (markup : !tag.name.isRawText)
      (named : tag.name = TagName.parse name) (attrs : tag.attributes = attributes) :
      TagEnd stop s ({ s with
        pending := ps
        state := .free
        openElements := ⟨tag.name, tag.attributes, tag.startTag⟩ :: s.openElements }.record
          (.startTag tag true))
  /-- A start tag with raw text behind it. -/
  | raw {name : String} {attributes : AttributeSet} {start : Position} {ps : List Pending}
      (hp : s.pending = .element name attributes start :: ps) (tag : Tag)
      (span : tag.startTag = ⟨start, stop⟩) (opens : !(tag.selfClosing || tag.name.isVoid))
      (rawText : tag.name.isRawText)
      (named : tag.name = TagName.parse name) (attrs : tag.attributes = attributes) :
      TagEnd stop s ({ s with
        pending := ps
        state := .rawText
        rawStart := stop
        rawLt := none
        rawTail := []
        openElements := ⟨tag.name, tag.attributes, tag.startTag⟩ :: s.openElements }.record
          (.startTag tag true))
  /-- A closing tag without a name. -/
  | nameless {name : String} {start : Position} {ps : List Pending}
      (hp : s.pending = .closingTag name start :: ps) :
      TagEnd stop s { s with pending := ps, state := .free }
  /-- A closing tag. -/
  | closing {name : String} {start : Position} {ps : List Pending}
      (hp : s.pending = .closingTag name start :: ps) (tagName : TagName) :
      TagEnd stop s ({ s with
        pending := ps
        state := .free
        openElements := Scanner.closeInnermost tagName s.openElements }.record
          (.endTag tagName ⟨start, stop⟩))

/-- What the character `c` at `here` may do. -/
inductive Turn (c : Char) (here : Position) (s : Skeleton) : Skeleton → Prop
  /-- It is text between constructs, or may be. -/
  | text (hs : s.state = .free) (content : Bool) {lt : Option Position}
      (hlt : lt = none ∨ lt = some here) :
      Turn c here s { s with
        textStart := some (s.textStart.getD here), textHasContent := content, pendingLt := lt }
  /-- With the angle bracket in front of it, it opens a construct between others. -/
  | opening (hs : s.state = .free) {lt : Position} (hlt : s.pendingLt = some lt) {p : Pending}
      {state : ScannerState} (start : p.start = lt) (suits : p.Suits state)
      (begins : p.Begins c) :
      Turn c here s (({ s with pendingLt := none }.endText lt).push p state)
  /-- With the angle bracket in front of it, it opens a server block inside a quoted value or raw
  text. -/
  | suspend (hs : s.state.InQuotes ∨ s.state = .rawText) {lt : Position}
      (hlt : s.pendingLt = some lt) {p : Pending} (start : p.start = lt)
      (suits : p.Suits .blockOpen) :
      Turn c here s
        ({ s with pendingLt := none, resume := s.state :: s.resume }.push p .blockOpen)
  /-- It is part of the innermost construct. -/
  | stay {u : Skeleton} (h : Stays here s u) : Turn c here s u
  /-- It ends a tag. -/
  | endTag {u v : Skeleton} (h : Stays here s u) (hlt : u.pendingLt = none)
      (e : TagEnd (here.advance c) u v) : Turn c here s v
  /-- It is an angle bracket behind a tag that has not been ended. -/
  | cutTag {u v : Skeleton} (angle : c = '<') (h : Stays here s u) (hlt : u.pendingLt = none)
      (e : TagEnd here u v) : Turn c here s (v.hold here)
  /-- It ends a comment or declaration. -/
  | endPlain {u : Skeleton} (h : Stays here s u) (hlt : u.pendingLt = none) {kind : PlainKind}
      {text : String} {start : Position} {ps : List Pending}
      (hp : u.pending = .comment kind text start :: ps) (text' : String) :
      Turn c here s ((u.record (.plain kind text' ⟨start, here.advance c⟩)).takeUp ps)
  /-- It ends a directive. -/
  | endDirective {u : Skeleton} (h : Stays here s u) (hlt : u.pendingLt = none) {name : String}
      {attributes : AttributeSet} {start : Position} {ps : List Pending}
      (hp : u.pending = .directive name attributes start :: ps) :
      Turn c here s
        ((u.record (.directive ⟨name, attributes⟩ ⟨start, here.advance c⟩)).takeUp ps)
  /-- It ends a server block that stands between other constructs. -/
  | endBlock {u : Skeleton} (h : Stays here s u) (hlt : u.pendingLt = none) {kind : BlockKind}
      {text raw : String} {start textStart : Position} {ps : List Pending}
      (hp : u.pending = .block kind text raw start textStart :: ps) (outermost : u.resume = [])
      (block : ServerBlock) :
      Turn c here s ((u.record (.block block ⟨start, here.advance c⟩)).takeUp ps)
  /-- It ends a server block inside a value or raw text, of which nothing is recorded. -/
  | dropBlock {u : Skeleton} (h : Stays here s u) (hlt : u.pendingLt = none) {kind : BlockKind}
      {text raw : String} {start textStart : Position} {ps : List Pending}
      (hp : u.pending = .block kind text raw start textStart :: ps) (inner : u.resume ≠ []) :
      Turn c here s (u.takeUp ps)
  /-- It is raw text. -/
  | rawChar (hs : s.state = .rawText) (other : c ≠ '<') :
      Turn c here s { s with
        rawTail := (c :: s.rawTail).take rawTailLength, pendingLt := none }
  /-- It is an angle bracket in raw text. -/
  | rawAngle (hs : s.state = .rawText) (angle : c = '<') :
      Turn c here s { s with
        rawTail := (c :: s.rawTail).take rawTailLength, pendingLt := some here
        rawLt := some here }
  /-- It ends raw text and the closing tag behind it. -/
  | endRaw (hs : s.state = .rawText) {e : OpenTag} {es : List OpenTag}
      (he : s.openElements = e :: es) {lt : Position} (hlt : s.rawLt = some lt) :
      Turn c here s
        ({ (if s.rawStart < lt then s.record (.text ⟨s.rawStart, lt⟩) else s) with
            rawTail := (c :: s.rawTail).take rawTailLength
            pendingLt := none
            openElements := es
            state := .free }.record (.endTag e.name ⟨lt, here.advance c⟩))

end Skeleton

end WebForms
