import WebForms.Proofs.Scanner.Readings

/-!
# Recorded markup stands in the text

When a construct is complete, the span that is recorded covers a piece of the text that begins and
ends with the marks of the construct. Each character keeps what a scanner remembers in agreement
with the text, function by function and then for all of a text.

## Main results

* `Scanner.found_step`, `Scanner.found_advanceAll` — what is kept agrees with the text, after a
  character and after all of them
* `Scanner.delimits_of_mem_events` — recorded markup begins and ends with its marks
* `Scanner.offsetOf?_position` — where a scanner is can be looked up in the whole text
-/

namespace WebForms

open Text

/-- What ends with a character ends with two once another one is read. -/
private theorem isSuffix_of_getLast? {before body : List Char} {d : Char}
    (last : (before ++ body).getLast? = some d) (nonempty : body ≠ []) (c : Char) :
    [d, c] <:+ body ++ [c] := by
  obtain rfl | ⟨init, e, rfl⟩ := body.eq_nil_or_concat
  · exact absurd rfl nonempty
  · rw [List.concat_eq_append, ← List.append_assoc, List.getLast?_concat] at last
    obtain rfl := Option.some.inj last
    exact ⟨init, by simp⟩

namespace Scanner

open Memory Pending

variable {t : Scanner} {text cs ds behind : List Char} {c : Char} {p : Pending}
  {ps : List Pending} {host : AttributeHost} {quote : Quote}

/-! ### Between constructs -/

/-- Text between places is recorded without marks. -/
theorem stands_text {start stop : Position} (hstart : IsPlace text start)
    (hstop : IsPlace text stop) (lt : start < stop) :
    (MarkupEvent.text ⟨start, stop⟩).Stands text := by
  obtain ⟨before, body, behind, divides⟩ :=
    Span.Divides.exists_of_isPlace hstart hstop (le_of_lt lt)
  exact ⟨⟨before, body, behind, divides, trivial⟩, nofun⟩

/-- Once more markup is recorded, all of it stands in the text. -/
theorem stands_push {events : Array MarkupEvent} {e : MarkupEvent}
    (h : ∀ e ∈ events, e.Stands text) (he : e.Stands text) :
    ∀ e' ∈ events.push e, e'.Stands text := by
  intro e' mem
  obtain mem | rfl := Array.mem_push.mp mem
  · exact h e' mem
  · exact he

theorem found_endText (h : t.memory.Found text cs) (inside : cs <+: text) {stop : Position}
    (hstop : IsPlace cs stop) : (t.endText stop).memory.Found text cs := by
  unfold endText
  cases ht : t.textStart with
  | none =>
    have places (p : Position) (mem : p ∈ t.rawStart :: t.rawLt.toList) : IsPlace cs p :=
      h.places p (by simpa [memory, ht] using mem)
    exact ⟨h.top, h.outer, h.lt, places, h.events⟩
  | some start =>
    have hstart : IsPlace cs start := h.places start (by simp [memory, ht])
    have kept : ∀ p ∈ t.rawStart :: t.rawLt.toList, IsPlace cs p := by
      intro p hp
      refine h.places p ?_
      simp only [memory, List.mem_cons, List.mem_append] at hp ⊢
      exact hp.imp_right .inr
    simp only
    split
    next recorded =>
      exact ⟨h.top, h.outer, h.lt, kept, stands_push h.events
        (stands_text (hstart.of_inside inside) (hstop.of_inside inside) recorded.2)⟩
    next => exact ⟨h.top, h.outer, h.lt, kept, h.events⟩

theorem found_inText (h : t.memory.Found text cs) (here : t.position = place cs)
    (hp : t.pending = []) (hlt : t.pendingLt = none) :
    (t.inText c).memory.Found text (cs ++ [c]) := by
  -- Text between constructs begins here, unless it has begun before.
  have started : IsPlace (cs ++ [c]) (t.textStart.getD t.position) := by
    cases ht : t.textStart with
    | none =>
      rw [Option.getD_none, here]
      exact (isPlace_end cs).append [c]
    | some start =>
      exact (h.places start (by simp [memory, ht])).append [c]
  have kept : ∀ p ∈ t.rawStart :: ([t.textStart.getD t.position] ++ t.rawLt.toList),
      IsPlace (cs ++ [c]) p := by
    intro p hp
    simp only [List.mem_cons, List.mem_append, List.not_mem_nil, or_false] at hp
    obtain rfl | rfl | hp := hp
    · exact (h.places _ List.mem_cons_self).append [c]
    · exact started
    · exact (h.places p (by simp [memory, hp])).append [c]
  unfold inText
  split
  next angle =>
    refine .of_nil hp ?_ kept h.events
    intro lt hlt
    exact ⟨cs, by rw [angle], here ▸ (Option.some.inj hlt).symm⟩
  next =>
    refine .of_nil hp ?_ kept h.events
    intro lt held
    exact nomatch hlt.symm.trans held

@[simp] theorem pending_endText (t : Scanner) (stop : Position) :
    (t.endText stop).pending = t.pending := by
  unfold endText
  split
  · simp only [record]
    split <;> rfl
  · rfl

@[simp] theorem pendingLt_endText (t : Scanner) (stop : Position) :
    (t.endText stop).pendingLt = t.pendingLt := by
  unfold endText
  split
  · simp only [record]
    split <;> rfl
  · rfl

theorem found_inFree (h : t.memory.Found text cs) (inside : cs <+: text)
    (here : t.position = place cs) (hp : t.pending = []) :
    (t.inFree c).memory.Found text (cs ++ [c]) := by
  unfold inFree
  cases hlt : t.pendingLt with
  | none => exact found_inText h here hp hlt
  | some lt =>
    obtain ⟨before, split, rfl⟩ := h.lt lt hlt
    -- The bracket is no longer held back, whatever it opens.
    have unheld : ({ t with pendingLt := none } : Scanner).memory.Found text cs :=
      .of_nil hp nofun h.places h.events
    have isPlace : IsPlace cs (place before) := ⟨before, ⟨['<'], split.symm⟩, rfl⟩
    have ended := found_endText unheld inside isPlace
    -- The construct begins with the angle bracket and the character behind it.
    have opened {p : Pending} {state : ScannerState} {dash : Bool} (start : p.start = place before)
        (source : p.Source state dash (cs ++ [c]) ['<', c]) :
        { (({ t with pendingLt := none } : Scanner).endText (place before)).memory with
          pending := p :: (({ t with pendingLt := none } : Scanner).endText (place before)).pending
          state, dash }.Found text (cs ++ [c]) := by
      refine ended.push ⟨before, ['<', c], by simp [split], start, source⟩ ?_
        (pendingLt_endText _ _)
      simp [memory, hp]
    simp only
    split_ifs with percent slash bang name
    · subst percent
      refine opened rfl ⟨List.prefix_rfl, fun _ => rfl, nofun, ?_⟩
      rw [here, ← place_concat]
      exact isPlace_end _
    · exact opened rfl trivial
    · subst bang
      exact opened rfl ⟨fun _ => ⟨rfl, rfl⟩, fun other => absurd rfl other⟩
    · exact opened rfl ⟨⟨c, [], by simp, name⟩, by simp, fun _ => by simp⟩
    · exact found_inText (t := { t with pendingLt := none, textHasContent := true }) unheld here hp
        rfl

/-! ### Tags -/

@[simp] theorem pending_endStartTag {n : String} {a : AttributeSet} {start : Position}
    (hp : t.pending = .element n a start :: ps) (stop : Position) :
    (t.endStartTag stop).pending = ps := by
  unfold endStartTag
  simp only [hp, record]
  split <;> rfl

@[simp] theorem pending_endClosingTag {n : String} {start : Position}
    (hp : t.pending = .closingTag n start :: ps) (stop : Position) :
    (t.endClosingTag stop).pending = ps := by
  simp only [endClosingTag, hp]
  split <;> rfl

/-- A name begins with no colon. -/
theorem qualified_parse_of_isNameStart {name : String}
    (h : ∃ c rest, name.toList = c :: rest ∧ isNameStart c) :
    (TagName.parse name).qualified = name := by
  obtain ⟨c, rest, eq, start⟩ := h
  refine TagName.qualified_parse ?_
  intro cs colon
  obtain ⟨rfl, -⟩ := List.cons.inj (eq.symm.trans colon)
  exact absurd start (by decide)

/-- A start tag ends with an angle bracket or in front of one. -/
theorem found_endStartTag (h : t.memory.Found text cs) (hlt : t.pendingLt = none) {n : String}
    {a : AttributeSet} {start : Position} (hp : t.pending = [.element n a start])
    (split : text = cs ++ ds ++ behind) (ends : ds = ['>'] ∨ ds = [] ∧ ['<'] <+: behind) :
    (t.endStartTag (place (cs ++ ds))).memory.Found text (cs ++ ds) := by
  have reads := h.top _ _ hp
  -- What else the event says of the tag makes no difference to its source.
  have stands (closed opens : Bool) :
      (MarkupEvent.startTag
        { name := TagName.parse n, attributes := a, startTag := ⟨start, place (cs ++ ds)⟩
          selfClosing := closed } opens).Stands text := by
    refine reads.stands split rfl ?_ ?_
    · rintro before body - ⟨named, opening, -⟩
      refine ⟨?_, ?_⟩
      · rw [qualified_parse_of_isNameStart named]
        exact opening.trans (List.prefix_append _ _)
      · obtain rfl | ⟨-, cut⟩ := ends
        · exact .inl (List.suffix_append _ _)
        · exact .inr cut
    · simp [MarkupEvent.innerPositions, NodeKind.positions, MarkupEvent.span]
  have held (lt : Position) (hl : t.pendingLt = some lt) :
      ∃ before, cs ++ ds = before ++ ['<'] ∧ lt = place before := by
    rw [hlt] at hl
    cases hl
  unfold endStartTag
  simp only [hp, record]
  split
  · -- Raw text begins where the tag ends.
    refine .of_nil rfl held ?_ (stands_push h.events (stands _ _))
    intro place' hplace
    obtain rfl | hplace := List.mem_cons.mp hplace
    · exact isPlace_end _
    · refine (h.places place' (List.mem_cons_of_mem _ ?_)).append ds
      exact List.mem_append_left _ (by simpa using hplace)
  · exact .of_nil rfl held (fun place' hplace => (h.places place' hplace).append ds)
      (stands_push h.events (stands _ _))

theorem found_endClosingTag (h : t.memory.Found text cs) (hlt : t.pendingLt = none) {n : String}
    {start : Position} (hp : t.pending = [.closingTag n start])
    (split : text = cs ++ ds ++ behind) :
    (t.endClosingTag (place (cs ++ ds))).memory.Found text (cs ++ ds) := by
  have stands : (MarkupEvent.endTag (TagName.parse n) ⟨start, place (cs ++ ds)⟩).Stands text :=
    (h.top _ _ hp).stands split rfl (fun _ _ _ _ => trivial) nofun
  have held (lt : Position) (hl : t.pendingLt = some lt) :
      ∃ before, cs ++ ds = before ++ ['<'] ∧ lt = place before :=
    nomatch hlt.symm.trans hl
  have places (place' : Position) (hplace : place' ∈ t.memory.places) :
      IsPlace (cs ++ ds) place' := (h.places place' hplace).append ds
  simp only [endClosingTag, hp]
  split
  · exact .of_nil rfl held places h.events
  · exact .of_nil rfl held places (stands_push h.events stands)

section

variable {rest : List Char} (h : t.memory.Found text cs) (split : text = cs ++ c :: rest)
  (here : t.position = place cs) (hlt : t.pendingLt = none)
include h split here hlt

/-- The tag ends with the character. -/
theorem found_closeTag {n : String} {a : AttributeSet} {start : Position}
    (hp : t.pending = [.element n a start]) (close : c = '>') :
    (t.endStartTag (t.position.advance c)).memory.Found text (cs ++ [c]) := by
  have split' : text = cs ++ [c] ++ rest := by simp [split]
  rw [here, ← place_concat]
  exact found_endStartTag h hlt hp split' (.inl (by rw [close]))

/-- The tag ends in front of the character, which is an angle bracket. -/
theorem found_cutTag {n : String} {a : AttributeSet} {start : Position}
    (hp : t.pending = [.element n a start]) (angle : c = '<') :
    ((t.endStartTag t.position).inFree c).memory.Found text (cs ++ [c]) := by
  -- The tag takes nothing more, and the character begins the next construct.
  have ended : (t.endStartTag (place (cs ++ []))).memory.Found text (cs ++ []) :=
    found_endStartTag h hlt hp (by simpa using split) (.inr ⟨rfl, rest, by rw [angle]; rfl⟩)
  rw [List.append_nil, ← here] at ended
  refine found_inFree ended ⟨c :: rest, split.symm⟩ ?_ (pending_endStartTag hp _)
  rw [position_endStartTag, here]

theorem found_inTag {n : String} {a : AttributeSet} {start : Position} (hs : t.state = .tag)
    (hp : t.pending = [.element n a start]) : (t.inTag c).memory.Found text (cs ++ [c]) := by
  have hosts : (Pending.element n a start).Suits (.attributeName .element) := rfl
  have goesOn {state : ScannerState} (other : state ≠ .tagName) :
      { t.memory with state }.Found text (cs ++ [c]) :=
    h.change hp hp rfl (fun body read => read.goOn hosts other) (.inl hlt)
  have stays : t.memory.Found text (cs ++ [c]) := goesOn (by rw [hs]; nofun)
  unfold inTag
  split_ifs with blank close slash equals angle name
  · exact stays
  · exact found_closeTag h split here hlt hp close
  · exact stays
  · exact goesOn nofun
  · exact found_cutTag h split here hlt hp angle
  · exact goesOn nofun
  · exact stays

theorem found_inTagName {n : String} {a : AttributeSet} {start : Position}
    (hs : t.state = .tagName) (hp : t.pending = [.element n a start]) :
    (t.inTagName c).memory.Found text (cs ++ [c]) := by
  have hosts : (Pending.element n a start).Suits (.attributeName .element) := rfl
  have goesOn : { t.memory with state := .tag }.Found text (cs ++ [c]) :=
    h.change hp hp rfl (fun body read => read.goOn hosts nofun) (.inl hlt)
  unfold inTagName
  split_ifs with name close slash angle
  · rw [modifyTop_eq (f := Pending.pushName? c) hp rfl]
    refine h.change hp rfl rfl ?_ (.inl hlt)
    rintro body ⟨⟨d, ds, eq, named⟩, -, all⟩
    have whole : body ++ [c] = '<' :: (n.push c).toList := by simp [all hs]
    exact ⟨⟨d, ds ++ [c], by simp [eq], named⟩, whole ▸ List.prefix_rfl, fun _ => whole⟩
  · exact found_closeTag h split here hlt hp close
  · exact goesOn
  · exact found_cutTag h split here hlt hp angle
  · exact goesOn

theorem found_inClosingTag {n : String} {start : Position}
    (hp : t.pending = [.closingTag n start]) :
    (t.inClosingTag c).memory.Found text (cs ++ [c]) := by
  unfold inClosingTag
  split_ifs with close name angle
  · have split' : text = cs ++ [c] ++ rest := by simp [split]
    rw [here, ← place_concat]
    exact found_endClosingTag h hlt hp split'
  · rw [modifyTop_eq (f := Pending.pushName? c) hp rfl]
    exact h.change hp rfl rfl (fun _ _ => trivial) (.inl hlt)
  · have ended : (t.endClosingTag (place (cs ++ []))).memory.Found text (cs ++ []) :=
      found_endClosingTag h hlt hp (by simpa using split)
    rw [List.append_nil, ← here] at ended
    refine found_inFree ended ⟨c :: rest, split.symm⟩ ?_ (pending_endClosingTag hp _)
    rw [position_endClosingTag, here]
  · exact h.change hp hp rfl (fun _ _ => trivial) (.inl hlt)

/-! ### Directives -/

theorem found_inDirective (last : t.lastChar = cs.getLast?) {n : String} {a : AttributeSet}
    {start : Position} (hp : t.pending = .directive n a start :: ps)
    (suspended : Suspended ps t.resume) : (t.inDirective c).memory.Found text (cs ++ [c]) := by
  -- Of a directive only its opening is known, so it may change in any other way.
  have goesOn {q : Pending} {pending : List Pending} {state : ScannerState}
      (hq : pending = q :: ps) (start : q.start = start)
      (source : ∀ body, ['<', '%', '@'] <+: body → q.Source state t.bangDash (cs ++ [c]) body) :
      { t.memory with pending, state }.Found text (cs ++ [c]) :=
    h.change hp hq start
      (fun body read => source _ (List.IsPrefix.trans read (List.prefix_append _ _))) (.inl hlt)
  have stays : t.memory.Found text (cs ++ [c]) := goesOn hp rfl fun _ => id
  unfold inDirective
  split_ifs with close blank equals name
  · obtain ⟨rfl, percent⟩ := close
    have split' : text = cs ++ ['>'] ++ rest := by simp [split]
    have stands : (MarkupEvent.directive ⟨n, a⟩ ⟨start, t.position.advance '>'⟩).Stands text := by
      refine (h.top _ _ hp).stands split' ?_ ?_ nofun
      · rw [here, ← place_concat]
        rfl
      · rintro before body rfl opening
        refine ⟨List.IsPrefix.trans opening (List.prefix_append _ _), ?_⟩
        -- The percent sign that ends the directive is the latest character of its source.
        refine isSuffix_of_getLast? (last.symm.trans percent) ?_ '>'
        exact List.IsPrefix.ne_nil opening (by simp)
    simp only [endDirective, hp]
    exact h.takeUp hp suspended hlt (stands_push h.events stands)
  · exact stays
  · exact goesOn hp rfl fun _ => id
  · split
    next hp' =>
      obtain ⟨⟨rfl, rfl, rfl⟩, rfl⟩ := by simpa using hp'.symm.trans hp
      split_ifs with first
      · rw [modifyTop_eq (f := Pending.pushName? c) hp' rfl]
        exact goesOn rfl rfl fun _ => id
      · exact goesOn hp rfl fun _ => id
    next other => exact (other _ _ _ _ hp).elim
  · exact stays

theorem found_inDirectiveName (last : t.lastChar = cs.getLast?) {n : String} {a : AttributeSet}
    {start : Position} (hp : t.pending = .directive n a start :: ps)
    (suspended : Suspended ps t.resume) :
    (t.inDirectiveName c).memory.Found text (cs ++ [c]) := by
  unfold inDirectiveName
  split_ifs with name
  · rw [modifyTop_eq (f := Pending.pushName? c) hp rfl]
    exact h.change hp rfl rfl
      (fun body read => List.IsPrefix.trans read (List.prefix_append _ _)) (.inl hlt)
  · exact found_inDirective (t := { t with state := .directive })
      (h.exchange hp hp rfl (fun _ => id) hlt) split here hlt last hp suspended

/-! ### Attributes -/

section

variable (last : t.lastChar = cs.getLast?) (hp : t.pending = p :: ps)
  (hosts : p.Suits (.attributeName host))
  (below : if p.isServer then Suspended ps t.resume else ps = [] ∧ t.resume = [])
include last hp hosts below

theorem found_inBetween : (t.inBetween host c).memory.Found text (cs ++ [c]) := by
  -- Between attributes no name is read, so all that is known is kept.
  have moved : ({ t with state := .between host } : Scanner).memory.Found text cs :=
    h.exchange hp hp rfl (fun body read => read.move hosts (by cases host <;> nofun)) hlt
  unfold inBetween
  cases p with
  | element n a start =>
    obtain rfl : host = .element := hosts
    obtain ⟨rfl, -⟩ := below
    exact found_inTag moved split here hlt rfl hp
  | directive n a start =>
    obtain rfl : host = .directive := hosts
    exact found_inDirective moved split here hlt last hp below
  | block | closingTag | comment => exact hosts.elim

/-- Behind an attribute, reading goes on between the attributes. -/
theorem found_endAttribute (lastAttr : Option String) :
    ({ t.endAttribute with lastAttr }.inBetween host c).memory.Found text (cs ++ [c]) := by
  obtain ⟨a, ended, -⟩ := exists_endAttribute_withAttributes hp hosts
  rw [ended]
  refine found_inBetween
    (t := { t with pending := p.withAttributes a :: ps, attrName := "", attrValue := "", lastAttr })
    ?_ split here hlt last rfl (by simpa using hosts) (by simpa using below)
  exact h.exchange hp rfl (p.start_withAttributes a)
    (fun body read => (source_withAttributes a).mpr read) hlt

theorem found_inAttributeName (hs : t.state = .attributeName host) :
    (t.inAttributeName host c).memory.Found text (cs ++ [c]) := by
  have goesOn {state : ScannerState} (other : state ≠ .tagName) :
      { t.memory with state }.Found text (cs ++ [c]) :=
    h.change hp hp rfl (fun body read => read.goOn hosts other) (.inl hlt)
  have stays : t.memory.Found text (cs ++ [c]) := goesOn (by rw [hs]; nofun)
  unfold inAttributeName
  split_ifs with name equals
  · exact stays
  · exact goesOn nofun
  · exact found_endAttribute h split here hlt last hp hosts below _

omit split last below in
/-- A quoted value goes on, or ends. -/
theorem found_inQuotedChar {quote : Quote} (hs : t.state = .attributeValue host quote) :
    (t.inQuotedChar host quote c).memory.Found text (cs ++ [c]) := by
  have goesOn {lt : Option Position} (hlt : lt = none ∨ lt = some (place cs) ∧ [c] = ['<']) :
      { t.memory with lt }.Found text (cs ++ [c]) := by
    have other : t.state ≠ .tagName := by rw [hs]; nofun
    exact h.change hp hp rfl (fun body read => read.goOn hosts other) hlt
  unfold inQuotedChar
  split_ifs with close angle
  · obtain ⟨a, ended, -⟩ := exists_endAttribute_withAttributes hp hosts
    rw [ended]
    refine h.change hp rfl (p.start_withAttributes a) (fun body read => ?_) (.inl hlt)
    exact (source_withAttributes a).mpr (read.goOn hosts (by cases host <;> nofun))
  · exact goesOn (.inr ⟨by rw [here], by rw [angle]⟩)
  · exact goesOn (.inl hlt)

end

end

/-- With the angle bracket in front of it, a percent sign begins a server block. -/
theorem found_suspend (h : t.memory.Found text cs) (here : t.position = place cs)
    {lt : Position} (hlt : t.pendingLt = some lt) (waits : ∀ p ∈ t.pending, p.Waits (cs ++ ['%']))
    (resume : List ScannerState) :
    (({ t with pendingLt := none, resume } : Scanner).beginBlock lt
      (t.position.advance '%')).memory.Found text (cs ++ ['%']) := by
  obtain ⟨before, latest, rfl⟩ := h.lt lt hlt
  refine h.push ⟨before, ['<', '%'], by simp [latest], rfl, ?_⟩ waits rfl
  refine ⟨List.prefix_rfl, fun _ => rfl, nofun, ?_⟩
  rw [here, ← place_concat]
  exact isPlace_end _

section

variable {rest : List Char} (h : t.memory.Found text cs) (split : text = cs ++ c :: rest)
  (here : t.position = place cs)
include h split here

section

variable {quote : Quote} (hs : t.state = .attributeValue host quote) (hp : t.pending = p :: ps)
  (hosts : p.Suits (.attributeName host))
include hs hp hosts

theorem found_inQuoted : (t.inQuoted host quote c).memory.Found text (cs ++ [c]) := by
  unfold inQuoted
  cases hlt : t.pendingLt with
  | none => exact found_inQuotedChar h here hlt hp hosts hs
  | some lt =>
    simp only
    split_ifs with percent
    · subst percent
      refine found_suspend h here hlt ?_ (t.state :: t.resume)
      rw [hp, List.forall_mem_cons]
      refine ⟨(h.top p ps hp).waits hosts, fun q hq => ?_⟩
      exact (h.outer q (by simpa [memory, hp] using hq)).append _
    · -- The angle bracket that was held back turns out to be part of the value.
      exact found_inQuotedChar
        (t := { t with pendingLt := none, attrValue := t.attrValue.push '<' })
        (h.exchange hp hp rfl (fun _ => id) rfl) here rfl hp hosts hs

theorem found_inAttributeValue (last : t.lastChar = cs.getLast?)
    (below : if p.isServer then Suspended ps t.resume else ps = [] ∧ t.resume = [])
    (hlt : ¬ quote.closing?.isSome → t.pendingLt = none) :
    (t.inAttributeValue host quote c).memory.Found text (cs ++ [c]) := by
  have goesOn (hlt : t.pendingLt = none) {state : ScannerState} (other : state ≠ .tagName) :
      { t.memory with state }.Found text (cs ++ [c]) :=
    h.change hp hp rfl (fun body read => read.goOn hosts other) (.inl hlt)
  have stays (hlt : t.pendingLt = none) : t.memory.Found text (cs ++ [c]) :=
    goesOn hlt (by simp [hs])
  cases quote with
  | double | single => exact found_inQuoted h split here hs hp hosts
  | pending =>
    have hlt : t.pendingLt = none := hlt Bool.false_ne_true
    simp only [inAttributeValue]
    split_ifs with blank double single next
    · exact stays hlt
    · exact goesOn hlt (by simp)
    · exact goesOn hlt (by simp)
    · exact found_endAttribute h split here hlt last hp hosts below t.endAttribute.lastAttr
    · exact goesOn hlt (by simp)
  | unquoted =>
    have hlt : t.pendingLt = none := hlt Bool.false_ne_true
    simp only [inAttributeValue]
    split_ifs with next
    · exact found_endAttribute h split here hlt last hp hosts below t.endAttribute.lastAttr
    · exact stays hlt

end

end

/-! ### Comments and declarations -/

theorem endsWith_iff {content closing : String} :
    content.endsWith closing ↔ closing.toList <:+ content.toList := by
  rw [String.endsWith_eq_endsWith_toSlice, String.Slice.endsWith_string_iff, String.copy_toSlice]

/-- What ends with `closing` is `closing` behind the rest. -/
theorem toList_eq_of_endsWith {content closing : String} (h : content.endsWith closing) :
    content.toList = (content.dropEnd closing.length).copy.toList ++ closing.toList := by
  obtain ⟨front, whole⟩ := endsWith_iff.mp h
  rw [String.toList_copy_dropEnd, ← whole, List.length_append, String.length_toList,
    Nat.add_sub_cancel, List.take_left]

section

variable {rest : List Char} (h : t.memory.Found text cs) (split : text = cs ++ c :: rest)
  (here : t.position = place cs) (hlt : t.pendingLt = none) (suspended : Suspended ps t.resume)
include h split here hlt suspended

/-- A comment or declaration ends with an angle bracket, its text standing between the marks. -/
theorem found_endPlain {kind : PlainKind} {content content' : String} {start : Position}
    (hp : t.pending = .comment kind content start :: ps) (close : c = '>')
    (marks : ∀ body, (Pending.comment kind content start).Source t.state t.bangDash cs body →
      (MarkupEvent.plain kind content' ⟨start, t.position.advance c⟩).Delimits (body ++ ['>'])
        rest) :
    ({ t with pending := .comment kind content' start :: ps }.endPlain
      (t.position.advance c)).memory.Found text (cs ++ [c]) := by
  subst close
  refine h.takeUp hp suspended hlt (stands_push h.events ?_)
  have split' : text = cs ++ ['>'] ++ rest := by simp [split]
  refine (h.top _ _ hp).stands split' ?_
    (fun before body _ => marks body) nofun
  rw [here, ← place_concat]
  rfl

theorem found_inDocType {content : String} {start : Position}
    (hp : t.pending = .comment .docType content start :: ps) :
    (t.inDocType c).memory.Found text (cs ++ [c]) := by
  unfold inDocType
  split_ifs with close
  · have marks (body : List Char)
        (read : (Pending.comment .docType content start).Source t.state t.bangDash cs body) :
        (MarkupEvent.plain .docType content ⟨start, t.position.advance c⟩).Delimits
          (body ++ ['>']) rest :=
      congrArg (· ++ ['>']) read
    have ended := found_endPlain h split here hlt suspended hp close marks
    rwa [← hp] at ended
  · rw [modifyTop_eq (f := Pending.pushComment? c) hp rfl]
    refine h.change hp rfl rfl (fun body read => ?_) (.inl hlt)
    simp only [Source] at read ⊢
    simp [read]

theorem found_inBang {content : String} {start : Position} (hs : t.state = .bang)
    (hp : t.pending = .comment .comment content start :: ps) :
    (t.inBang c).memory.Found text (cs ++ [c]) := by
  -- A dash that opens no comment is part of the declaration.
  have declaration (dash : String) (hdash : dash.toList = if t.bangDash then ['-'] else []) :
      ({ t.modifyTop (Pending.toDocType? dash) with
        bangDash := false, state := .docType }.inDocType c).memory.Found text (cs ++ [c]) := by
    rw [modifyTop_eq (f := Pending.toDocType? dash) hp rfl]
    refine found_inDocType
      (t := { t with
        pending := .comment .docType (content ++ dash) start :: ps, bangDash := false
        state := .docType })
      (h.exchange hp rfl rfl (fun body read => ?_) hlt) split here hlt suspended rfl
    obtain ⟨rfl, rfl⟩ := read.1 hs
    simp only [Source, String.empty_append, hdash]
    rfl
  unfold inBang
  split_ifs with dash second first
  · subst dash
    refine h.change hp hp rfl (fun body read => ?_) (.inl hlt)
    obtain ⟨rfl, rfl⟩ := read.1 hs
    exact ⟨nofun, fun _ => by simp [memory, second]⟩
  · subst dash
    refine h.change hp hp rfl (fun body read => ?_) (.inl hlt)
    obtain ⟨rfl, rfl⟩ := read.1 hs
    exact ⟨fun _ => ⟨rfl, by simp [memory, second]⟩, fun other => absurd hs other⟩
  · exact declaration "-" (by simp [first])
  · exact declaration "" (by simp [first])

/-- A comment ends with an angle bracket behind `closing`. -/
theorem found_inComment {kind : PlainKind} {content closing : String} {start : Position}
    (hp : t.pending = .comment kind content start :: ps) (opening : List Char)
    (source : ∀ cs content body,
      (Pending.comment kind content start).Source t.state t.bangDash cs body ↔
        body = opening ++ content.toList)
    (marks : ∀ content span, (MarkupEvent.plain kind content span).Delimits
      (opening ++ content.toList ++ (closing.toList ++ ['>'])) rest) :
    (t.inComment closing c).memory.Found text (cs ++ [c]) := by
  unfold inComment
  simp only [hp]
  split_ifs with close
  · refine found_endPlain h split here hlt suspended hp close.1 fun body read => ?_
    rw [(source cs content body).mp read, toList_eq_of_endsWith close.2]
    simpa only [List.append_assoc] using marks _ _
  · refine h.change hp rfl rfl (fun body read => ?_) (.inl hlt)
    refine (source _ _ _).mpr ?_
    rw [(source cs content body).mp read, String.toList_push, List.append_assoc]

/-! ### Server blocks -/

theorem found_endBlock (last : t.lastChar = cs.getLast?) (percent : t.lastChar = some '%')
    (close : c = '>') {kind : BlockKind} {content raw : String} {start textStart : Position}
    (hp : t.pending = .block kind content raw start textStart :: ps) :
    (t.endBlock (t.position.advance c)).memory.Found text (cs ++ [c]) := by
  subst close
  have split' : text = cs ++ ['>'] ++ rest := by simp [split]
  have inner : IsPlace cs textStart := by
    obtain ⟨-, -, -, -, -, -, -, inner⟩ := h.top _ _ hp
    exact inner
  have ended {resume : List ScannerState} (hr : t.resume = resume) {events : Array MarkupEvent}
      (he : ∀ e ∈ events, e.Stands text) :
      { t.memory with pending := ps, state := resume.headD .free, events }.Found text
        (cs ++ ['>']) :=
    h.takeUp hp (hr ▸ suspended) hlt he
  unfold endBlock
  simp only [hp]
  -- The text of the block is no part of its source, whatever is cut off.
  generalize (if content.endsWith "%" then (content.dropEnd 1).copy else content) = content'
  cases hr : t.resume with
  | nil =>
    have stands :
        (MarkupEvent.block ⟨kind, content', textStart⟩ ⟨start, t.position.advance '>'⟩).Stands
          text := by
      refine (h.top _ _ hp).stands split' ?_ ?_ ?_
      · rw [here, ← place_concat]
        rfl
      · rintro before body rfl ⟨opening, -⟩
        refine ⟨opening.trans (List.prefix_append _ _), ?_⟩
        refine isSuffix_of_getLast? (last.symm.trans percent) ?_ '>'
        exact opening.ne_nil (by simp)
      · intro place hplace
        obtain rfl := List.mem_singleton.mp hplace
        exact .inr (.inr inner)
    exact ended hr (stands_push h.events stands)
  | cons state states =>
    cases state <;> exact ended hr h.events

theorem found_inServerBlock (last : t.lastChar = cs.getLast?) {kind : BlockKind}
    {content raw : String} {start textStart : Position} (hs : t.state = .block kind)
    (hp : t.pending = .block kind content raw start textStart :: ps) :
    (t.inServerBlock c).memory.Found text (cs ++ [c]) := by
  unfold inServerBlock
  split_ifs with close
  · exact found_endBlock h split here hlt suspended last close.2 close.1 hp
  · rw [modifyTop_eq (f := Pending.pushBlock? c) hp rfl]
    refine h.change hp rfl rfl ?_ (.inl hlt)
    rintro body ⟨opening, -, -, inner⟩
    refine ⟨opening.trans (List.prefix_append _ _), ?_, ?_, inner.append _⟩
    · exact fun other => nomatch hs.symm.trans other
    · exact fun other => nomatch hs.symm.trans other

theorem found_inBlockOpen (last : t.lastChar = cs.getLast?) {content raw : String}
    {start textStart : Position} (hs : t.state = .blockOpen)
    (hp : t.pending = .block .code content raw start textStart :: ps) :
    (t.inBlockOpen c).memory.Found text (cs ++ [c]) := by
  unfold inBlockOpen
  split_ifs with at' dash
  · rw [modifyTop_eq (f := Pending.toDirective?) hp rfl]
    refine h.change hp rfl rfl ?_ (.inl hlt)
    rintro body ⟨-, whole, -⟩
    simp [Source, whole hs, at']
  · rw [modifyTop_eq (f := Pending.pushRaw? c) hp rfl]
    refine h.change hp rfl rfl ?_ (.inl hlt)
    rintro body ⟨-, whole, -, inner⟩
    refine ⟨by simp [whole hs], nofun, fun _ => by simp [whole hs, dash], inner.append _⟩
  · split
    next kind marked =>
      rw [modifyTop_eq (f := Pending.mark? kind c (t.position.advance c)) hp rfl]
      refine h.change hp rfl rfl ?_ (.inl hlt)
      rintro body ⟨opening, -⟩
      refine ⟨opening.trans (List.prefix_append _ _), nofun, nofun, ?_⟩
      rw [here, ← place_concat]
      exact isPlace_end _
    next unmarked =>
      -- Without a marker the character is the first one of the code.
      rw [modifyTop_eq (f := Pending.startText? t.position) hp rfl]
      refine found_inServerBlock
        (t := { t with
          pending := .block .code content raw start t.position :: ps, state := .block .code })
        (h.exchange hp rfl rfl ?_ hlt) split here hlt suspended last rfl rfl
      rintro body ⟨opening, -⟩
      exact ⟨opening, nofun, nofun, here ▸ isPlace_end cs⟩

theorem found_inServerCommentOpen (last : t.lastChar = cs.getLast?) {content raw : String}
    {start textStart : Position} (hs : t.state = .serverCommentOpen)
    (hp : t.pending = .block .code content raw start textStart :: ps) :
    (t.inServerCommentOpen c).memory.Found text (cs ++ [c]) := by
  unfold inServerCommentOpen
  split_ifs with dash
  · rw [modifyTop_eq (f := Pending.toServerComment?) hp rfl]
    refine h.change hp rfl rfl ?_ (.inl hlt)
    rintro body ⟨-, -, whole, -⟩
    simp [Source, whole hs, dash]
  · -- The dash was part of the code, and so is what follows it.
    rw [modifyTop_eq (f := Pending.pushText? '-') hp rfl]
    refine found_inServerBlock
      (t := { t with
        pending := .block .code (content.push '-') raw start textStart :: ps
        state := .block .code })
      (h.exchange hp rfl rfl ?_ hlt) split here hlt suspended last rfl rfl
    rintro body ⟨opening, -, -, inner⟩
    exact ⟨opening, nofun, nofun, inner⟩

end

/-! ### Raw text -/

section

variable {rest : List Char} (h : t.memory.Found text cs) (split : text = cs ++ c :: rest)
  (here : t.position = place cs) (hp : t.pending = [])
include h split here hp

theorem found_endRawText (hlt : t.pendingLt = none) (e : OpenTag) :
    (t.endRawText e (t.position.advance c)).memory.Found text (cs ++ [c]) := by
  have inside : cs ++ [c] <+: text := ⟨rest, by simp [split]⟩
  have start : IsPlace text t.rawStart :=
    ((h.places _ List.mem_cons_self).append [c]).of_inside inside
  have stop : IsPlace (cs ++ [c]) (t.position.advance c) := by
    rw [here, ← place_concat]
    exact isPlace_end _
  have angle : IsPlace cs (t.rawLt.getD t.position) := by
    cases hraw : t.rawLt with
    | none =>
      rw [Option.getD_none, here]
      exact isPlace_end cs
    | some lt => exact h.places lt (by simp [memory, hraw])
  have angle' : IsPlace text (t.rawLt.getD t.position) := (angle.append [c]).of_inside inside
  have closing :
      (MarkupEvent.endTag e.name ⟨t.rawLt.getD t.position, t.position.advance c⟩).Stands text := by
    have le : t.rawLt.getD t.position ≤ t.position.advance c := by
      rw [here] at angle ⊢
      exact angle.le.trans (Position.le_advance _ c)
    obtain ⟨before, body, behind, divides⟩ :=
      Span.Divides.exists_of_isPlace angle' (stop.of_inside inside) le
    exact ⟨⟨before, body, behind, divides, trivial⟩, nofun⟩
  have held (lt : Position) (held : t.pendingLt = some lt) :
      ∃ before, cs ++ [c] = before ++ ['<'] ∧ lt = place before :=
    nomatch hlt.symm.trans held
  have places (p : Position) (mem : p ∈ t.memory.places) : IsPlace (cs ++ [c]) p :=
    (h.places p mem).append [c]
  have ended {events : Array MarkupEvent} (he : ∀ e ∈ events, e.Stands text) :=
    Found.of_nil (m := { t.memory with
      state := .free
      events := events.push (.endTag e.name ⟨t.rawLt.getD t.position, t.position.advance c⟩) })
      hp held places (stands_push he closing)
  unfold endRawText
  simp only
  split_ifs with known nonempty nonempty
  · exact ended (stands_push h.events (stands_text start angle' nonempty))
  · exact ended h.events
  · exact ended (stands_push h.events (stands_text start angle' nonempty))
  · exact ended h.events

theorem found_inRawChar (hlt : t.pendingLt = none) :
    (t.inRawChar c).memory.Found text (cs ++ [c]) := by
  have places (p : Position) (mem : p ∈ t.memory.places) : IsPlace (cs ++ [c]) p :=
    (h.places p mem).append [c]
  have held (lt : Position) (held : t.pendingLt = some lt) :
      ∃ before, cs ++ [c] = before ++ ['<'] ∧ lt = place before :=
    nomatch hlt.symm.trans held
  unfold inRawChar
  split_ifs with angle close
  · refine .of_nil hp ?_ ?_ h.events
    · intro lt hlt
      exact ⟨cs, by rw [angle], here ▸ (Option.some.inj hlt).symm⟩
    · intro p mem
      simp only [memory, List.mem_cons, List.mem_append, Option.toList_some, List.not_mem_nil,
        or_false] at mem
      obtain rfl | mem | rfl := mem
      · exact places _ List.mem_cons_self
      · exact places p (by simp [memory, mem])
      · rw [here]
        exact (isPlace_end cs).append [c]
  · simp only
    split
    next => exact .of_nil hp held places h.events
    next e es _ =>
      split_ifs with closes
      · exact found_endRawText (t := { t with rawTail := (c :: t.rawTail).take rawTailLength })
          (.of_nil hp h.lt h.places h.events) split here hp hlt e
      · exact .of_nil hp held places h.events
  · exact .of_nil hp held places h.events

theorem found_inRawText : (t.inRawText c).memory.Found text (cs ++ [c]) := by
  unfold inRawText
  cases hlt : t.pendingLt with
  | none => exact found_inRawChar h split here hp hlt
  | some lt =>
    simp only
    split_ifs with percent
    · subst percent
      refine found_suspend h here hlt ?_ _
      rw [hp]
      exact nofun
    · exact found_inRawChar (t := { t with pendingLt := none })
        (.of_nil hp nofun h.places h.events) split here hp rfl

end

/-! ### Every state -/

section

variable {rest : List Char} (h : t.memory.Found text cs) (split : text = cs ++ c :: rest)
  (here : t.position = place cs) (last : t.lastChar = cs.getLast?)
  (hlt : ¬ t.state.InQuotes → t.pendingLt = none) (fits : t.state.Fits t.pending t.resume)
include h split here last hlt fits

theorem found_step_element {n : String} {a : AttributeSet} {start : Position}
    (hp : t.pending = .element n a start :: ps) : (t.step c).memory.Found text (cs ++ [c]) := by
  rw [hp] at fits
  obtain ⟨suits, rfl, outermost⟩ := fits.cons
  unfold step
  cases hs : t.state with
  | tagName =>
    rw [hs] at hlt
    exact found_inTagName h split here (hlt id) hs hp
  | tag =>
    rw [hs] at hlt
    exact found_inTag h split here (hlt id) hs hp
  | attributeName host =>
    rw [hs] at hlt suits
    exact found_inAttributeName h split here (hlt id) last hp suits ⟨rfl, outermost⟩ hs
  | attributeValue host quote =>
    rw [hs] at hlt suits
    exact found_inAttributeValue h split here hs hp suits last ⟨rfl, outermost⟩ hlt
  | _ =>
    rw [hs] at suits
    exact suits.elim

theorem found_step_directive {n : String} {a : AttributeSet} {start : Position}
    (hp : t.pending = .directive n a start :: ps) : (t.step c).memory.Found text (cs ++ [c]) := by
  rw [hp] at fits
  obtain ⟨suits, below⟩ := fits.cons
  unfold step
  cases hs : t.state with
  | directive =>
    rw [hs] at hlt
    exact found_inDirective h split here (hlt id) last hp fits.suspended
  | directiveName =>
    rw [hs] at hlt
    exact found_inDirectiveName h split here (hlt id) last hp fits.suspended
  | attributeName host =>
    rw [hs] at hlt suits
    exact found_inAttributeName h split here (hlt id) last hp suits below hs
  | attributeValue host quote =>
    rw [hs] at hlt suits
    exact found_inAttributeValue h split here hs hp suits last below hlt
  | _ =>
    rw [hs] at suits
    exact suits.elim

theorem found_step_block {kind : BlockKind} {content raw : String} {start textStart : Position}
    (hp : t.pending = .block kind content raw start textStart :: ps) :
    (t.step c).memory.Found text (cs ++ [c]) := by
  rw [hp] at fits
  have suspended := fits.suspended
  have suits := fits.cons.1
  unfold step
  cases hs : t.state with
  | blockOpen =>
    rw [hs] at hlt suits
    obtain rfl : kind = .code := suits
    exact found_inBlockOpen h split here (hlt id) suspended last hs hp
  | serverCommentOpen =>
    rw [hs] at hlt suits
    obtain rfl : kind = .code := suits
    exact found_inServerCommentOpen h split here (hlt id) suspended last hs hp
  | block kind' =>
    rw [hs] at hlt suits
    obtain rfl : kind = kind' := suits
    exact found_inServerBlock h split here (hlt id) suspended last hs hp
  | _ =>
    rw [hs] at suits
    exact suits.elim

omit last in
theorem found_step_closingTag {n : String} {start : Position}
    (hp : t.pending = .closingTag n start :: ps) : (t.step c).memory.Found text (cs ++ [c]) := by
  rw [hp] at fits
  obtain ⟨suits, rfl, -⟩ := fits.cons
  unfold step
  cases hs : t.state with
  | closingTag =>
    rw [hs] at hlt
    exact found_inClosingTag h split here (hlt id) hp
  | _ =>
    rw [hs] at suits
    exact suits.elim

omit last in
theorem found_step_comment {kind : PlainKind} {content : String} {start : Position}
    (hp : t.pending = .comment kind content start :: ps) :
    (t.step c).memory.Found text (cs ++ [c]) := by
  rw [hp] at fits
  have suspended := fits.suspended
  have suits := fits.cons.1
  unfold step
  cases hs : t.state with
  | bang =>
    rw [hs] at hlt suits
    obtain rfl : kind = .comment := suits
    exact found_inBang h split here (hlt id) suspended hs hp
  | docType =>
    rw [hs] at hlt suits
    obtain rfl : kind = .docType := suits
    exact found_inDocType h split here (hlt id) suspended hp
  | comment =>
    rw [hs] at hlt suits
    obtain rfl : kind = .comment := suits
    refine found_inComment h split here (hlt id) suspended hp ['<', '!', '-', '-'] ?_ ?_
    · intro cs content body
      simp [Source, hs]
    · intro content span
      simp [MarkupEvent.Delimits]
  | serverComment =>
    rw [hs] at hlt suits
    obtain rfl : kind = .serverComment := suits
    refine found_inComment h split here (hlt id) suspended hp ['<', '%', '-', '-'] ?_ ?_
    · intro cs content body
      rfl
    · intro content span
      simp [MarkupEvent.Delimits]
  | _ =>
    rw [hs] at suits
    exact suits.elim

end

/-- Every character leaves what is kept in the text. -/
theorem found_step {rest : List Char} (h : t.memory.Found text cs)
    (consistent : t.skeleton.Consistent) (split : text = cs ++ c :: rest)
    (here : t.position = place cs) (last : t.lastChar = cs.getLast?) :
    (t.step c).memory.Found text (cs ++ [c]) := by
  have fits : t.state.Fits t.pending t.resume := consistent.fits
  by_cases hfree : t.state = .free
  · rw [hfree] at fits
    simp only [step, hfree]
    exact found_inFree h ⟨c :: rest, split.symm⟩ here fits.1
  by_cases hraw : t.state = .rawText
  · rw [hraw] at fits
    simp only [step, hraw]
    exact found_inRawText h split here fits.1
  -- A bracket is held back in text and in quotes only.
  have hlt (hquotes : ¬ t.state.InQuotes) : t.pendingLt = none := by
    rw [← Option.not_isSome_iff_eq_none]
    intro held
    obtain free | raw | inQuotes := consistent.lt held
    · exact hfree free
    · exact hraw raw
    · exact hquotes inQuotes
  obtain ⟨p, ps, hp, -⟩ := fits.exists_suits hfree hraw
  cases p with
  | element => exact found_step_element h split here last hlt fits hp
  | directive => exact found_step_directive h split here last hlt fits hp
  | block => exact found_step_block h split here last hlt fits hp
  | closingTag => exact found_step_closingTag h split here hlt fits hp
  | comment => exact found_step_comment h split here hlt fits hp

/-! ### Whole texts -/

/-- A scanner is where the text ends that it has read. -/
@[simp] theorem position_advanceAll (cs : List Char) :
    (({} : Scanner).advanceAll cs).position = place cs := by
  induction cs using List.reverseRecOn with
  | nil => rfl
  | append_singleton cs c ih => simp [advanceAll_append, advance, ih, place_concat]

@[simp] theorem lastChar_advanceAll (cs : List Char) :
    (({} : Scanner).advanceAll cs).lastChar = cs.getLast? := by
  induction cs using List.reverseRecOn with
  | nil => rfl
  | append_singleton cs c ih => simp [advanceAll_append, advance]

/-- A scanner counts the bytes that it reads. -/
@[simp] theorem offset_advanceAll (t : Scanner) (cs : List Char) :
    (t.advanceAll cs).offset = t.offset + byteLength cs := by
  induction cs generalizing t with
  | nil => rfl
  | cons c cs ih => rw [advanceAll_cons, ih, byteLength_cons, ← Nat.add_assoc, advance]

/-- Wherever a scanner stops, its line and column looked up in the whole text lead to the number of
bytes in front of it, which it has counted. -/
theorem offsetOf?_position (before behind : List Char) :
    offsetOf? (before ++ behind) (({} : Scanner).advanceAll before).position =
        some (byteLength before) ∧
      (({} : Scanner).advanceAll before).offset = byteLength before := by
  constructor
  · rw [position_advanceAll, offsetOf?_place]
  · rw [offset_advanceAll, Nat.zero_add]

/-- While a text is read, everything that is kept stands in it. -/
theorem found_advanceAll {rest : List Char} (split : text = cs ++ rest) :
    (({} : Scanner).advanceAll cs).memory.Found text cs := by
  -- The last character is read in the state that the others have led to.
  induction cs using List.reverseRecOn generalizing rest with
  | nil =>
    refine .of_nil rfl nofun ?_ nofun
    rintro p mem
    obtain rfl := List.mem_singleton.mp mem
    exact isPlace_origin []
  | append_singleton cs c ih =>
    rw [List.append_assoc] at split
    rw [advanceAll_append]
    exact found_step (ih split) (reached_advanceAll cs).consistent split (position_advanceAll cs)
      (lastChar_advanceAll cs)

/-- All markup that is recorded of a text stands in it. -/
theorem stands_of_mem_events {s : String} {e : MarkupEvent}
    (h : e ∈ (readAll s).finish.events) : e.Stands s.toList := by
  have found : (readAll s).memory.Found s.toList s.toList :=
    found_advanceAll (List.append_nil _).symm
  unfold finish at h
  split at h
  next free =>
    have ended : ({ readAll s with
        textHasContent := (readAll s).textHasContent || (readAll s).pendingLt.isSome
        pendingLt := none } : Scanner).memory.Found s.toList s.toList :=
      ⟨found.top, found.outer, nofun, found.places, found.events⟩
    refine (found_endText ended List.prefix_rfl ?_).events e h
    rw [readAll, position_advanceAll]
    exact isPlace_end _
  next => exact found.events e h

/-- Whatever is recorded of a text, its span covers source that begins and ends with its marks. -/
theorem delimits_of_mem_events (s : String) (e : MarkupEvent) (h : e ∈ (readAll s).finish.events) :
    ∃ before body behind, e.span.Divides s.toList before body behind ∧
      PageFacts.slice? s.toList e.span = some body ∧ e.Delimits body behind := by
  obtain ⟨before, body, behind, divides, delimits⟩ := (stands_of_mem_events h).divides
  exact ⟨before, body, behind, divides, divides.slice?_eq, delimits⟩

/-- A server comment in a value covers its own source, although the value goes on behind it. -/
theorem delimits_comment_in_value :
    MarkupEvent.plain .serverComment " c " ⟨⟨0, 6⟩, ⟨0, 17⟩⟩ ∈
        (readAll "<a b=\"<%-- c --%>\">").finish.events ∧
      ∃ before body behind,
        (⟨⟨0, 6⟩, ⟨0, 17⟩⟩ : Span).Divides "<a b=\"<%-- c --%>\">".toList before body behind ∧
          PageFacts.slice? "<a b=\"<%-- c --%>\">".toList ⟨⟨0, 6⟩, ⟨0, 17⟩⟩ = some body ∧
          (MarkupEvent.plain .serverComment " c " ⟨⟨0, 6⟩, ⟨0, 17⟩⟩).Delimits body behind := by
  have recorded : MarkupEvent.plain .serverComment " c " ⟨⟨0, 6⟩, ⟨0, 17⟩⟩ ∈
      (readAll "<a b=\"<%-- c --%>\">").finish.events := by
    decide +kernel
  exact ⟨recorded, delimits_of_mem_events _ _ recorded⟩

end Scanner

end WebForms
