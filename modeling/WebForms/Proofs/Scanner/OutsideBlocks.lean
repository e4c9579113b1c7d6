import WebForms.Proofs.Scanner.BlockOpenings

/-!
# Outside server blocks

Server blocks interrupt text, quoted values and raw text. Each function that reads a character
elsewhere is shown to keep to itself: it opens a server block where a percent sign follows an angle
bracket that was held back, or it stays outside of server blocks and records none.

## Main definitions

* `ScannerState.ReadsBlock`, `NoNewBlocks` — a server block is read, or recorded
* `Scanner.Idle`, `Scanner.Opens` — a character leaves the scanner outside of server blocks, or
  opens one

## Main results

* `Scanner.opens_step` — outside of server blocks, a character does one or the other
-/

namespace WebForms

/-- A server block is read in this state. -/
def ScannerState.ReadsBlock : ScannerState → Prop
  | .blockOpen | .serverCommentOpen | .block _ => True
  | _ => False

/-- No server block interrupts another, so none is read behind the end of one. -/
theorem Suspended.not_readsBlock_headD {outer : List Pending} {resume : List ScannerState}
    (h : Suspended outer resume) : ¬ (resume.headD .free).ReadsBlock := by
  cases h with
  | nothing | rawText | element | directive => exact id

/-- Of server blocks, only those in `old` are among the events. -/
def NoNewBlocks (old events : Array MarkupEvent) : Prop :=
  ∀ e span, .block e span ∈ events → .block e span ∈ old

theorem NoNewBlocks.push {old events : Array MarkupEvent} {e : MarkupEvent}
    (h : NoNewBlocks old events) (other : ∀ b span, e ≠ .block b span) :
    NoNewBlocks old (events.push e) := by
  intro b span mem
  obtain before | now := Array.mem_push.mp mem
  · exact h b span before
  · exact absurd now.symm (other b span)

namespace Scanner

variable {t : Scanner} {old : Array MarkupEvent} {c : Char} {host : AttributeHost} {quote : Quote}

/-! ### Where no server block is read -/

/-- The scanner reads no server block, and has recorded none but those in `old`. -/
structure Idle (old : Array MarkupEvent) (t : Scanner) : Prop where
  state : ¬ t.state.ReadsBlock
  events : NoNewBlocks old t.events

/-- The scanner reads no server block, or it has just opened one whose text begins at `here`. -/
def Opens (old : Array MarkupEvent) (here : Position) (t : Scanner) : Prop :=
  t.Idle old ∨ ∃ (u : Scanner) (lt : Position), t = u.beginBlock lt here ∧ NoNewBlocks old u.events

@[simp] theorem resume_modifyTop (t : Scanner) (f : Pending → Option Pending) :
    (t.modifyTop f).resume = t.resume := by
  unfold modifyTop
  split
  · rfl
  · split <;> rfl

theorem idle_modifyTop (h : t.Idle old) (f : Pending → Option Pending) :
    (t.modifyTop f).Idle old := by
  unfold modifyTop
  split
  · exact ⟨h.state, h.events⟩
  · split
    · exact ⟨h.state, h.events⟩
    · exact ⟨h.state, h.events⟩

theorem noNewBlocks_endText (h : NoNewBlocks old t.events) (stop : Position) :
    NoNewBlocks old (t.endText stop).events := by
  unfold endText
  split
  · simp only
    split
    · exact h.push nofun
    · exact h
  · exact h

theorem idle_inText (h : t.Idle old) : (t.inText c).Idle old := by
  unfold inText
  simp only
  split
  · exact ⟨h.state, h.events⟩
  · exact ⟨h.state, h.events⟩

/-- Between constructs, a percent sign may open a server block. -/
theorem opens_inFree (h : t.Idle old) : (t.inFree c).Opens old (t.position.advance c) := by
  unfold inFree
  split
  · exact .inl (idle_inText h)
  next lt _ =>
    -- Where the bracket begins a construct, the text in front of it is recorded.
    have ended := noNewBlocks_endText (t := { t with pendingLt := none }) h.events lt
    simp only
    split_ifs with percent slash bang name
    · exact .inr ⟨_, _, rfl, ended⟩
    · exact .inl ⟨id, ended⟩
    · exact .inl ⟨id, ended⟩
    · exact .inl ⟨id, ended⟩
    · exact .inl (idle_inText (t := { t with pendingLt := none, textHasContent := true })
        ⟨h.state, h.events⟩)

/-! ### Tags -/

theorem idle_endStartTag (h : t.Idle old) (stop : Position) : (t.endStartTag stop).Idle old := by
  unfold endStartTag
  split
  · simp only
    split
    · exact ⟨id, h.events.push nofun⟩
    · exact ⟨id, h.events.push nofun⟩
  · exact ⟨id, h.events⟩

theorem idle_endClosingTag (h : t.Idle old) (stop : Position) :
    (t.endClosingTag stop).Idle old := by
  unfold endClosingTag
  simp only
  split
  · split
    · exact ⟨id, h.events⟩
    · exact ⟨id, h.events.push nofun⟩
  · exact ⟨id, h.events⟩

theorem opens_cutStartTag (h : t.Idle old) :
    ((t.endStartTag t.position).inFree c).Opens old (t.position.advance c) := by
  have opened := opens_inFree (c := c) (idle_endStartTag h t.position)
  rwa [position_endStartTag] at opened

theorem opens_cutClosingTag (h : t.Idle old) :
    ((t.endClosingTag t.position).inFree c).Opens old (t.position.advance c) := by
  have opened := opens_inFree (c := c) (idle_endClosingTag h t.position)
  rwa [position_endClosingTag] at opened

theorem opens_inTag (h : t.Idle old) : (t.inTag c).Opens old (t.position.advance c) := by
  unfold inTag
  split_ifs with blank close slash equals angle name
  · exact .inl h
  · exact .inl (idle_endStartTag h _)
  · exact .inl ⟨h.state, h.events⟩
  · exact .inl ⟨id, h.events⟩
  · exact opens_cutStartTag h
  · exact .inl ⟨id, h.events⟩
  · exact .inl ⟨h.state, h.events⟩

theorem opens_inTagName (h : t.Idle old) : (t.inTagName c).Opens old (t.position.advance c) := by
  unfold inTagName
  split_ifs with name close slash angle
  · exact .inl (idle_modifyTop h _)
  · exact .inl (idle_endStartTag h _)
  · exact .inl ⟨id, h.events⟩
  · exact opens_cutStartTag h
  · exact .inl ⟨id, h.events⟩

theorem opens_inClosingTag (h : t.Idle old) :
    (t.inClosingTag c).Opens old (t.position.advance c) := by
  unfold inClosingTag
  split_ifs with close name angle
  · exact .inl (idle_endClosingTag h _)
  · exact .inl (idle_modifyTop h _)
  · exact opens_cutClosingTag h
  · exact .inl h

/-! ### Constructs that may end inside others -/

section

variable (h : t.Idle old) (behind : ¬ (t.resume.headD .free).ReadsBlock)
include h behind

theorem idle_endDirective (stop : Position) : (t.endDirective stop).Idle old := by
  unfold endDirective
  split
  · exact ⟨behind, h.events.push nofun⟩
  · exact ⟨behind, h.events⟩

theorem idle_endPlain (stop : Position) : (t.endPlain stop).Idle old := by
  unfold endPlain
  split
  · exact ⟨behind, h.events.push nofun⟩
  · exact ⟨behind, h.events⟩

theorem idle_inDirective : (t.inDirective c).Idle old := by
  unfold inDirective
  split_ifs with close blank equals name
  · exact idle_endDirective h behind _
  · exact h
  · exact ⟨id, h.events⟩
  · split
    · split_ifs with first
      · exact ⟨id, (idle_modifyTop h _).events⟩
      · exact ⟨id, h.events⟩
    · exact ⟨id, h.events⟩
  · exact h

theorem idle_inDirectiveName : (t.inDirectiveName c).Idle old := by
  unfold inDirectiveName
  split_ifs with name
  · exact idle_modifyTop h _
  · exact idle_inDirective (t := { t with state := .directive }) ⟨id, h.events⟩ behind

theorem idle_inDocType : (t.inDocType c).Idle old := by
  unfold inDocType
  split_ifs with close
  · exact idle_endPlain h behind _
  · exact idle_modifyTop h _

theorem idle_inBang : (t.inBang c).Idle old := by
  -- What is no comment is a declaration, with the dash that has been read in front.
  have declaration (dash : String) : ({ t.modifyTop (Pending.toDocType? dash) with
      bangDash := false, state := .docType }.inDocType c).Idle old := by
    refine idle_inDocType ⟨id, (idle_modifyTop h _).events⟩ ?_
    simpa using behind
  unfold inBang
  split_ifs with dash second first
  · exact ⟨id, h.events⟩
  · exact ⟨h.state, h.events⟩
  · exact declaration "-"
  · exact declaration ""

theorem idle_inComment (closing : String) : (t.inComment closing c).Idle old := by
  unfold inComment
  split
  next kind text start ps hp =>
    split_ifs with close
    · exact idle_endPlain (t := { t with pending := .comment kind _ start :: ps })
        ⟨h.state, h.events⟩ behind _
    · exact ⟨h.state, h.events⟩
  · exact ⟨h.state, h.events⟩

/-! ### Attributes -/

theorem opens_inBetween : (t.inBetween host c).Opens old (t.position.advance c) := by
  cases host with
  | element => exact opens_inTag (t := { t with state := .tag }) ⟨id, h.events⟩
  | directive =>
    exact .inl (idle_inDirective (t := { t with state := .directive }) ⟨id, h.events⟩ behind)

theorem idle_endAttribute : t.endAttribute.Idle old ∧
    ¬ (t.endAttribute.resume.headD .free).ReadsBlock := by
  unfold endAttribute
  simp only
  split
  · exact ⟨⟨h.state, h.events⟩, behind⟩
  · split
    · exact ⟨⟨h.state, h.events⟩, behind⟩
    · exact ⟨⟨h.state, h.events⟩, behind⟩

/-- Behind the end of an attribute, the character is read between attributes. -/
theorem opens_cutAttribute (lastAttr : Option String) :
    (({ t.endAttribute with lastAttr } : Scanner).inBetween host c).Opens old
      (t.position.advance c) := by
  obtain ⟨ended, behind'⟩ := idle_endAttribute h behind
  -- The end of an attribute is in front of the character, so the place is still the same.
  have opened : (({ t.endAttribute with lastAttr } : Scanner).inBetween host c).Opens old
      (t.endAttribute.position.advance c) :=
    opens_inBetween ⟨ended.state, ended.events⟩ behind'
  rwa [position_endAttribute] at opened

theorem opens_inAttributeName :
    (t.inAttributeName host c).Opens old (t.position.advance c) := by
  unfold inAttributeName
  split_ifs with name equals
  · exact .inl ⟨h.state, h.events⟩
  · exact .inl ⟨id, h.events⟩
  · exact opens_cutAttribute h behind _

theorem idle_inQuotedChar : (t.inQuotedChar host quote c).Idle old := by
  have between : ¬ (ScannerState.between host).ReadsBlock := by cases host <;> exact id
  unfold inQuotedChar
  split_ifs with close angle
  · exact ⟨between, (idle_endAttribute h behind).1.events⟩
  · exact ⟨h.state, h.events⟩
  · exact ⟨h.state, h.events⟩

/-- In a quoted value, a percent sign may open a server block. -/
theorem opens_inQuoted : (t.inQuoted host quote c).Opens old (t.position.advance c) := by
  unfold inQuoted
  split
  · exact .inl (idle_inQuotedChar h behind)
  · simp only
    split_ifs with percent
    · exact .inr ⟨_, _, rfl, h.events⟩
    · exact .inl (idle_inQuotedChar (t := { t with pendingLt := none, attrValue := _ })
        ⟨h.state, h.events⟩ behind)

theorem opens_inAttributeValue :
    (t.inAttributeValue host quote c).Opens old (t.position.advance c) := by
  unfold inAttributeValue
  split
  · split_ifs with blank double single ending
    · exact .inl h
    · exact .inl ⟨id, h.events⟩
    · exact .inl ⟨id, h.events⟩
    · exact opens_cutAttribute h behind _
    · exact .inl ⟨id, h.events⟩
  · split_ifs with ending
    · exact opens_cutAttribute h behind _
    · exact .inl ⟨h.state, h.events⟩
  · exact opens_inQuoted h behind

end

/-! ### Raw text -/

theorem idle_endRawText (h : t.Idle old) (e : OpenTag) (stop : Position) :
    (t.endRawText e stop).Idle old := by
  -- Where no bracket is known at which the raw text ends, nothing but a mark is left.
  have passed : NoNewBlocks old (if t.rawLt.isSome then t else t.goAstray).events := by
    split
    · exact h.events
    · exact h.events
  unfold endRawText
  refine ⟨id, NoNewBlocks.push ?_ nofun⟩
  simp only
  generalize (if t.rawLt.isSome then t else t.goAstray) = u at passed ⊢
  split
  · exact passed.push nofun
  · exact passed

theorem idle_inRawChar (h : t.Idle old) : (t.inRawChar c).Idle old := by
  have tailed :
      ({ t with rawTail := (c :: t.rawTail).take rawTailLength } : Scanner).Idle old :=
    ⟨h.state, h.events⟩
  unfold inRawChar
  simp only
  split_ifs with angle close
  · exact ⟨h.state, h.events⟩
  · split
    · exact ⟨id, h.events⟩
    · split
      · exact idle_endRawText tailed _ _
      · exact tailed
  · exact tailed

/-- In raw text, a percent sign may open a server block. -/
theorem opens_inRawText (h : t.Idle old) :
    (t.inRawText c).Opens old (t.position.advance c) := by
  unfold inRawText
  split
  · exact .inl (idle_inRawChar h)
  · simp only
    split_ifs with percent
    · exact .inr ⟨_, _, rfl, h.events⟩
    · exact .inl (idle_inRawChar (t := { t with pendingLt := none }) ⟨h.state, h.events⟩)

/-- Where no server block is read, a character opens one or leaves it so. -/
theorem opens_step (h : t.Idle old) (behind : ¬ (t.resume.headD .free).ReadsBlock) :
    (t.step c).Opens old (t.position.advance c) := by
  unfold step
  cases hs : t.state with
  | free => exact opens_inFree h
  | tagName => exact opens_inTagName h
  | tag => exact opens_inTag h
  | attributeName host => exact opens_inAttributeName h behind
  | attributeValue host quote => exact opens_inAttributeValue h behind
  | closingTag => exact opens_inClosingTag h
  | bang => exact .inl (idle_inBang h behind)
  | comment | serverComment => exact .inl (idle_inComment h behind _)
  | docType => exact .inl (idle_inDocType h behind)
  | directive => exact .inl (idle_inDirective h behind)
  | directiveName => exact .inl (idle_inDirectiveName h behind)
  | rawText => exact opens_inRawText h
  | blockOpen | serverCommentOpen | block kind =>
    -- In these states a server block is read.
    have other := h.state
    rw [hs] at other
    exact absurd trivial other

end Scanner

end WebForms
