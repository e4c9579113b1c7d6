import WebForms.Proofs.Scanner.Turns
import WebForms.Proofs.Text.LetterCase

/-!
# Letter case makes no difference to reading

Of the characters of a page, reading looks at letters in a few places only: in the names of
elements without content and of raw text elements, where closing tags are matched with open
elements, at the end of raw text, and where an attribute is repeated. All of these ignore letter
case. Reading a lower-cased page is therefore lower-casing what reading the page has gathered, and
two pages that differ in letter case are read in lockstep.

## Main definitions

* `Scanner.lower`, `Pending.lower`, `MarkupEvent.lower` — the same with all letters in lower case
* `Scanner.Alike` — scanners that differ in letter case only

## Main results

* `Scanner.lower_step`, `Scanner.lower_advanceAll` — reading commutes with lower-casing
* `Scanner.alike_advanceAll_take` — pages that differ in letter case are read in lockstep
-/

namespace WebForms

open Text

/-! ### Lower-casing what is read -/

/-- The attributes with names and values in lower case. -/
def AttributeSet.lower (s : AttributeSet) : AttributeSet :=
  ⟨s.entries.map fun (name, value) => (name.toLower, value.toLower)⟩

/-- The name in lower case. -/
def TagName.lower (t : TagName) : TagName :=
  ⟨t.tagPrefix.map String.toLower, t.localName.toLower⟩

/-- The element with its names and values in lower case. -/
def Tag.lower (t : Tag) : Tag :=
  { t with name := t.name.lower, attributes := t.attributes.lower }

/-- The directive with its names and values in lower case. -/
def Directive.lower (d : Directive) : Directive :=
  ⟨d.name.toLower, d.attributes.lower⟩

/-- The server block with its text in lower case. -/
def ServerBlock.lower (b : ServerBlock) : ServerBlock :=
  { b with text := b.text.toLower }

/-- The event with names, values and texts in lower case. -/
def MarkupEvent.lower : MarkupEvent → MarkupEvent
  | text span => text span
  | startTag tag opensScope => startTag tag.lower opensScope
  | endTag name span => endTag name.lower span
  | directive d span => directive d.lower span
  | block b span => block b.lower span
  | plain kind content span => plain kind content.toLower span

/-- The open element with its names and values in lower case. -/
def OpenTag.lower (e : OpenTag) : OpenTag :=
  { e with name := e.name.lower, attributes := e.attributes.lower }

/-- The pending construct with names, values and texts in lower case. -/
def Pending.lower : Pending → Pending
  | element name attributes start => element name.toLower attributes.lower start
  | directive name attributes start => directive name.toLower attributes.lower start
  | block kind text raw start textStart => block kind text.toLower raw.toLower start textStart
  | closingTag name start => closingTag name.toLower start
  | comment kind text start => comment kind text.toLower start

/-- The scanner with everything that it has gathered in lower case. -/
def Scanner.lower (t : Scanner) : Scanner :=
  { t with
    pending := t.pending.map Pending.lower
    openElements := t.openElements.map OpenTag.lower
    lastChar := t.lastChar.map Char.toLower
    attrName := t.attrName.toLower
    attrValue := t.attrValue.toLower
    lastAttr := t.lastAttr.map String.toLower
    rawTail := t.rawTail.map Char.toLower
    events := t.events.map MarkupEvent.lower }

/-! ### Names and attributes -/

namespace TagName

theorem lower_parse (s : String) : (parse s).lower = parse s.toLower := by
  have colon : ∀ c : Char, (c.toLower == ':') = (c == ':') := fun c => by
    rw [Bool.eq_iff_iff, beq_iff_eq, beq_iff_eq, toLower_eq_iff (by decide)]
  rw [parse, parse, toList_toLower, splitFirst?_map_toLower colon]
  cases splitFirst? (· == ':') s.toList with
  | none => rfl
  | some parts =>
    obtain ⟨p, name⟩ := parts
    cases p <;> simp [lower]

@[simp] theorem agrees_lower (t u : TagName) : t.lower.agrees u.lower = t.agrees u := by
  cases ht : t.tagPrefix <;> cases hu : u.tagPrefix <;> simp [agrees, lower, ht, hu]

@[simp] theorem isVoid_lower (t : TagName) : t.lower.isVoid = t.isVoid := by
  simp [isVoid, isPrefixed, lower, sameName]

@[simp] theorem isRawText_lower (t : TagName) : t.lower.isRawText = t.isRawText := by
  simp [isRawText, isPrefixed, lower, sameName]

end TagName

/-- Lower-casing the names goes through insertion, whatever is done to the values. -/
theorem AttributeSet.map_insertEntry (f : String → String) (name value : String)
    (es : List (String × String)) :
    (insertEntry name value es).map (fun (n, v) => (n.toLower, f v)) =
      insertEntry name.toLower (f value) (es.map fun (n, v) => (n.toLower, f v)) := by
  induction es with
  | nil => rfl
  | cons e es ih =>
    simp only [insertEntry, List.map_cons, sameName_toLower, ← ih]
    split <;> rfl

theorem AttributeSet.lower_insert (s : AttributeSet) (name value : String) :
    (s.insert name value).lower = s.lower.insert name.toLower value.toLower :=
  congrArg AttributeSet.mk (map_insertEntry String.toLower name value s.entries)

/-- An attribute goes to the same construct after lower-casing. -/
theorem insertPending?_lower (name value : String) (ps : List Pending) :
    insertPending? name.toLower value.toLower (ps.map Pending.lower) =
      (insertPending? name value ps).map (List.map Pending.lower) := by
  induction ps with
  | nil => rfl
  | cons p ps ih =>
    cases p with
    | element n a s => simp [insertPending?, Pending.lower, AttributeSet.lower_insert]
    | directive n a s => simp [insertPending?, Pending.lower, AttributeSet.lower_insert]
    | block | closingTag | comment =>
      simp only [List.map_cons, Pending.lower, insertPending?, ih, Option.map_map]
      rfl

/-! ### Pending constructs -/

namespace Pending

variable (p : Pending) (c : Char)

theorem lower_pushName? : (p.pushName? c).map lower = p.lower.pushName? c.toLower := by
  cases p <;> simp [pushName?, lower]

theorem lower_pushComment? : (p.pushComment? c).map lower = p.lower.pushComment? c.toLower := by
  cases p <;> simp [pushComment?, lower]

theorem lower_toDocType? (content : String) :
    (p.toDocType? content).map lower = p.lower.toDocType? content.toLower := by
  cases p <;> simp [toDocType?, lower]

theorem lower_pushBlock? : (p.pushBlock? c).map lower = p.lower.pushBlock? c.toLower := by
  cases p <;> simp [pushBlock?, lower]

theorem lower_pushRaw? : (p.pushRaw? c).map lower = p.lower.pushRaw? c.toLower := by
  cases p <;> simp [pushRaw?, lower]

theorem lower_pushText? : (p.pushText? c).map lower = p.lower.pushText? c.toLower := by
  cases p <;> simp [pushText?, lower]

theorem lower_mark? (kind : BlockKind) (textStart : Position) :
    (p.mark? kind c textStart).map lower = p.lower.mark? kind c.toLower textStart := by
  cases p <;> simp [mark?, lower]

theorem lower_startText? (textStart : Position) :
    (p.startText? textStart).map lower = p.lower.startText? textStart := by
  cases p <;> simp [startText?, lower]

theorem lower_toDirective? : p.toDirective?.map lower = p.lower.toDirective? := by
  cases p <;> simp [toDirective?, lower, AttributeSet.lower]

theorem lower_toServerComment? : p.toServerComment?.map lower = p.lower.toServerComment? := by
  cases p <;> simp [toServerComment?, lower]

end Pending

/-- The closing tag at the end of a text is found after lower-casing. -/
theorem closingName?_map_toLower (name cs : List Char) :
    closingName? (name.map Char.toLower) (cs.map Char.toLower) =
      (closingName? name cs).map (List.map Char.toLower) := by
  fun_induction closingName? name cs with
  | case1 name cs => rfl
  | case2 name c cs goesOn ih =>
    rw [List.map_cons, closingName?, ← List.map_cons, ih]
    intro rest slash opened
    obtain ⟨d, ds, rfl, bracket, -⟩ := List.map_eq_cons_iff.mp opened
    -- The slash and the bracket are no letters, so they stand in the text itself.
    rw [toLower_eq_iff (by decide)] at slash bracket
    exact goesOn ds slash (by rw [bracket])
  | case3 name => rfl

/-- A quotation mark is recognised after lower-casing. -/
@[simp] theorem Quote.closing?_eq_some_toLower {quote : Quote} {c : Char} :
    quote.closing? = some c.toLower ↔ quote.closing? = some c := by
  cases quote with
  | double => simp [closing?, eq_comm (a := '"')]
  | single => simp [closing?, eq_comm (a := '\'')]
  | pending | unquoted => simp [closing?]

namespace Scanner

theorem closeInnermost_lower (name : TagName) (es : List OpenTag) :
    closeInnermost name.lower (es.map OpenTag.lower) =
      (closeInnermost name es).map OpenTag.lower := by
  have other : (fun e : OpenTag => !e.name.agrees name.lower) ∘ OpenTag.lower =
      fun e => !e.name.agrees name := funext fun e => by simp [OpenTag.lower]
  rw [closeInnermost, closeInnermost, List.dropWhile_map, other]
  cases es.dropWhile fun e => !e.name.agrees name <;> rfl

variable (t : Scanner) (c : Char) (stop : Position)

/-! ### What lower-casing leaves alone -/

@[simp] theorem state_lower : t.lower.state = t.state := rfl

@[simp] theorem resume_lower : t.lower.resume = t.resume := rfl

@[simp] theorem position_lower : t.lower.position = t.position := rfl

@[simp] theorem offset_lower : t.lower.offset = t.offset := rfl

@[simp] theorem pendingLt_lower : t.lower.pendingLt = t.pendingLt := rfl

@[simp] theorem textStart_lower : t.lower.textStart = t.textStart := rfl

@[simp] theorem selfClosing_lower : t.lower.selfClosing = t.selfClosing := rfl

@[simp] theorem bangDash_lower : t.lower.bangDash = t.bangDash := rfl

@[simp] theorem rawLt_lower : t.lower.rawLt = t.rawLt := rfl

@[simp] theorem pending_lower : t.lower.pending = t.pending.map Pending.lower := rfl

@[simp] theorem openElements_lower :
    t.lower.openElements = t.openElements.map OpenTag.lower := rfl

@[simp] theorem rawTail_lower : t.lower.rawTail = t.rawTail.map Char.toLower := rfl

@[simp] theorem attrName_lower : t.lower.attrName = t.attrName.toLower := rfl

@[simp] theorem attrValue_lower : t.lower.attrValue = t.attrValue.toLower := rfl

@[simp] theorem isSome_lastAttr_lower : t.lower.lastAttr.isSome = t.lastAttr.isSome :=
  Option.isSome_map

@[simp] theorem getD_lastAttr_lower : t.lower.lastAttr.getD "" = (t.lastAttr.getD "").toLower := by
  cases last : t.lastAttr <;> simp [lower, last]

/-- The last character is looked at for a percent sign only. -/
@[simp] theorem lastChar_lower_eq_percent :
    t.lower.lastChar = some '%' ↔ t.lastChar = some '%' := by
  cases last : t.lastChar <;> simp [lower, last]

/-- Where a choice does not depend on letter case, lower-casing passes into it. -/
theorem lower_ite {p q : Prop} [Decidable p] [Decidable q] {t u t' u' : Scanner} (h : p ↔ q)
    (ht : t.lower = t') (hu : u.lower = u') :
    (if p then t else u).lower = if q then t' else u' := by
  rw [apply_ite lower, ht, hu]
  exact if_congr h rfl rfl

/-! ### Recording -/

theorem lower_record (e : MarkupEvent) : (t.record e).lower = t.lower.record e.lower := by
  simp [record, lower]

theorem lower_modifyTop {f g : Pending → Option Pending}
    (h : ∀ p : Pending, (f p).map Pending.lower = g p.lower) :
    (t.modifyTop f).lower = t.lower.modifyTop g := by
  rw [modifyTop, modifyTop, pending_lower]
  cases t.pending with
  | nil => rfl
  | cons p ps =>
    simp only [List.map_cons, ← h]
    cases f p <;> rfl

theorem lower_endText : (t.endText stop).lower = t.lower.endText stop := by
  rw [endText, endText, textStart_lower]
  cases t.textStart with
  | none => rfl
  | some start => exact lower_ite Iff.rfl (lower_record _ _) rfl

theorem lower_beginBlock (start : Position) :
    (t.beginBlock start stop).lower = t.lower.beginBlock start stop := by
  have opening : "<%".toLower = "<%" := toLower_eq_self (by simp)
  simp [beginBlock, lower, Pending.lower, opening]

theorem lower_endAttribute : t.endAttribute.lower = t.lower.endAttribute := by
  refine lower_ite (by simp) (by simp [lower]) ?_
  rw [attrName_lower, attrValue_lower, pending_lower, insertPending?_lower]
  cases insertPending? t.attrName t.attrValue t.pending with
  | none => simp [lower, goAstray]
  | some pending => simp [lower]

theorem lower_endPlain : (t.endPlain stop).lower = t.lower.endPlain stop := by
  rw [endPlain, endPlain, pending_lower]
  cases t.pending with
  | nil => rfl
  | cons p ps =>
    cases p with
    | comment kind content start => simp [lower, record, Pending.lower, MarkupEvent.lower]
    | element | directive | block | closingTag => rfl

theorem lower_endDirective : (t.endDirective stop).lower = t.lower.endDirective stop := by
  rw [endDirective, endDirective, pending_lower]
  cases t.pending with
  | nil => rfl
  | cons p ps =>
    cases p with
    | directive name attributes start =>
      simp [lower, record, Pending.lower, MarkupEvent.lower, Directive.lower]
    | element | block | closingTag | comment => rfl

/-! ### Elements -/

theorem lower_endStartTag : (t.endStartTag stop).lower = t.lower.endStartTag stop := by
  rw [endStartTag, endStartTag, pending_lower]
  cases t.pending with
  | nil => rfl
  | cons p ps =>
    cases p with
    | element name attributes start =>
      simp only [List.map_cons, Pending.lower, ← TagName.lower_parse, TagName.isVoid_lower,
        TagName.isRawText_lower, selfClosing_lower]
      refine lower_ite Iff.rfl ?_ ?_
      · simp only [lower, record, Array.map_push, apply_ite (List.map OpenTag.lower)]
        rfl
      · simp only [lower, record, Array.map_push, apply_ite (List.map OpenTag.lower)]
        rfl
    | directive | block | closingTag | comment => rfl

theorem lower_endElement (name : TagName) (span : Span) :
    (t.endElement name span).lower = t.lower.endElement name.lower span := by
  simp [endElement, lower, record, closeInnermost_lower, MarkupEvent.lower]

theorem lower_endClosingTag : (t.endClosingTag stop).lower = t.lower.endClosingTag stop := by
  rw [endClosingTag, endClosingTag, pending_lower]
  cases t.pending with
  | nil => rfl
  | cons p ps =>
    cases p with
    | closingTag name start =>
      simp only [List.map_cons, Pending.lower, ← TagName.lower_parse]
      have ended := lower_endElement { t with pending := ps } (TagName.parse name) ⟨start, stop⟩
      exact congrArg (fun u => { u with state := .free })
        (lower_ite (p := name.isEmpty) (q := name.toLower.isEmpty) (by simp) rfl ended)
    | element | directive | block | comment => rfl

/-! ### Text -/

theorem lower_inText : (t.inText c).lower = t.lower.inText c.toLower :=
  lower_ite (by simp) rfl (by simp [lower])

theorem lower_inFree : (t.inFree c).lower = t.lower.inFree c.toLower := by
  rw [inFree, inFree, pendingLt_lower]
  cases t.pendingLt with
  | none => exact lower_inText t c
  | some lt =>
    -- Whatever the bracket opens, the text in front of it ends first.
    have ended := lower_endText { t with pendingLt := none } lt
    refine lower_ite (by simp) ?_ (lower_ite (by simp) ?_ (lower_ite (by simp) ?_
      (lower_ite (by simp) ?_ (lower_inText _ c))))
    · rw [lower_beginBlock, ended, position_lower, Position.advance_toLower]
      rfl
    · refine .trans ?_ (congrArg (fun u => { u with
        pending := .closingTag "" lt :: u.pending, state := .closingTag }) ended)
      simp [lower, Pending.lower]
    · refine .trans ?_ (congrArg (fun u => { u with
        pending := .comment .comment "" lt :: u.pending, state := .bang, bangDash := false }) ended)
      simp [lower, Pending.lower]
    · refine .trans ?_ (congrArg (fun u => { u with
        pending := .element (String.singleton c.toLower) {} lt :: u.pending
        selfClosing := false
        lastAttr := none
        state := .tagName }) ended)
      simp [lower, Pending.lower, AttributeSet.lower]

/-! ### Tags -/

theorem lower_inTag : (t.inTag c).lower = t.lower.inTag c.toLower := by
  refine lower_ite (by simp) rfl (lower_ite (by simp) ?_ (lower_ite (by simp) rfl
    (lower_ite (by simp) ?_ (lower_ite (by simp) ?_ (lower_ite (by simp) ?_ rfl)))))
  · rw [lower_endStartTag, position_lower, Position.advance_toLower]
  · rw [getD_lastAttr_lower]
    simp [lower]
  · rw [lower_inFree, lower_endStartTag, position_lower]
  · simp [lower]

theorem lower_inTagName : (t.inTagName c).lower = t.lower.inTagName c.toLower := by
  have named := lower_modifyTop t (Pending.lower_pushName? · c)
  refine lower_ite (by simp) named (lower_ite (by simp) ?_
    (lower_ite (by simp) rfl (lower_ite (by simp) ?_ rfl)))
  · rw [lower_endStartTag, position_lower, Position.advance_toLower]
  · rw [lower_inFree, lower_endStartTag, position_lower]

theorem lower_inClosingTag : (t.inClosingTag c).lower = t.lower.inClosingTag c.toLower := by
  have named := lower_modifyTop t (Pending.lower_pushName? · c)
  refine lower_ite (by simp) ?_ (lower_ite (by simp) named (lower_ite (by simp) ?_ rfl))
  · rw [lower_endClosingTag, position_lower, Position.advance_toLower]
  · rw [lower_inFree, lower_endClosingTag, position_lower]

/-! ### Directives -/

theorem lower_inDirective : (t.inDirective c).lower = t.lower.inDirective c.toLower := by
  refine lower_ite (by simp) ?_ (lower_ite (by simp) rfl (lower_ite (by simp) ?_
    (lower_ite (by simp) ?_ rfl)))
  · rw [lower_endDirective, position_lower, Position.advance_toLower]
  · rw [getD_lastAttr_lower]
    simp [lower]
  · rw [pending_lower]
    cases pending : t.pending with
    | nil => rfl
    | cons p ps =>
      cases p with
      | directive name attributes start =>
        refine lower_ite (by simp) ?_ (by simp [lower, pending])
        exact congrArg (fun u => { u with state := .directiveName })
          (lower_modifyTop t (Pending.lower_pushName? · c))
      | element | block | closingTag | comment =>
        simp only [List.map_cons, Pending.lower]
        rfl

theorem lower_inDirectiveName :
    (t.inDirectiveName c).lower = t.lower.inDirectiveName c.toLower :=
  lower_ite (by simp) (lower_modifyTop t (Pending.lower_pushName? · c)) (lower_inDirective _ c)

/-! ### Attributes -/

theorem lower_inBetween (host : AttributeHost) :
    (t.inBetween host c).lower = t.lower.inBetween host c.toLower := by
  cases host with
  | element => exact lower_inTag _ c
  | directive => exact lower_inDirective _ c

theorem lower_inAttributeName (host : AttributeHost) :
    (t.inAttributeName host c).lower = t.lower.inAttributeName host c.toLower := by
  refine lower_ite (by simp) (by simp [lower]) (lower_ite (by simp) (by simp [lower]) ?_)
  rw [lower_inBetween, ← lower_endAttribute]
  rfl

theorem lower_inQuotedChar (host : AttributeHost) (quote : Quote) :
    (t.inQuotedChar host quote c).lower = t.lower.inQuotedChar host quote c.toLower := by
  refine lower_ite (by simp) ?_ (lower_ite (by simp) rfl (by simp [lower]))
  rw [← lower_endAttribute]
  rfl

theorem lower_inQuoted (host : AttributeHost) (quote : Quote) :
    (t.inQuoted host quote c).lower = t.lower.inQuoted host quote c.toLower := by
  rw [inQuoted, inQuoted, pendingLt_lower]
  cases t.pendingLt with
  | none => exact lower_inQuotedChar t c host quote
  | some lt =>
    refine lower_ite (by simp) ?_ ?_
    · rw [lower_beginBlock, position_lower, Position.advance_toLower]
      rfl
    · rw [lower_inQuotedChar]
      simp [lower]

theorem lower_inAttributeValue (host : AttributeHost) (quote : Quote) :
    (t.inAttributeValue host quote c).lower =
      t.lower.inAttributeValue host quote c.toLower := by
  cases quote with
  | pending =>
    refine lower_ite (by simp) rfl (lower_ite (by simp) rfl (lower_ite (by simp) rfl
      (lower_ite (by simp) ?_ (by simp [lower]))))
    rw [lower_inBetween, lower_endAttribute]
  | unquoted =>
    refine lower_ite (by simp) ?_ (by simp [lower])
    rw [lower_inBetween, lower_endAttribute]
  | double => exact lower_inQuoted t c host .double
  | single => exact lower_inQuoted t c host .single

/-! ### Comments and declarations -/

theorem lower_inDocType : (t.inDocType c).lower = t.lower.inDocType c.toLower := by
  refine lower_ite (by simp) ?_ (lower_modifyTop t (Pending.lower_pushComment? · c))
  rw [lower_endPlain, position_lower, Position.advance_toLower]

theorem lower_inBang : (t.inBang c).lower = t.lower.inBang c.toLower := by
  refine lower_ite (by simp) (lower_ite (by simp) rfl rfl) ?_
  -- The dash that is added is no letter.
  have dash : (if t.bangDash then "-" else "").toLower = if t.bangDash then "-" else "" := by
    rw [apply_ite String.toLower, toLower_empty, toLower_eq_self (by simp)]
  have turned :=
    lower_modifyTop t (Pending.lower_toDocType? · (if t.bangDash then "-" else ""))
  rw [dash] at turned
  rw [lower_inDocType, bangDash_lower, ← turned]
  rfl

theorem lower_inComment {closing : String} (h : ∀ c ∈ closing.toList, c.isAlpha = false) :
    (t.inComment closing c).lower = t.lower.inComment closing c.toLower := by
  rw [inComment, inComment, pending_lower]
  cases t.pending with
  | nil => rfl
  | cons p ps =>
    cases p with
    | comment kind content start =>
      refine lower_ite (by simp [endsWith_toLower _ h]) ?_ (by simp [lower, Pending.lower])
      rw [lower_endPlain, position_lower, Position.advance_toLower]
      simp [lower, Pending.lower]
    | element | directive | block | closingTag => rfl

/-! ### Server blocks -/

theorem lower_endBlock : (t.endBlock stop).lower = t.lower.endBlock stop := by
  rw [endBlock, endBlock, pending_lower]
  cases t.pending with
  | nil => rfl
  | cons p ps =>
    cases p with
    | block kind content raw start textStart =>
      -- A percent sign is cut off in both texts or in neither.
      have stripped :
          (if content.toLower.endsWith "%" then (content.toLower.dropEnd 1).copy
            else content.toLower) =
          (if content.endsWith "%" then (content.dropEnd 1).copy else content).toLower := by
        rw [endsWith_toLower _ (by simp), apply_ite String.toLower, toLower_dropEnd]
      simp only [List.map_cons, Pending.lower, stripped, resume_lower]
      cases t.resume with
      | nil => simp [lower, record, MarkupEvent.lower, ServerBlock.lower]
      | cons state states => cases state <;> simp [lower]
    | element | directive | closingTag | comment => rfl

theorem lower_inServerBlock : (t.inServerBlock c).lower = t.lower.inServerBlock c.toLower := by
  refine lower_ite (by simp) ?_ (lower_modifyTop t (Pending.lower_pushBlock? · c))
  rw [lower_endBlock, position_lower, Position.advance_toLower]

theorem lower_inBlockOpen : (t.inBlockOpen c).lower = t.lower.inBlockOpen c.toLower := by
  refine lower_ite (by simp) ?_ (lower_ite (by simp) ?_ ?_)
  · rw [← lower_modifyTop t Pending.lower_toDirective?]
    rfl
  · rw [← lower_modifyTop t (Pending.lower_pushRaw? · c)]
    rfl
  · rw [BlockKind.ofMarker?_toLower, position_lower, Position.advance_toLower]
    cases BlockKind.ofMarker? c with
    | none =>
      have begun := lower_modifyTop t (Pending.lower_startText? · t.position)
      refine (lower_inServerBlock _ c).trans ?_
      exact congrArg (fun u => inServerBlock { u with state := .block .code } c.toLower) begun
    | some kind =>
      have marked := lower_modifyTop t (Pending.lower_mark? · c kind (t.position.advance c))
      exact congrArg (fun u => { u with state := .block kind }) marked

theorem lower_inServerCommentOpen :
    (t.inServerCommentOpen c).lower = t.lower.inServerCommentOpen c.toLower := by
  have dash := lower_modifyTop t (Pending.lower_pushText? · '-')
  refine lower_ite (by simp) ?_ ?_
  · rw [← lower_modifyTop t Pending.lower_toServerComment?]
    rfl
  · rw [lower_inServerBlock]
    exact congrArg (fun u => inServerBlock { u with state := .block .code } c.toLower) dash

/-! ### Raw text -/

theorem tailCloses_lower (e : OpenTag) : t.lower.tailCloses e.lower = t.tailCloses e := by
  have found := closingName?_map_toLower [] t.rawTail.tail
  rw [List.map_nil, List.map_tail, ← rawTail_lower] at found
  rw [tailCloses, tailCloses, found]
  cases closingName? [] t.rawTail.tail with
  | none => rfl
  | some name =>
    change sameName (String.ofList (trimChars (name.map Char.toLower))) e.name.localName.toLower =
      sameName (String.ofList (trimChars name)) e.name.localName
    rw [trimChars_map_toLower, ← toLower_ofList, sameName_toLower]

theorem lower_endRawText (e : OpenTag) :
    (t.endRawText e stop).lower = t.lower.endRawText e.lower stop := by
  have begun : (if t.rawLt.isSome then t else t.goAstray).lower =
      if t.lower.rawLt.isSome then t.lower else t.lower.goAstray := lower_ite Iff.rfl rfl rfl
  rw [endRawText, endRawText, ← begun, rawLt_lower, position_lower]
  -- What follows is the same whether the closing tag was noted or not.
  generalize (if t.rawLt.isSome then t else t.goAstray) = u
  generalize t.rawLt.getD t.position = lt
  have recorded : (if u.rawStart < lt then u.record (.text ⟨u.rawStart, lt⟩) else u).lower =
      if u.rawStart < lt then u.lower.record (.text ⟨u.rawStart, lt⟩) else u.lower :=
    lower_ite Iff.rfl (lower_record u _) rfl
  have ended := lower_endElement
    (if u.rawStart < lt then u.record (.text ⟨u.rawStart, lt⟩) else u) e.name ⟨lt, stop⟩
  rw [recorded] at ended
  exact congrArg (fun v => { v with state := .free }) ended

theorem lower_inRawChar : (t.inRawChar c).lower = t.lower.inRawChar c.toLower := by
  have tail : { t.lower with rawTail := (c.toLower :: t.lower.rawTail).take rawTailLength } =
      { t with rawTail := (c :: t.rawTail).take rawTailLength }.lower := by
    simp [lower, List.map_take]
  rw [inRawChar, inRawChar, tail]
  generalize { t with rawTail := (c :: t.rawTail).take rawTailLength } = u
  refine lower_ite (by simp) rfl (lower_ite (by simp) ?_ rfl)
  rw [openElements_lower]
  cases u.openElements with
  | nil => rfl
  | cons e es =>
    refine lower_ite (by simp [tailCloses_lower]) ?_ rfl
    rw [lower_endRawText, position_lower, Position.advance_toLower]

theorem lower_inRawText : (t.inRawText c).lower = t.lower.inRawText c.toLower := by
  rw [inRawText, inRawText, pendingLt_lower]
  cases t.pendingLt with
  | none => exact lower_inRawChar t c
  | some lt =>
    refine lower_ite (by simp) ?_ (lower_inRawChar _ c)
    rw [lower_beginBlock, position_lower, Position.advance_toLower]
    rfl

/-! ### Whole texts -/

/-- What a character does to the lower-cased scanner is what it does to the scanner, in lower
case. -/
theorem lower_step : (t.step c).lower = t.lower.step c.toLower := by
  rw [step, step, state_lower]
  cases t.state with
  | free => exact lower_inFree t c
  | tagName => exact lower_inTagName t c
  | tag => exact lower_inTag t c
  | attributeName host => exact lower_inAttributeName t c host
  | attributeValue host quote => exact lower_inAttributeValue t c host quote
  | closingTag => exact lower_inClosingTag t c
  | bang => exact lower_inBang t c
  | comment => exact lower_inComment t c (by simp)
  | docType => exact lower_inDocType t c
  | blockOpen => exact lower_inBlockOpen t c
  | serverCommentOpen => exact lower_inServerCommentOpen t c
  | serverComment => exact lower_inComment t c (by simp)
  | block kind => exact lower_inServerBlock t c
  | directive => exact lower_inDirective t c
  | directiveName => exact lower_inDirectiveName t c
  | rawText => exact lower_inRawText t c

theorem lower_advance : (t.advance c).lower = t.lower.advance c.toLower := by
  rw [advance, advance, ← lower_step, position_lower, Position.advance_toLower, utf8Size_toLower]
  rfl

/-- Reading a lower-cased text is reading the text, in lower case. -/
theorem lower_advanceAll (cs : List Char) :
    (t.advanceAll cs).lower = t.lower.advanceAll (cs.map Char.toLower) := by
  induction cs generalizing t with
  | nil => rfl
  | cons c cs ih => rw [advanceAll_cons, ih, lower_advance, List.map_cons, advanceAll_cons]

/-! ### Two readings -/

/-- The scanners are in the same state at the same place, with the same constructs pending and open
and the same events recorded, but for the letter case of names, values and texts. -/
structure Alike (t u : Scanner) : Prop where
  state : t.state = u.state
  resume : t.resume = u.resume
  position : t.position = u.position
  offset : t.offset = u.offset
  pending : t.pending.map Pending.lower = u.pending.map Pending.lower
  openElements : t.openElements.map OpenTag.lower = u.openElements.map OpenTag.lower
  attrName : t.attrName.toLower = u.attrName.toLower
  attrValue : t.attrValue.toLower = u.attrValue.toLower
  events : t.events.map MarkupEvent.lower = u.events.map MarkupEvent.lower

theorem alike_of_lower_eq {t u : Scanner} (h : t.lower = u.lower) : t.Alike u where
  state := by simpa using congrArg Scanner.state h
  resume := by simpa using congrArg Scanner.resume h
  position := by simpa using congrArg Scanner.position h
  offset := by simpa using congrArg Scanner.offset h
  pending := congrArg Scanner.pending h
  openElements := congrArg Scanner.openElements h
  attrName := congrArg Scanner.attrName h
  attrValue := congrArg Scanner.attrValue h
  events := congrArg Scanner.events h

/-- Pages that differ in letter case only are read in lockstep. -/
theorem alike_advanceAll_take {cs ds : List Char}
    (h : List.Forall₂ (fun c d => c.toLower = d.toLower) cs ds) (n : Nat) :
    (({} : Scanner).advanceAll (cs.take n)).Alike (({} : Scanner).advanceAll (ds.take n)) := by
  -- In lower case both pages are the same text.
  have same : (cs.take n).map Char.toLower = (ds.take n).map Char.toLower := by
    rw [← List.forall₂_eq_eq_eq, List.forall₂_map_left_iff, List.forall₂_map_right_iff]
    exact List.forall₂_take n h
  apply alike_of_lower_eq
  rw [lower_advanceAll, lower_advanceAll, same]

theorem alike_advanceAll_take_letter :
    List.Forall₂ (fun c d : Char => c.toLower = d.toLower) ['<', 'A', '>'] ['<', 'a', '>'] ∧
      (({} : Scanner).advanceAll (['<', 'A', '>'].take 2)).Alike
        (({} : Scanner).advanceAll (['<', 'a', '>'].take 2)) :=
  ⟨by decide, alike_advanceAll_take (by decide) 2⟩

end Scanner

end WebForms
