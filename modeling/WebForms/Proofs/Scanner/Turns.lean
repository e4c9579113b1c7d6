import Mathlib.Tactic.SplitIfs
import WebForms.Proofs.Scanner.Consistency

/-!
# What a character does to a skeleton

Each function that reads a character in some state is shown to take one of the turns that a
skeleton has, provided that the construct the state reads is the innermost one. A consistent
skeleton provides this in every state, so every step of a scanner is a turn.

## Main results

* `turn_step` — the effect of a character on a consistent skeleton
-/

namespace WebForms

namespace Scanner

open Skeleton

variable {t : Scanner} {c : Char} {s : Skeleton} {p q : Pending} {ps : List Pending}
  {host : AttributeHost}

/-! ### Operations -/

theorem modifyTop_eq {f : Pending → Option Pending} (hp : t.pending = p :: ps)
    (hf : f p = some q) : t.modifyTop f = { t with pending := q :: ps } := by
  simp only [modifyTop, hp, hf]

theorem skeleton_endText (t : Scanner) (stop : Position) :
    (t.endText stop).skeleton = t.skeleton.endText stop := by
  unfold endText Skeleton.endText
  cases h : t.textStart with
  | none => simp [skeleton, h]
  | some start =>
    simp only [skeleton, h]
    split <;> rfl

/-- Ending an attribute changes the attributes of the construct that has it, and nothing else. -/
theorem exists_endAttribute_withAttributes (hp : t.pending = p :: ps)
    (hosts : p.Suits (.attributeName host)) :
    ∃ a, t.endAttribute =
        { t with pending := p.withAttributes a :: ps, attrName := "", attrValue := "" } ∧
      ∀ b ∈ p.attributes?, b.names <+: a.names := by
  unfold endAttribute
  cases p with
  | element n a start =>
    -- Without a name there is no attribute, and the construct stays as it is.
    by_cases hname : t.attrName.isEmpty
    · exact ⟨a, by simp [hname, Pending.withAttributes, ← hp], by rintro b ⟨⟩; exact List.prefix_refl _⟩
    · exact ⟨a.insert t.attrName t.attrValue,
        by simp [hname, hp, insertPending?, Pending.withAttributes],
        by rintro b ⟨⟩; exact a.names_prefix_names_insert _ _⟩
  | directive n a start =>
    by_cases hname : t.attrName.isEmpty
    · exact ⟨a, by simp [hname, Pending.withAttributes, ← hp], by rintro b ⟨⟩; exact List.prefix_refl _⟩
    · exact ⟨a.insert t.attrName t.attrValue,
        by simp [hname, hp, insertPending?, Pending.withAttributes],
        by rintro b ⟨⟩; exact a.names_prefix_names_insert _ _⟩
  | block | closingTag | comment => exact hosts.elim

/-- Ending an attribute leaves everything about the construct but its attributes. -/
theorem exists_endAttribute_eq (hp : t.pending = p :: ps) (hosts : p.Suits (.attributeName host)) :
    ∃ q, t.endAttribute = { t with pending := q :: ps, attrName := "", attrValue := "" } ∧
      q.start = p.start ∧ q.isServer = p.isServer ∧ (∀ state, p.Suits state → q.Suits state) ∧
      ∀ state next, next ≠ .tagName → p.Continues state next q := by
  obtain ⟨a, ended, names⟩ := exists_endAttribute_withAttributes hp hosts
  exact ⟨p.withAttributes a, ended, p.start_withAttributes a, p.isServer_withAttributes a,
    fun state h => (p.suits_withAttributes a).mpr h,
    fun _ _ other => Pending.continues_withAttributes other names⟩

@[simp] theorem pendingLt_endStartTag (t : Scanner) (stop : Position) :
    (t.endStartTag stop).pendingLt = t.pendingLt := by
  unfold endStartTag
  split
  · simp only [record]
    split <;> rfl
  · rfl

@[simp] theorem position_endStartTag (t : Scanner) (stop : Position) :
    (t.endStartTag stop).position = t.position := by
  unfold endStartTag
  split
  · simp only [record]
    split <;> rfl
  · rfl

theorem tagEnd_endStartTag {n a st} (hp : t.pending = .element n a st :: ps) (stop : Position) :
    TagEnd stop t.skeleton (t.endStartTag stop).skeleton := by
  let tag : Tag :=
    { name := TagName.parse n, attributes := a, startTag := ⟨st, stop⟩
      selfClosing := t.selfClosing }
  unfold endStartTag
  simp only [hp, record]
  cases hopens : !t.selfClosing && !(TagName.parse n).isVoid with
  | false =>
    simp only [Bool.false_and, Bool.false_eq_true, if_false]
    have closed : tag.selfClosing || tag.name.isVoid := by
      simpa only [← Bool.not_or, Bool.not_eq_eq_eq_not, Bool.not_false] using hopens
    exact .leaf hp tag rfl closed rfl rfl
  | true =>
    have opens : !(tag.selfClosing || tag.name.isVoid) := by simpa [tag] using hopens
    cases hraw : (TagName.parse n).isRawText with
    | false =>
      simp only [Bool.and_false, Bool.false_eq_true, if_false, if_true]
      exact .scope hp tag rfl opens (by simpa [tag] using hraw) rfl rfl
    | true =>
      simp only [Bool.and_true, if_true]
      exact .raw hp tag rfl opens hraw rfl rfl

theorem tagEnd_endClosingTag {n st} (hp : t.pending = .closingTag n st :: ps) (stop : Position) :
    TagEnd stop t.skeleton (t.endClosingTag stop).skeleton := by
  unfold endClosingTag
  simp only [hp]
  split
  · exact .nameless hp
  · exact .closing hp _

@[simp] theorem pendingLt_endClosingTag (t : Scanner) (stop : Position) :
    (t.endClosingTag stop).pendingLt = t.pendingLt := by
  simp only [endClosingTag]
  split
  · split <;> rfl
  · rfl

@[simp] theorem position_endClosingTag (t : Scanner) (stop : Position) :
    (t.endClosingTag stop).position = t.position := by
  simp only [endClosingTag]
  split
  · split <;> rfl
  · rfl

/-- An angle bracket between constructs is held back. -/
theorem skeleton_inFree_angle (hlt : t.pendingLt = none) :
    (t.inFree '<').skeleton = t.skeleton.hold t.position := by
  simp [inFree, hlt, inText, skeleton, Skeleton.hold]

/-! ### Between constructs -/

theorem turn_inText (hs : t.state = .free) (hlt : t.pendingLt = none) :
    Turn c t.position t.skeleton (t.inText c).skeleton := by
  unfold inText
  split
  · exact .text hs _ (.inr rfl)
  · exact .text hs _ (.inl hlt)

theorem turn_inFree (hs : t.state = .free) :
    Turn c t.position t.skeleton (t.inFree c).skeleton := by
  unfold inFree
  cases hlt : t.pendingLt with
  | none => exact turn_inText hs hlt
  | some lt =>
    have htext := skeleton_endText { t with pendingLt := none } lt
    have hopen {p : Pending} {state : ScannerState} (start : p.start = lt) (suits : p.Suits state)
        (begins : p.Begins c) : Turn c t.position t.skeleton
          ((({ t with pendingLt := none } : Scanner).endText lt).skeleton.push p state) := by
      rw [htext]
      exact .opening hs hlt start suits begins
    simp only
    split_ifs with percent slash bang name
    · exact hopen rfl rfl trivial
    · exact hopen (p := .closingTag "" lt) rfl trivial trivial
    · exact hopen (p := .comment .comment "" lt) rfl rfl trivial
    · exact hopen (p := .element (String.singleton c) {} lt) rfl trivial
        ⟨String.toList_singleton c, name, rfl⟩
    · -- The angle bracket opens nothing, and the character may be the next angle bracket.
      unfold inText
      split_ifs with angle
      · exact .text hs _ (.inr rfl)
      · exact .text hs _ (.inl rfl)

/-! ### Tags -/

section

variable (h : Stays t.position s t.skeleton) (hlt : t.pendingLt = none)
include h hlt

theorem turn_modifyTop {f : Pending → Option Pending} (hp : t.pending = p :: ps) (hf : f p = some q)
    (start : q.start = p.start) (server : q.isServer = p.isServer) (suits : q.Suits t.state)
    (continues : p.Continues s.state t.state q) :
    Turn c t.position s (t.modifyTop f).skeleton := by
  rw [modifyTop_eq hp hf]
  exact .stay (h.change hp start server suits (.inl hlt) continues)

theorem turn_inTag {n : String} {a : AttributeSet} {start : Position}
    (hp : t.pending = .element n a start :: ps) : Turn c t.position s (t.inTag c).skeleton := by
  unfold inTag
  split_ifs with blank close slash equals angle name
  · exact .stay h
  · exact .endTag h hlt (tagEnd_endStartTag hp _)
  · exact .stay h
  · exact .stay (h.moveTo hlt hp rfl nofun)
  · -- The tag ends in front of the angle bracket, which is then read between constructs.
    subst angle
    rw [skeleton_inFree_angle (by simpa using hlt), position_endStartTag]
    exact .cutTag rfl h hlt (tagEnd_endStartTag hp _)
  · exact .stay (h.moveTo hlt hp rfl nofun)
  · exact .stay h

theorem turn_inTagName {n : String} {a : AttributeSet} {start : Position}
    (hs : t.state = .tagName) (named : s.state = .tagName) (hp : t.pending = .element n a start :: ps) :
    Turn c t.position s (t.inTagName c).skeleton := by
  unfold inTagName
  split_ifs with name close slash angle
  · have grown : ∃ cs, (n.push c).toList = n.toList ++ cs ∧ ∀ d ∈ cs, isNameChar d :=
      ⟨[c], String.toList_push c, List.forall_mem_singleton.mpr name⟩
    exact turn_modifyTop h hlt hp rfl rfl rfl (by rw [hs]; trivial)
      ⟨rfl, List.prefix_refl _, grown, fun other => absurd named other⟩
  · exact .endTag h hlt (tagEnd_endStartTag hp _)
  · exact .stay (h.moveTo hlt hp trivial nofun)
  · subst angle
    rw [skeleton_inFree_angle (by simpa using hlt), position_endStartTag]
    exact .cutTag rfl h hlt (tagEnd_endStartTag hp _)
  · exact .stay (h.moveTo hlt hp trivial nofun)

theorem turn_inClosingTag {n : String} {start : Position} (hs : t.state = .closingTag)
    (hp : t.pending = .closingTag n start :: ps) :
    Turn c t.position s (t.inClosingTag c).skeleton := by
  unfold inClosingTag
  split_ifs with close name angle
  · exact .endTag h hlt (tagEnd_endClosingTag hp _)
  · exact turn_modifyTop h hlt hp rfl rfl rfl (by rw [hs]; trivial) trivial
  · subst angle
    rw [skeleton_inFree_angle (by simpa using hlt), position_endClosingTag]
    exact .cutTag rfl h hlt (tagEnd_endClosingTag hp _)
  · exact .stay h

/-! ### Directives -/

theorem turn_inDirective {n : String} {a : AttributeSet} {start : Position}
    (hp : t.pending = .directive n a start :: ps) :
    Turn c t.position s (t.inDirective c).skeleton := by
  unfold inDirective
  split_ifs with close blank equals name
  · unfold endDirective
    simp only [hp]
    exact .endDirective h hlt hp
  · exact .stay h
  · exact .stay (h.moveTo hlt hp rfl nofun)
  · split
    next hp' =>
      split_ifs with first
      · rw [modifyTop_eq (f := Pending.pushName? c) hp' rfl]
        exact .stay (h.change hp' rfl rfl trivial (.inl hlt) trivial)
      · exact .stay (h.moveTo hlt hp' rfl nofun)
    next other => exact (other _ _ _ _ hp).elim
  · exact .stay h

theorem turn_inDirectiveName {n : String} {a : AttributeSet} {start : Position}
    (hs : t.state = .directiveName) (hp : t.pending = .directive n a start :: ps) :
    Turn c t.position s (t.inDirectiveName c).skeleton := by
  unfold inDirectiveName
  split_ifs with name
  · exact turn_modifyTop h hlt hp rfl rfl rfl (by rw [hs]; trivial) trivial
  · exact turn_inDirective (t := { t with state := .directive }) (h.moveTo hlt hp trivial nofun)
      hlt hp

/-! ### Attributes -/

theorem turn_inBetween (hp : t.pending = p :: ps) (hosts : p.Suits (.attributeName host)) :
    Turn c t.position s (t.inBetween host c).skeleton := by
  unfold inBetween
  cases p with
  | element n a start =>
    obtain rfl : host = .element := hosts
    exact turn_inTag (t := { t with state := .tag }) (h.moveTo hlt hp trivial nofun) hlt hp
  | directive n a start =>
    obtain rfl : host = .directive := hosts
    exact turn_inDirective (t := { t with state := .directive }) (h.moveTo hlt hp trivial nofun)
      hlt hp
  | block | closingTag | comment => exact hosts.elim

/-- After an attribute, reading goes on between the attributes. -/
theorem turn_endAttribute (hp : t.pending = p :: ps) (hosts : p.Suits (.attributeName host))
    (last : Option String) :
    Turn c t.position s ({ t.endAttribute with lastAttr := last }.inBetween host c).skeleton := by
  obtain ⟨q, ended, start, server, keeps, continues⟩ := exists_endAttribute_eq hp hosts
  have changed : Stays t.position s
      { t.skeleton with pending := q :: ps, state := .attributeName host } :=
    h.change hp start server (keeps _ hosts) (.inl hlt) (continues _ _ nofun)
  rw [ended]
  exact turn_inBetween
    (t := { t with
      pending := q :: ps, state := .attributeName host, attrName := "", attrValue := ""
      lastAttr := last })
    changed hlt rfl (keeps _ hosts)

theorem turn_inAttributeName (hp : t.pending = p :: ps)
    (hosts : p.Suits (.attributeName host)) :
    Turn c t.position s (t.inAttributeName host c).skeleton := by
  unfold inAttributeName
  split_ifs with name equals
  · exact .stay h
  · exact .stay (h.moveTo hlt hp (Pending.suits_attributeValue.mpr hosts) nofun)
  · exact turn_endAttribute h hlt hp hosts _

/-- A quoted value goes on, or ends. -/
theorem turn_inQuotedChar {quote : Quote} (hs : t.state = .attributeValue host quote)
    (quoted : quote.closing?.isSome) (hp : t.pending = p :: ps)
    (hosts : p.Suits (.attributeName host)) :
    Turn c t.position s (t.inQuotedChar host quote c).skeleton := by
  unfold inQuotedChar
  split_ifs with close angle
  · obtain ⟨q, ended, start, server, suits, continues⟩ := exists_endAttribute_eq hp hosts
    have other : ScannerState.between host ≠ .tagName := by cases host <;> nofun
    rw [ended]
    exact .stay
      (h.change hp start server (suits _ hosts).between (.inl hlt) (continues _ _ other))
  · have inQuotes : t.state.InQuotes := by rw [hs]; exact quoted
    exact .stay (h.holdBack (.inr ⟨rfl, inQuotes⟩))
  · exact .stay h

end

theorem turn_inQuoted {quote : Quote} (hs : t.state = .attributeValue host quote)
    (quoted : quote.closing?.isSome) (hp : t.pending = p :: ps)
    (hosts : p.Suits (.attributeName host)) :
    Turn c t.position t.skeleton (t.inQuoted host quote c).skeleton := by
  have value : p.Suits t.state := by rw [hs]; exact Pending.suits_attributeValue.mpr hosts
  unfold inQuoted
  cases hlt : t.pendingLt with
  | none => exact turn_inQuotedChar (.ofTop hp value (.inl hlt) (.inr rfl)) hlt hs quoted hp hosts
  | some lt =>
    simp only
    split_ifs with percent
    · exact .suspend (.inl (by rw [skeleton, hs]; exact quoted)) hlt rfl rfl
    · -- The angle bracket that was held back turns out to be part of the value.
      exact turn_inQuotedChar (t := { t with pendingLt := none, attrValue := t.attrValue.push '<' })
        (.ofTop hp value (.inl rfl) (.inr rfl)) rfl hs quoted hp hosts

theorem turn_inAttributeValue {quote : Quote} (hs : t.state = .attributeValue host quote)
    (hlt : ¬ quote.closing?.isSome → t.pendingLt = none) (hp : t.pending = p :: ps)
    (hosts : p.Suits (.attributeName host)) :
    Turn c t.position t.skeleton (t.inAttributeValue host quote c).skeleton := by
  have value (quote : Quote) : p.Suits (.attributeValue host quote) :=
    Pending.suits_attributeValue.mpr hosts
  have suits : p.Suits t.state := by rw [hs]; exact value quote
  cases quote with
  | double => exact turn_inQuoted hs rfl hp hosts
  | single => exact turn_inQuoted hs rfl hp hosts
  | pending =>
    have hlt : t.pendingLt = none := hlt Bool.false_ne_true
    have h : Stays t.position t.skeleton t.skeleton :=
      .ofTop hp suits (.inl hlt) (.inr rfl)
    simp only [inAttributeValue]
    split_ifs with blank double single next
    · exact .stay h
    · exact .stay (h.moveTo hlt hp (value _) nofun)
    · exact .stay (h.moveTo hlt hp (value _) nofun)
    · exact turn_endAttribute h hlt hp hosts t.endAttribute.lastAttr
    · exact .stay (h.moveTo hlt hp (value _) nofun)
  | unquoted =>
    have hlt : t.pendingLt = none := hlt Bool.false_ne_true
    have h : Stays t.position t.skeleton t.skeleton :=
      .ofTop hp suits (.inl hlt) (.inr rfl)
    simp only [inAttributeValue]
    split_ifs with next
    · exact turn_endAttribute h hlt hp hosts t.endAttribute.lastAttr
    · exact .stay h

/-! ### Comments and declarations -/

section

variable (h : Stays t.position s t.skeleton) (hlt : t.pendingLt = none)
include h hlt

theorem turn_endPlain {kind : PlainKind} {text : String} {start : Position}
    (hp : t.pending = .comment kind text start :: ps) :
    Turn c t.position s (t.endPlain (t.position.advance c)).skeleton := by
  unfold endPlain
  simp only [hp]
  exact .endPlain h hlt hp text

theorem turn_inDocType {text : String} {start : Position} (hs : t.state = .docType)
    (hp : t.pending = .comment .docType text start :: ps) :
    Turn c t.position s (t.inDocType c).skeleton := by
  unfold inDocType
  split_ifs with close
  · exact turn_endPlain h hlt hp
  · exact turn_modifyTop h hlt hp rfl rfl rfl (by rw [hs]; rfl) trivial

theorem turn_inBang {text : String} {start : Position}
    (hp : t.pending = .comment .comment text start :: ps) :
    Turn c t.position s (t.inBang c).skeleton := by
  have declaration (dash : String) : Turn c t.position s
      ({ t.modifyTop (Pending.toDocType? dash) with
        bangDash := false, state := .docType }.inDocType c).skeleton := by
    rw [modifyTop_eq (f := Pending.toDocType? dash) hp rfl]
    exact turn_inDocType
      (t := { t with
        pending := .comment .docType (text ++ dash) start :: ps, bangDash := false
        state := .docType })
      (h.change hp rfl rfl rfl (.inl hlt) trivial) hlt rfl rfl
  unfold inBang
  split_ifs with dash second first
  · exact .stay (h.moveTo hlt hp rfl nofun)
  · exact .stay h
  · exact declaration "-"
  · exact declaration ""

theorem turn_inComment {kind : PlainKind} {text closing : String} {start : Position}
    (hp : t.pending = .comment kind text start :: ps)
    (suits : (Pending.comment kind text start).Suits t.state) :
    Turn c t.position s (t.inComment closing c).skeleton := by
  have changed (text' : String) : Stays t.position s
      { t.skeleton with pending := .comment kind text' start :: ps } := by
    exact h.change hp rfl (by cases kind <;> rfl) suits.comment (.inl hlt) trivial
  unfold inComment
  simp only [hp]
  split_ifs with close
  · exact turn_endPlain (t := { t with pending := .comment kind _ start :: ps }) (changed _) hlt rfl
  · exact .stay (changed _)

/-! ### Server blocks -/

theorem turn_endBlock {kind : BlockKind} {text raw : String} {start textStart : Position}
    (hp : t.pending = .block kind text raw start textStart :: ps) :
    Turn c t.position s (t.endBlock (t.position.advance c)).skeleton := by
  unfold endBlock
  simp only [hp]
  generalize (if text.endsWith "%" then (text.dropEnd 1).copy else text) = text'
  cases hr : t.resume with
  | nil =>
    -- Nothing is suspended: the block stands between other constructs and is recorded.
    have ended := Turn.endBlock (c := c) h hlt hp hr ⟨kind, text', textStart⟩
    simp only [takeUp, Skeleton.record, skeleton, hr] at ended
    exact ended
  | cons state states =>
    -- A value takes in the source of the block, but the skeleton does not see what is in a value.
    have dropped := Turn.dropBlock (c := c) h hlt hp (by simp [skeleton, hr])
    simp only [takeUp, skeleton, hr, List.headD_cons, List.tail_cons] at dropped
    cases state <;> exact dropped

theorem turn_inServerBlock {kind : BlockKind} {text raw : String} {start textStart : Position}
    (hs : t.state = .block kind) (hp : t.pending = .block kind text raw start textStart :: ps) :
    Turn c t.position s (t.inServerBlock c).skeleton := by
  unfold inServerBlock
  split_ifs with close
  · exact turn_endBlock h hlt hp
  · exact turn_modifyTop h hlt hp rfl rfl rfl (by rw [hs]; rfl) trivial

theorem turn_inBlockOpen {text raw : String} {start textStart : Position}
    (hp : t.pending = .block .code text raw start textStart :: ps) :
    Turn c t.position s (t.inBlockOpen c).skeleton := by
  unfold inBlockOpen
  split_ifs with at' dash
  · rw [modifyTop_eq (f := Pending.toDirective?) hp rfl]
    exact .stay (h.change hp rfl rfl trivial (.inl hlt) trivial)
  · rw [modifyTop_eq (f := Pending.pushRaw? c) hp rfl]
    exact .stay (h.change hp rfl rfl rfl (.inl hlt) trivial)
  · split
    next kind marked =>
      rw [modifyTop_eq (f := Pending.mark? kind c (t.position.advance c)) hp rfl]
      exact .stay (h.change hp rfl rfl rfl (.inl hlt) trivial)
    next unmarked =>
      -- Without a marker the character is the first one of the code.
      rw [modifyTop_eq (f := Pending.startText? t.position) hp rfl]
      exact turn_inServerBlock
        (t := { t with
          pending := .block .code text raw start t.position :: ps, state := .block .code })
        (h.change hp rfl rfl rfl (.inl hlt) trivial) hlt rfl rfl

theorem turn_inServerCommentOpen {text raw : String} {start textStart : Position}
    (hp : t.pending = .block .code text raw start textStart :: ps) :
    Turn c t.position s (t.inServerCommentOpen c).skeleton := by
  unfold inServerCommentOpen
  split_ifs with dash
  · rw [modifyTop_eq (f := Pending.toServerComment?) hp rfl]
    exact .stay (h.change hp rfl rfl rfl (.inl hlt) trivial)
  · -- The dash was part of the code, and so is what follows it.
    rw [modifyTop_eq (f := Pending.pushText? '-') hp rfl]
    exact turn_inServerBlock
      (t := { t with
        pending := .block .code (text.push '-') raw start textStart :: ps, state := .block .code })
      (h.change hp rfl rfl rfl (.inl hlt) trivial) hlt rfl rfl

end

/-! ### Raw text -/

/-- What is read as the name in a closing tag is preceded by an angle bracket. -/
theorem mem_of_closingName? {name cs found : List Char} (h : closingName? name cs = some found) :
    '<' ∈ cs := by
  fun_induction closingName? name cs with
  | case1 name cs => simp
  | case2 name c cs other ih => exact List.mem_cons_of_mem _ (ih h)
  | case3 => simp at h

theorem mem_of_tailCloses {e : OpenTag} (h : t.tailCloses e) : '<' ∈ t.rawTail.tail := by
  unfold tailCloses at h
  split at h
  next found => exact mem_of_closingName? found
  next => exact absurd h (by decide)

theorem turn_endRawText (hs : t.state = .rawText) {e : OpenTag} {es : List OpenTag}
    (he : t.openElements = e :: es) {lt : Position} (hlt : t.rawLt = some lt) :
    Turn c t.position t.skeleton
      ({ t with pendingLt := none, rawTail := (c :: t.rawTail).take rawTailLength }.endRawText e
        (t.position.advance c)).skeleton := by
  have ended := @Turn.endRaw c t.position t.skeleton hs e es he lt hlt
  have closed : closeInnermost e.name t.openElements = es := by
    rw [he, closeInnermost_cons_of_agrees e.name.agrees_self]
  simp only [endRawText, endElement, hlt, Option.getD_some, Option.isSome_some, if_true]
  rw [← hlt]
  -- An element without content has no text to record.
  by_cases nonempty : t.rawStart < lt
  · rw [if_pos (show t.skeleton.rawStart < lt from nonempty)] at ended
    simp only [nonempty, if_true, record, closed]
    exact ended
  · rw [if_neg (show ¬ t.skeleton.rawStart < lt from nonempty)] at ended
    simp only [nonempty, if_false, record, closed]
    exact ended

theorem turn_inRawChar (hs : t.state = .rawText) (ho : t.openElements ≠ [])
    (hangle : '<' ∈ t.rawTail → t.rawLt.isSome) :
    Turn c t.position t.skeleton
      (({ t with pendingLt := none } : Scanner).inRawChar c).skeleton := by
  obtain ⟨e, es, he⟩ := List.exists_cons_of_ne_nil ho
  have hs' : t.skeleton.state = .rawText := hs
  unfold inRawChar
  split_ifs with angle close
  · exact .rawAngle (s := t.skeleton) hs' angle
  · simp only [he]
    rw [← he]
    split_ifs with closes
    · -- The closing tag is among the latest characters, so the place where it starts is known.
      have inTail := List.mem_of_mem_take (List.mem_of_mem_tail (mem_of_tailCloses closes))
      have inTail' : '<' ∈ t.rawTail := by simpa [close] using inTail
      obtain ⟨lt, hlt⟩ := Option.isSome_iff_exists.mp (hangle inTail')
      exact turn_endRawText hs he hlt
    · exact .rawChar (s := t.skeleton) hs' angle
  · exact .rawChar (s := t.skeleton) hs' angle

theorem turn_inRawText (hs : t.state = .rawText) (ho : t.openElements ≠ [])
    (hangle : '<' ∈ t.rawTail → t.rawLt.isSome) :
    Turn c t.position t.skeleton (t.inRawText c).skeleton := by
  have turned := turn_inRawChar (c := c) hs ho hangle
  unfold inRawText
  cases hlt : t.pendingLt with
  | none => rwa [← hlt] at turned
  | some lt =>
    simp only
    split_ifs with percent
    · have suspended := @Turn.suspend c t.position t.skeleton (.inr hs) lt hlt
        (.block .code "" "<%" lt (t.position.advance c)) rfl rfl
      rw [show t.skeleton.state = .rawText from hs] at suspended
      exact suspended
    · exact turned

/-! ### Every state -/

section

variable (hlt : ¬ t.state.InQuotes → t.pendingLt = none)
include hlt

theorem stays_self (hp : t.pending = p :: ps) (suits : p.Suits t.state)
    (hquotes : ¬ t.state.InQuotes) : Stays t.position t.skeleton t.skeleton :=
  .ofTop hp suits (.inl (hlt hquotes)) (.inr rfl)

theorem turn_step_element {n : String} {a : AttributeSet} {start : Position}
    (hp : t.pending = .element n a start :: ps)
    (suits : (Pending.element n a start).Suits t.state) :
    Turn c t.position t.skeleton (t.step c).skeleton := by
  have h := stays_self hlt hp suits
  unfold step
  cases hs : t.state with
  | tagName =>
    rw [hs] at h hlt
    exact turn_inTagName (h id) (hlt id) hs hs hp
  | tag =>
    rw [hs] at h hlt
    exact turn_inTag (h id) (hlt id) hp
  | attributeName host =>
    rw [hs] at h hlt suits
    exact turn_inAttributeName (h id) (hlt id) hp suits
  | attributeValue host quote =>
    rw [hs] at hlt suits
    exact turn_inAttributeValue hs hlt hp suits
  | _ =>
    rw [hs] at suits
    exact suits.elim

theorem turn_step_directive {n : String} {a : AttributeSet} {start : Position}
    (hp : t.pending = .directive n a start :: ps)
    (suits : (Pending.directive n a start).Suits t.state) :
    Turn c t.position t.skeleton (t.step c).skeleton := by
  have h := stays_self hlt hp suits
  unfold step
  cases hs : t.state with
  | directive =>
    rw [hs] at h hlt
    exact turn_inDirective (h id) (hlt id) hp
  | directiveName =>
    rw [hs] at h hlt
    exact turn_inDirectiveName (h id) (hlt id) hs hp
  | attributeName host =>
    rw [hs] at h hlt suits
    exact turn_inAttributeName (h id) (hlt id) hp suits
  | attributeValue host quote =>
    rw [hs] at hlt suits
    exact turn_inAttributeValue hs hlt hp suits
  | _ =>
    rw [hs] at suits
    exact suits.elim

theorem turn_step_block {kind : BlockKind} {text raw : String} {start textStart : Position}
    (hp : t.pending = .block kind text raw start textStart :: ps)
    (suits : (Pending.block kind text raw start textStart).Suits t.state) :
    Turn c t.position t.skeleton (t.step c).skeleton := by
  have h := stays_self hlt hp suits
  unfold step
  cases hs : t.state with
  | blockOpen =>
    rw [hs] at h hlt suits
    obtain rfl : kind = .code := suits
    exact turn_inBlockOpen (h id) (hlt id) hp
  | serverCommentOpen =>
    rw [hs] at h hlt suits
    obtain rfl : kind = .code := suits
    exact turn_inServerCommentOpen (h id) (hlt id) hp
  | block kind' =>
    rw [hs] at h hlt suits
    obtain rfl : kind = kind' := suits
    exact turn_inServerBlock (h id) (hlt id) hs hp
  | _ =>
    rw [hs] at suits
    exact suits.elim

theorem turn_step_closingTag {n : String} {start : Position}
    (hp : t.pending = .closingTag n start :: ps)
    (suits : (Pending.closingTag n start).Suits t.state) :
    Turn c t.position t.skeleton (t.step c).skeleton := by
  have h := stays_self hlt hp suits
  unfold step
  cases hs : t.state with
  | closingTag =>
    rw [hs] at h hlt
    exact turn_inClosingTag (h id) (hlt id) hs hp
  | _ =>
    rw [hs] at suits
    exact suits.elim

theorem turn_step_comment {kind : PlainKind} {text : String} {start : Position}
    (hp : t.pending = .comment kind text start :: ps)
    (suits : (Pending.comment kind text start).Suits t.state) :
    Turn c t.position t.skeleton (t.step c).skeleton := by
  have h := stays_self hlt hp suits
  unfold step
  cases hs : t.state with
  | bang =>
    rw [hs] at h hlt suits
    obtain rfl : kind = .comment := suits
    exact turn_inBang (h id) (hlt id) hp
  | docType =>
    rw [hs] at h hlt suits
    obtain rfl : kind = .docType := suits
    exact turn_inDocType (h id) (hlt id) hs hp
  | comment =>
    have suits' := suits
    rw [hs] at h hlt
    exact turn_inComment (h id) (hlt id) hp suits'
  | serverComment =>
    have suits' := suits
    rw [hs] at h hlt
    exact turn_inComment (h id) (hlt id) hp suits'
  | _ =>
    rw [hs] at suits
    exact suits.elim

end

/-- Every character takes a turn, when the stacks fit the state. -/
theorem turn_step (h : t.skeleton.Consistent) (c : Char) :
    Turn c t.position t.skeleton (t.step c).skeleton := by
  by_cases hfree : t.state = .free
  · simp only [step, hfree]
    exact turn_inFree hfree
  by_cases hraw : t.state = .rawText
  · obtain ⟨e, es, he, -⟩ := h.raw (.inl hraw)
    have he : t.openElements = e :: es := he
    simp only [step, hraw]
    exact turn_inRawText hraw (he ▸ List.cons_ne_nil e es) h.rawLt
  -- In any other state a construct is read, and an angle bracket is held back in quotes only.
  have hlt (hquotes : ¬ t.state.InQuotes) : t.pendingLt = none := by
    rw [← Option.not_isSome_iff_eq_none]
    intro held
    obtain free | raw | inQuotes := h.lt held
    · exact hfree free
    · exact hraw raw
    · exact hquotes inQuotes
  obtain ⟨p, ps, hp, suits, -⟩ := h.fits.exists_suits hfree hraw
  cases p with
  | element => exact turn_step_element hlt hp suits
  | directive => exact turn_step_directive hlt hp suits
  | block => exact turn_step_block hlt hp suits
  | closingTag => exact turn_step_closingTag hlt hp suits
  | comment => exact turn_step_comment hlt hp suits

end Scanner

end WebForms
