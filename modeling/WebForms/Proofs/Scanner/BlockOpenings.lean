import Mathlib.Logic.Basic
import WebForms.Proofs.Scanner.Runs

/-!
# Where server blocks may open

Behind an angle bracket, completion decides from the state alone whether to offer the openings of
server blocks, whereas the scanner has held the bracket back or taken it as part of what it reads.
Both agree except in comments, in declarations and in values without quotes, where completion makes
its offer although the bracket is content.

## Main definitions

* `ScannerState.TakesAngle` — an angle bracket is content in this state

## Main results

* `step_angle` — an angle bracket is held back, or is content
* `opens_of_target` — where the openings of server blocks are offered, they open one
-/

namespace WebForms

/-- An angle bracket that is read in this state has become part of plain markup. -/
def ScannerState.TakesAngle : ScannerState → Bool
  | .comment | .docType | .serverComment | .attributeValue _ .unquoted => true
  | _ => false

/-- In a directive, its name is completed or nothing. -/
theorem CompletionTarget.ofDirective_eq_or (readingName : Bool) (start cursor : Position)
    (last : Option Char) :
    ofDirective readingName start cursor last = directiveName ∨
      ofDirective readingName start cursor last = none := by
  unfold ofDirective
  exact ite_eq_or_eq _ _ _

namespace Scanner

variable {t : Scanner} {host : AttributeHost} {quote : Quote} {lt : Position}

/-- The scanner has held back an angle bracket at `lt`, where it may open a server block. -/
structure Holds (t : Scanner) (lt : Position) : Prop where
  lt : t.pendingLt = some lt
  state : t.state = .free ∨ t.state = .rawText ∨ t.state.InQuotes

/-! ### Reading an angle bracket -/

theorem not_isBlank_angle : ¬ Text.isBlank '<' := by decide

theorem holds_inFree (hs : t.state = .free ∨ t.state = .rawText) :
    (t.inFree '<').Holds t.position := by
  -- Whether or not the character before it was an angle bracket, this one is held back.
  unfold inFree
  cases t.pendingLt with
  | none => exact ⟨rfl, hs.imp_right .inl⟩
  | some lt => exact ⟨rfl, hs.imp_right .inl⟩

theorem state_endStartTag (t : Scanner) (stop : Position) :
    (t.endStartTag stop).state = .free ∨ (t.endStartTag stop).state = .rawText := by
  unfold endStartTag
  split
  · simp only
    split
    · exact .inr rfl
    · exact .inl rfl
  · exact .inl rfl

/-- An angle bracket cuts off a start tag and is held back behind it. -/
theorem holds_cutStartTag (t : Scanner) :
    ((t.endStartTag t.position).inFree '<').Holds t.position := by
  have held := holds_inFree (t.state_endStartTag t.position)
  rwa [position_endStartTag] at held

theorem holds_cutClosingTag (t : Scanner) :
    ((t.endClosingTag t.position).inFree '<').Holds t.position := by
  have held := holds_inFree (t := t.endClosingTag t.position) (.inl rfl)
  rwa [position_endClosingTag] at held

theorem holds_inTag (t : Scanner) : (t.inTag '<').Holds t.position := by
  have cut : t.inTag '<' = (t.endStartTag t.position).inFree '<' := by
    simp [inTag, not_isBlank_angle]
  rw [cut]
  exact t.holds_cutStartTag

theorem inDirective_angle (t : Scanner) : t.inDirective '<' = t := by
  have name : ¬ isNameStart '<' := by decide
  simp [inDirective, not_isBlank_angle, name]

/-- The bracket belongs to what the state reads. -/
def ReadsOn (t : Scanner) : Prop :=
  t.state.TakesAngle ∨ t.state = .directive ∨ ∃ kind, t.state = .block kind

theorem holds_or_readsOn_inBetween (t : Scanner) (host : AttributeHost) :
    (t.inBetween host '<').Holds t.position ∨ (t.inBetween host '<').ReadsOn := by
  cases host with
  | element => exact .inl (holds_inTag { t with state := .tag })
  | directive =>
    refine .inr (.inr (.inl ?_))
    rw [inBetween, inDirective_angle]
    rfl

theorem holds_inQuoted (hs : t.state = .attributeValue host quote) (quoted : quote.closing?.isSome) :
    (t.inQuoted host quote '<').Holds t.position := by
  have inQuotes : t.state.InQuotes := hs ▸ quoted
  have other : quote.closing? ≠ some '<' := by cases quote <;> decide
  have held (t : Scanner) (inQuotes : t.state.InQuotes) :
      (t.inQuotedChar host quote '<').Holds t.position := by
    rw [inQuotedChar, if_neg other, if_pos rfl]
    exact ⟨rfl, .inr (.inr inQuotes)⟩
  unfold inQuoted
  cases t.pendingLt with
  | none => exact held t inQuotes
  | some lt => exact held { t with pendingLt := none, attrValue := t.attrValue.push '<' } inQuotes

theorem position_endAttribute (t : Scanner) : t.endAttribute.position = t.position := by
  unfold endAttribute
  split
  · rfl
  · split <;> rfl

theorem state_modifyTop (t : Scanner) (f : Pending → Option Pending) :
    (t.modifyTop f).state = t.state := by
  unfold modifyTop
  split
  · rfl
  · split <;> rfl

theorem state_inServerBlock_angle {kind : BlockKind} (hs : t.state = .block kind) :
    (t.inServerBlock '<').state = .block kind := by
  rw [inServerBlock, if_neg (by simp), state_modifyTop, hs]

theorem state_inComment_angle (t : Scanner) (closing : String) :
    (t.inComment closing '<').state = t.state := by
  unfold inComment
  split
  · rw [if_neg (by simp)]
  · rfl

theorem state_inDocType_angle (t : Scanner) : (t.inDocType '<').state = t.state := by
  rw [inDocType, if_neg (by decide), state_modifyTop]

/-- Whatever a scanner reads, an angle bracket is either held back or belongs to it. -/
theorem step_angle (t : Scanner) : (t.step '<').Holds t.position ∨ (t.step '<').ReadsOn := by
  unfold step
  cases hs : t.state with
  | free => exact .inl (holds_inFree (.inl hs))
  | tagName => exact .inl t.holds_cutStartTag
  | tag => exact .inl t.holds_inTag
  | attributeName host =>
    have ended := holds_or_readsOn_inBetween { t.endAttribute with lastAttr := some t.attrName } host
    rwa [show Scanner.position _ = t.position from t.position_endAttribute] at ended
  | attributeValue host quote =>
    cases quote with
    | double => exact .inl (holds_inQuoted hs rfl)
    | single => exact .inl (holds_inQuoted hs rfl)
    | pending => exact .inr (.inl rfl)
    | unquoted =>
      refine .inr (.inl ?_)
      simp [inAttributeValue, not_isBlank_angle, hs, ScannerState.TakesAngle]
  | closingTag => exact .inl t.holds_cutClosingTag
  | bang =>
    -- Behind an exclamation mark, anything but a dash makes a declaration.
    refine .inr (.inl ?_)
    rw [inBang, if_neg (by decide), state_inDocType_angle]
    rfl
  | comment =>
    refine .inr (.inl ?_)
    rw [state_inComment_angle, hs]
    rfl
  | docType =>
    refine .inr (.inl ?_)
    rw [state_inDocType_angle, hs]
    rfl
  | serverComment =>
    refine .inr (.inl ?_)
    rw [state_inComment_angle, hs]
    rfl
  | blockOpen =>
    have unmarked : BlockKind.ofMarker? '<' = none := by decide
    refine .inr (.inr (.inr ⟨.code, ?_⟩))
    rw [inBlockOpen, if_neg (by decide), if_neg (by decide), unmarked]
    exact state_inServerBlock_angle rfl
  | serverCommentOpen =>
    refine .inr (.inr (.inr ⟨.code, ?_⟩))
    rw [inServerCommentOpen, if_neg (by decide)]
    exact state_inServerBlock_angle rfl
  | block kind => exact .inr (.inr (.inr ⟨kind, state_inServerBlock_angle hs⟩))
  | directive =>
    refine .inr (.inr (.inl ?_))
    rw [inDirective_angle, hs]
  | directiveName =>
    have read : t.inDirectiveName '<' = { t with state := .directive } := by
      rw [inDirectiveName, if_neg (by decide), inDirective_angle]
    exact .inr (.inr (.inl (congrArg Scanner.state read)))
  | rawText =>
    refine .inl ?_
    unfold inRawText
    cases t.pendingLt with
    | none => exact ⟨rfl, .inr (.inl hs)⟩
    | some lt => exact ⟨rfl, .inr (.inl hs)⟩

/-! ### Opening a server block -/

/-- Behind an angle bracket that has been held back, a percent sign opens a server block there. -/
theorem Holds.opens (h : t.Holds lt) :
    (t.step '%').state = .blockOpen ∧
      (t.step '%').innermost? = some (.block .code "" "<%" lt (t.position.advance '%')) := by
  have begun (u : Scanner) :
      (u.beginBlock lt (t.position.advance '%')).state = .blockOpen ∧
        (u.beginBlock lt (t.position.advance '%')).innermost? =
          some (.block .code "" "<%" lt (t.position.advance '%')) := ⟨rfl, rfl⟩
  obtain free | raw | inQuotes := h.state
  · rw [step, free]
    simp only [inFree, h.lt, if_true]
    exact begun _
  · rw [step, raw]
    simp only [inRawText, h.lt, if_true]
    exact begun _
  · -- Only values are read in quotes.
    cases hs : t.state with
    | attributeValue host quote =>
      have opened : (t.inQuoted host quote '%').state = .blockOpen ∧
          (t.inQuoted host quote '%').innermost? =
            some (.block .code "" "<%" lt (t.position.advance '%')) := by
        simp only [inQuoted, h.lt, if_true]
        exact begun _
      rw [hs] at inQuotes
      rw [step, hs]
      cases quote with
      | double | single => exact opened
      | pending | unquoted => exact absurd inQuotes Bool.false_ne_true
    | _ =>
      rw [hs] at inQuotes
      exact inQuotes.elim

theorem target_eq_or_of_directive (hs : t.state = .directive) :
    t.target = .directiveName ∨ t.target = .none := by
  unfold target CompletionTarget.ofState
  rw [hs]
  cases t.innermost? with
  | none => exact .inr rfl
  | some p =>
    cases p with
    | directive name attributes start =>
      exact CompletionTarget.ofDirective_eq_or false start t.position t.lastChar
    | element | block | closingTag | comment => exact .inr rfl

/-- In a server block, code is completed. -/
theorem target_of_block {kind : BlockKind} (hs : t.state = .block kind) :
    t.target = .block kind := by
  unfold target CompletionTarget.ofState
  rw [hs]
  simp [ScannerState.inBlock, CompletionTarget.ofPlainState]

/-- Where the openings of server blocks are offered behind an angle bracket, a percent sign opens a
server block that starts with this bracket, unless a comment, a declaration or a value without
quotes has taken the bracket in. -/
theorem opens_of_target (cs : List Char)
    (offered : (({} : Scanner).advanceAll (cs ++ ['<'])).target = .blockOpening ∨
      (({} : Scanner).advanceAll (cs ++ ['<'])).target = .elementName)
    (other : (({} : Scanner).advanceAll (cs ++ ['<'])).state.TakesAngle = false) :
    (({} : Scanner).advanceAll (cs ++ ['<', '%'])).state = .blockOpen ∧
      ∃ textStart, (({} : Scanner).advanceAll (cs ++ ['<', '%'])).innermost? =
        some (.block .code "" "<%" (({} : Scanner).advanceAll cs).position textStart) := by
  simp only [advanceAll_append, advanceAll_cons, advanceAll_nil] at offered other ⊢
  generalize ({} : Scanner).advanceAll cs = t at offered other ⊢
  obtain held | readsOn := t.step_angle
  · have held' : (t.advance '<').Holds t.position := ⟨held.lt, held.state⟩
    obtain ⟨opened, innermost⟩ := held'.opens
    exact ⟨opened, _, innermost⟩
  · -- In a directive or server block, other things are offered.
    obtain content | directive | ⟨kind, block⟩ := readsOn
    · exact absurd content (ne_true_of_eq_false other)
    · rcases target_eq_or_of_directive (t := t.advance '<') directive with eq | eq
      · simp [eq] at offered
      · simp [eq] at offered
    · rw [target_of_block (t := t.advance '<') block] at offered
      simp at offered

/-- In a quoted value, the openings of server blocks are offered and open one. -/
theorem opens_of_target_in_value :
    let t := ({} : Scanner).advanceAll "<a href=\"<".toList
    (t.target = .blockOpening ∧ t.state.TakesAngle = false) ∧
      (({} : Scanner).advanceAll "<a href=\"<%".toList).state = .blockOpen ∧
      ∃ textStart, (({} : Scanner).advanceAll "<a href=\"<%".toList).innermost? =
        some (.block .code "" "<%" ⟨0, 9⟩ textStart) := by
  refine ⟨by decide +kernel, ?_⟩
  exact opens_of_target "<a href=\"".toList (by decide +kernel) (by decide +kernel)

/-- Behind an angle bracket the openings of server blocks are offered, but a percent sign opens
none. -/
def OffersInVain (cs : List Char) : Prop :=
  (({} : Scanner).advanceAll (cs ++ ['<'])).target = .blockOpening ∧
    (({} : Scanner).advanceAll (cs ++ ['<', '%'])).state ≠ .blockOpen

instance : DecidablePred OffersInVain := fun _ => inferInstanceAs (Decidable (_ ∧ _))

/-- So it is in comments of both kinds, in a declaration and in a value without quotes. -/
theorem not_opens_in_content :
    OffersInVain "<!-- ".toList ∧ OffersInVain "<%-- ".toList ∧
      OffersInVain "<!DOCTYPE ".toList ∧ OffersInVain "<a b=".toList := by
  refine ⟨?_, ?_, ?_, ?_⟩ <;> decide +kernel

end Scanner

end WebForms
