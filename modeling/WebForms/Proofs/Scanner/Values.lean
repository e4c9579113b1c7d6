import Mathlib.Data.List.Chain
import WebForms.Proofs.Scanner.Turns

/-!
# Quoted values

What stands in quotes becomes the value of an attribute, character by character. An angle bracket is
held back until the next character shows whether it opens a server block, and a server block is read
as such, with the value suspended. In the end both are part of the value as they stand in the text.

## Main definitions

* `Scanner.Matches` — scanners that differ in how far they have read
* `ServerValue`, `ValuePiece`, `QuotedValue` — a value in quotes, as it is written

## Main results

* `Scanner.matches_value` — a value is read as it is written
-/

namespace WebForms

/-! ### Written values -/

/-- A server block that yields a value. -/
structure ServerValue where
  marker : Char
  kind : BlockKind
  marked : BlockKind.ofMarker? marker = some kind
  body : List Char
  /-- The body does not end the block. -/
  goesOn : ¬ ['%', '>'] <:+: body

/-- The server block as it is written. -/
def ServerValue.source (b : ServerValue) : List Char :=
  ['<', '%', b.marker] ++ b.body ++ ['%', '>']

/-- With its marker in front of it, the body does not end the block either. -/
theorem ServerValue.goesOn_marker (b : ServerValue) : ¬ ['%', '>'] <:+: b.marker :: b.body := by
  intro inside
  obtain front | inner := List.infix_cons_iff.mp inside
  · have marked := b.marked
    rw [← (List.cons_prefix_cons.mp front).1] at marked
    exact nomatch marked
  · exact b.goesOn inner

/-- A piece of a value. -/
inductive ValuePiece where
  | literal (c : Char)
  | block (b : ServerValue)

/-- The piece as it is written. -/
def ValuePiece.source : ValuePiece → List Char
  | literal c => [c]
  | block b => b.source

/-- A value in quotes. Outside its server blocks nothing ends it, and nothing opens a block. -/
structure QuotedValue where
  quote : Quote
  mark : Char
  closes : quote.closing? = some mark
  pieces : List ValuePiece
  unquoted : .literal mark ∉ pieces
  unopened : pieces.IsChain fun p q => p = .literal '<' → q ≠ .literal '%'

namespace QuotedValue

/-- What stands between the quotes. -/
def inner (v : QuotedValue) : List Char := v.pieces.flatMap ValuePiece.source

/-- The value as it is written. -/
def source (v : QuotedValue) : List Char := [v.mark] ++ v.inner ++ [v.mark]

end QuotedValue

namespace Scanner

/-! ### Scanners that have read different texts -/

/-- But for how far it has read, the scanner is `u`. -/
def Matches (t u : Scanner) : Prop :=
  ∃ position offset lastChar, t = { u with position, offset, lastChar }

variable {t u v : Scanner} {c mark : Char} {cs : List Char} {host : AttributeHost} {quote : Quote}
  {ps : List Pending}

theorem Matches.refl (t : Scanner) : t.Matches t := ⟨_, _, _, rfl⟩

theorem Matches.trans (h : t.Matches u) (h' : u.Matches v) : t.Matches v := by
  obtain ⟨_, _, _, rfl⟩ := h
  obtain ⟨_, _, _, rfl⟩ := h'
  exact ⟨_, _, _, rfl⟩

theorem Matches.state (h : t.Matches u) : t.state = u.state := by
  obtain ⟨_, _, _, rfl⟩ := h
  rfl

theorem Matches.pending (h : t.Matches u) : t.pending = u.pending := by
  obtain ⟨_, _, _, rfl⟩ := h
  rfl

theorem Matches.resume (h : t.Matches u) : t.resume = u.resume := by
  obtain ⟨_, _, _, rfl⟩ := h
  rfl

theorem Matches.pendingLt (h : t.Matches u) : t.pendingLt = u.pendingLt := by
  obtain ⟨_, _, _, rfl⟩ := h
  rfl

theorem Matches.attrName (h : t.Matches u) : t.attrName = u.attrName := by
  obtain ⟨_, _, _, rfl⟩ := h
  rfl

theorem Matches.attrValue (h : t.Matches u) : t.attrValue = u.attrValue := by
  obtain ⟨_, _, _, rfl⟩ := h
  rfl

theorem push_append_ofList (s : String) (c : Char) (cs : List Char) :
    s.push c ++ String.ofList cs = s ++ String.ofList (c :: cs) := by
  simp [← String.toList_inj]

/-! ### Server blocks -/

section

variable {kind : BlockKind} {text raw : String} {start textStart : Position}

theorem inServerBlock_push (hp : t.pending = .block kind text raw start textStart :: ps)
    (goesOn : ¬ (c = '>' ∧ t.lastChar = some '%')) :
    t.inServerBlock c =
      { t with pending := .block kind (text.push c) (raw.push c) start textStart :: ps } := by
  rw [inServerBlock, if_neg goesOn, modifyTop_eq (f := Pending.pushBlock? c) hp rfl]

/-- The body of a server block is gathered. -/
theorem matches_body {body : List Char} (hs : t.state = .block kind)
    (hp : t.pending = .block kind text raw start textStart :: ps)
    (goesOn : ¬ ['%', '>'] <:+: t.lastChar.toList ++ body) :
    (t.advanceAll body).Matches
      { t with
        pending := .block kind (text ++ String.ofList body) (raw ++ String.ofList body) start
          textStart :: ps } := by
  induction body generalizing t text raw with
  | nil =>
    simp only [String.ofList_nil, String.append_empty, ← hp]
    exact .refl t
  | cons c body ih =>
    -- Else the latest character and this one would end the block.
    have first : ¬ (c = '>' ∧ t.lastChar = some '%') := by
      rintro ⟨rfl, last⟩
      exact goesOn ⟨[], body, by simp [last]⟩
    have behind : ¬ ['%', '>'] <:+: c :: body := fun inside =>
      goesOn (inside.trans (List.suffix_append _ _).isInfix)
    have stepped : t.step c = t.inServerBlock c := by rw [step, hs]
    rw [advanceAll_cons, advance, stepped, inServerBlock_push hp first]
    refine (ih (t := { t with
      pending := .block kind (text.push c) (raw.push c) start textStart :: ps
      lastChar := some c
      position := t.position.advance c
      offset := t.offset + c.utf8Size }) hs rfl behind).trans ?_
    rw [push_append_ofList, push_append_ofList]
    exact ⟨_, _, _, rfl⟩

/-- A server block ends with its source in the value that it has interrupted. -/
theorem matches_closing (hs : t.state = .block kind)
    (hp : t.pending = .block kind text raw start textStart :: ps) {states : List ScannerState}
    (hr : t.resume = .attributeValue host quote :: states) :
    (t.advanceAll ['%', '>']).Matches
      { t with
        state := .attributeValue host quote
        pending := ps
        resume := states
        attrValue := t.attrValue ++ raw ++ "%>" } := by
  have percent : t.step '%' = t.inServerBlock '%' := by rw [step, hs]
  rw [inServerBlock_push hp (by simp)] at percent
  rw [advanceAll_cons, advance, percent, advanceAll_cons, advanceAll_nil, advance, step]
  simp only [hs, inServerBlock, and_self, if_true, endBlock, hr]
  rw [show (raw.push '%').push '>' = raw ++ "%>" from by simp [← String.toList_inj],
    ← String.append_assoc]
  exact ⟨_, _, _, rfl⟩

/-- A marker makes a server block one that yields a value. -/
theorem exists_matches_marker {kind' : BlockKind} (hs : t.state = .blockOpen)
    (hp : t.pending = .block kind' text raw start textStart :: ps)
    (marked : BlockKind.ofMarker? c = some kind) :
    ∃ textStart, (t.advance c).Matches
      { t with
        state := .block kind
        pending := .block kind text (raw.push c) start textStart :: ps } := by
  have at' : c ≠ '@' := by
    rintro rfl
    exact nomatch marked
  have dash : c ≠ '-' := by
    rintro rfl
    exact nomatch marked
  have stepped : t.step c = t.inBlockOpen c := by rw [step, hs]
  rw [inBlockOpen, if_neg at', if_neg dash, marked] at stepped
  rw [advance, stepped]
  simp only [modifyTop_eq (f := Pending.mark? kind c (t.position.advance c)) hp rfl]
  exact ⟨_, _, _, _, rfl⟩

end

/-! ### Pieces of a value -/

/-- The scanner with the angle bracket that it holds back as part of the value. -/
def settled (t : Scanner) : Scanner :=
  { t with
    pendingLt := none
    attrValue := if t.pendingLt.isSome then t.attrValue.push '<' else t.attrValue }

theorem settled_eq_self (h : t.pendingLt = none) : t.settled = t := by
  cases t
  simp only at h
  subst h
  rfl

/-- A character that opens no server block is part of the value, or ends it. -/
theorem inQuoted_eq (host : AttributeHost) (quote : Quote)
    (unopened : t.pendingLt.isSome → c ≠ '%') :
    t.inQuoted host quote c = t.settled.inQuotedChar host quote c := by
  cases hlt : t.pendingLt with
  | none => rw [settled_eq_self hlt, inQuoted, hlt]
  | some lt =>
    have other : c ≠ '%' := unopened (Option.isSome_of_eq_some hlt)
    simp [inQuoted, settled, hlt, other]

section

variable (hs : t.state = .attributeValue host quote) (closes : quote.closing? = some mark)
include hs closes

theorem step_eq_inQuoted (c : Char) : t.step c = t.inQuoted host quote c := by
  rw [step, hs]
  cases quote with
  | double | single => rfl
  | pending | unquoted => cases closes

/-- A character that neither ends the value nor opens a server block is part of it. -/
theorem matches_literal (other : c ≠ mark) (unopened : t.pendingLt.isSome → c ≠ '%') :
    (t.advance c).settled.Matches { t.settled with attrValue := t.settled.attrValue.push c } ∧
      ((t.advance c).pendingLt.isSome ↔ c = '<') := by
  have goesOn : ¬ quote.closing? = some c := by
    rw [closes]
    exact fun same => other (Option.some.inj same).symm
  have stepped : t.step c = t.settled.inQuotedChar host quote c := by
    rw [step_eq_inQuoted hs closes, inQuoted_eq host quote unopened]
  rw [inQuotedChar, if_neg goesOn] at stepped
  rw [advance, stepped]
  by_cases angle : c = '<'
  · subst angle
    exact ⟨⟨_, _, _, rfl⟩, by simp⟩
  · rw [if_neg angle]
    exact ⟨⟨_, _, _, rfl⟩, by simp [settled, angle]⟩

/-- An angle bracket is held back. -/
theorem matches_angle :
    (t.advance '<').Matches { t.settled with pendingLt := some t.position } := by
  have goesOn : ¬ quote.closing? = some '<' := by
    cases quote <;> decide
  rw [advance, step_eq_inQuoted hs closes, inQuoted_eq host quote (by simp), inQuotedChar,
    if_neg goesOn, if_pos rfl]
  exact ⟨_, _, _, rfl⟩

/-- Behind an angle bracket, a percent sign suspends the value. -/
theorem exists_matches_suspend {lt : Position} (hlt : t.pendingLt = some lt) :
    ∃ textStart, (t.advance '%').Matches
      { t with
        state := .blockOpen
        pending := .block .code "" "<%" lt textStart :: t.pending
        resume := .attributeValue host quote :: t.resume
        pendingLt := none } := by
  rw [advance, step_eq_inQuoted hs closes, inQuoted, hlt, ← hs]
  exact ⟨_, _, _, _, rfl⟩

/-- A server block with a marker suspends the value. -/
theorem exists_matches_opening (b : ServerValue) :
    ∃ start textStart, (t.advanceAll ['<', '%', b.marker]).Matches
      { t.settled with
        state := .block b.kind
        pending := .block b.kind "" ("<%".push b.marker) start textStart :: t.pending
        resume := .attributeValue host quote :: t.resume } := by
  have angle := matches_angle hs closes
  rw [advanceAll_cons, advanceAll_cons, advanceAll_cons, advanceAll_nil]
  generalize t.advance '<' = t₁ at angle ⊢
  have held : t₁.pendingLt = some t.position := by
    obtain ⟨_, _, _, rfl⟩ := angle
    rfl
  obtain ⟨textStart, percent⟩ := exists_matches_suspend (angle.state.trans hs) closes held
  generalize t₁.advance '%' = t₂ at percent ⊢
  obtain ⟨textStart, opened⟩ := exists_matches_marker percent.state percent.pending b.marked
  refine ⟨t.position, textStart, opened.trans ?_⟩
  obtain ⟨_, _, _, rfl⟩ := percent
  obtain ⟨_, _, _, rfl⟩ := angle
  exact ⟨_, _, _, rfl⟩

/-- A server block is part of the value as it is written. -/
theorem matches_block (b : ServerValue) :
    (t.advanceAll b.source).Matches
      { t.settled with attrValue := t.settled.attrValue ++ String.ofList b.source } := by
  have source : b.source = ['<', '%', b.marker] ++ (b.body ++ ['%', '>']) := by
    simp [ServerValue.source]
  have value : t.settled.attrValue ++ ("<%".push b.marker ++ String.ofList b.body) ++ "%>" =
      t.settled.attrValue ++ String.ofList b.source := by
    simp [source, ← String.toList_inj]
  -- Matching scanners may differ in the latest character, on which the end of a block depends.
  have last : (t.advanceAll ['<', '%', b.marker]).lastChar = some b.marker := rfl
  obtain ⟨start, textStart, opened⟩ := exists_matches_opening hs closes b
  rw [← value, source, advanceAll_append, advanceAll_append]
  generalize t.advanceAll ['<', '%', b.marker] = t₁ at opened last ⊢
  have goesOn : ¬ ['%', '>'] <:+: t₁.lastChar.toList ++ b.body := by
    rw [last]
    exact b.goesOn_marker
  have gathered : (t₁.advanceAll b.body).Matches
      { t.settled with
        state := .block b.kind
        pending := .block b.kind ("" ++ String.ofList b.body)
          ("<%".push b.marker ++ String.ofList b.body) start textStart :: t.pending
        resume := .attributeValue host quote :: t.resume } := by
    refine (matches_body opened.state opened.pending goesOn).trans ?_
    obtain ⟨_, _, _, rfl⟩ := opened
    exact ⟨_, _, _, rfl⟩
  generalize t₁.advanceAll b.body = t₂ at gathered ⊢
  refine (matches_closing gathered.state gathered.pending gathered.resume).trans ?_
  obtain ⟨_, _, _, rfl⟩ := gathered
  rw [← hs]
  exact ⟨_, _, _, rfl⟩

end

/-- The pieces of a value are gathered as they are written. -/
theorem matches_pieces {pieces : List ValuePiece} (hs : t.state = .attributeValue host quote)
    (closes : quote.closing? = some mark) (unquoted : .literal mark ∉ pieces)
    (unopened : pieces.IsChain fun p q => p = .literal '<' → q ≠ .literal '%')
    (first : t.pendingLt.isSome → pieces.head? ≠ some (.literal '%')) :
    (t.advanceAll (pieces.flatMap ValuePiece.source)).settled.Matches
      { t.settled with
        attrValue :=
          t.settled.attrValue ++ String.ofList (pieces.flatMap ValuePiece.source) } := by
  induction pieces generalizing t with
  | nil =>
    simp only [List.flatMap_nil, String.ofList_nil, String.append_empty]
    exact .refl _
  | cons p pieces ih =>
    obtain ⟨other, unquoted'⟩ := List.ne_and_not_mem_of_not_mem_cons unquoted
    obtain ⟨next, unopened'⟩ := List.isChain_cons.mp unopened
    rw [List.flatMap_cons, advanceAll_append]
    cases p with
    | literal c =>
      have plain (held : t.pendingLt.isSome) : c ≠ '%' := by
        rintro rfl
        exact first held rfl
      obtain ⟨matched, held⟩ := matches_literal hs closes (fun same => other (by rw [same])) plain
      -- A bracket that is held back now is this piece, and the next one is no percent sign.
      have opensNone (held' : (t.advance c).pendingLt.isSome) :
          pieces.head? ≠ some (.literal '%') := by
        intro percent
        exact next _ percent (by rw [held.mp held']) rfl
      refine (ih (t := t.advance c) (matched.state.trans hs) unquoted' unopened'
        opensNone).trans ?_
      obtain ⟨_, _, _, matched⟩ := matched
      rw [matched, push_append_ofList]
      exact ⟨_, _, _, rfl⟩
    | block b =>
      have matched := matches_block hs closes b
      have settles : (t.advanceAll b.source).pendingLt = none := by
        obtain ⟨_, _, _, matched⟩ := matched
        rw [matched]
        rfl
      have opensNone (held : (t.advanceAll b.source).pendingLt.isSome) :
          pieces.head? ≠ some (.literal '%') := by
        rw [settles] at held
        exact nomatch held
      refine (ih (t := t.advanceAll b.source) (matched.state.trans hs) unquoted' unopened'
        opensNone).trans ?_
      rw [settled_eq_self settles]
      obtain ⟨_, _, _, matched⟩ := matched
      rw [matched, String.append_assoc, ← String.ofList_append]
      exact ⟨_, _, _, rfl⟩

/-! ### Whole values -/

theorem Matches.withState (h : t.Matches u) (state : ScannerState) :
    ({ t with state } : Scanner).Matches { u with state } := by
  obtain ⟨_, _, _, rfl⟩ := h
  exact ⟨_, _, _, rfl⟩

/-- Which attribute ends does not depend on how far a scanner has read. -/
theorem Matches.endAttribute (h : t.Matches u) : t.endAttribute.Matches u.endAttribute := by
  obtain ⟨_, _, _, rfl⟩ := h
  unfold Scanner.endAttribute
  split_ifs with unnamed
  · exact ⟨_, _, _, rfl⟩
  · simp only
    split <;> exact ⟨_, _, _, rfl⟩

/-- Which attribute ends does not depend on the state. -/
theorem endAttribute_withState (t : Scanner) (state : ScannerState) :
    ({ t with state } : Scanner).endAttribute = { t.endAttribute with state } := by
  unfold Scanner.endAttribute
  split_ifs with unnamed
  · rfl
  · simp only
    split <;> rfl

/-- A quotation mark begins a value. -/
theorem matches_quote (hs : t.state = .attributeValue host .pending)
    (closes : quote.closing? = some mark) :
    (t.advance mark).Matches { t with state := .attributeValue host quote } := by
  have stepped : t.step mark = t.inAttributeValue host .pending mark := by rw [step, hs]
  rw [advance, stepped]
  cases quote with
  | double | single =>
    obtain rfl := Option.some.inj closes
    exact ⟨_, _, _, rfl⟩
  | pending | unquoted => cases closes

/-- The same mark ends it, and the attribute has its value. -/
theorem matches_unquote (hs : t.state = .attributeValue host quote)
    (closes : quote.closing? = some mark) :
    (t.advance mark).Matches { t.settled.endAttribute with state := .between host } := by
  have other : mark ≠ '%' := by
    rintro rfl
    cases quote <;> exact absurd closes (by decide)
  rw [advance, step_eq_inQuoted hs closes, inQuoted_eq host quote fun _ => other, inQuotedChar,
    if_pos closes]
  exact ⟨_, _, _, rfl⟩

/-- A value is read as it is written. -/
theorem matches_value (hs : t.state = .attributeValue host .pending) (hlt : t.pendingLt = none)
    (v : QuotedValue) :
    (t.advanceAll v.source).Matches
      { ({ t with attrValue := t.attrValue ++ String.ofList v.inner } : Scanner).endAttribute with
        state := .between host } := by
  obtain ⟨_, _, _, begun⟩ := matches_quote hs v.closes
  have plain : (t.advance v.mark).pendingLt = none := by
    rw [begun]
    exact hlt
  have gathered := matches_pieces (t := t.advance v.mark) (by rw [begun]) v.closes v.unquoted
    v.unopened (fun held => by rw [plain] at held; exact nomatch held)
  have ended := matches_unquote (t := (t.advance v.mark).advanceAll v.inner)
    (gathered.state.trans (by rw [begun]; rfl)) v.closes
  have source : v.source = v.mark :: (v.inner ++ [v.mark]) := rfl
  rw [source, advanceAll_cons, advanceAll_append, advanceAll_cons, advanceAll_nil]
  refine ended.trans ?_
  -- Up to the closing mark, only the state tells that the value is still being read.
  let whole : Scanner := { t with attrValue := t.attrValue ++ String.ofList v.inner }
  have read : ((t.advance v.mark).advanceAll v.inner).settled.Matches
      { whole with state := .attributeValue host v.quote } := by
    refine gathered.trans ?_
    rw [settled_eq_self plain, begun]
    exact ⟨_, _, _, rfl⟩
  have given := read.endAttribute.withState (.between host)
  rw [endAttribute_withState whole] at given
  exact given

end Scanner

end WebForms
