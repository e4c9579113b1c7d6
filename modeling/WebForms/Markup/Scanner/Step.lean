import WebForms.Markup.Scanner.State
import WebForms.Text.Offset

/-!
# Reading markup character by character

`Scanner.step` says what one character does in each state. A character that ends one construct
may also be the first of what follows; the step then goes on in the state it has reached.

## Main definitions

* `Scanner.step` — the effect of a character, `Scanner.advance` the same with the place moved on
* `Scanner.finish` — the end of the text
* `Scanner.readAll`, `Scanner.readTo` — a whole text, a text up to a byte offset
-/

namespace WebForms

/-- A character that may begin a name. -/
def isNameStart (c : Char) : Bool := Text.isLetter c || c == '_'

/-- A character that may continue a name. -/
def isNameChar (c : Char) : Bool :=
  Text.isAlphanumeric c || c == ':' || c == '_' || c == '-' || c == '.'

/-- The number of characters of raw text that are looked through for a closing tag. -/
def rawTailLength : Nat := 32

/-- The name in the closing tag with which a text ends, when `cs` is that text in reverse without
the final angle bracket; `name` is what has been passed. -/
def closingName? (name : List Char) : List Char → Option (List Char)
  | '/' :: '<' :: _ => some name
  | c :: cs => closingName? (c :: name) cs
  | [] => none

namespace Scanner

/-! ### Recording -/

/-- Records an event. -/
def record (t : Scanner) (e : MarkupEvent) : Scanner :=
  { t with events := t.events.push e }

/-- Notes that a construct was not found. -/
def goAstray (t : Scanner) : Scanner := { t with astray := true }

/-- Changes the innermost pending construct, which has to be one that `f` applies to. -/
def modifyTop (t : Scanner) (f : Pending → Option Pending) : Scanner :=
  match t.pending with
  | [] => t.goAstray
  | p :: ps =>
    match f p with
    | some q => { t with pending := q :: ps }
    | none => t.goAstray

/-- Ends the text between constructs at `stop`; white space alone is not recorded. -/
def endText (t : Scanner) (stop : Position) : Scanner :=
  let t' := { t with textStart := none, textHasContent := false }
  match t.textStart with
  | some start =>
    if t.textHasContent ∧ start < stop then t'.record (.text ⟨start, stop⟩) else t'
  | none => t'

/-- Begins a server block whose opening starts at `start` and ends at `after`. -/
def beginBlock (t : Scanner) (start after : Position) : Scanner :=
  { t with
    pending := .block .code "" "<%" start after :: t.pending
    state := .blockOpen }

/-- Gives the attribute that has been read to the construct it belongs to. -/
def endAttribute (t : Scanner) : Scanner :=
  let t' := { t with attrName := "", attrValue := "" }
  if t.attrName.isEmpty then t'
  else match insertPending? t.attrName t.attrValue t.pending with
    | some pending => { t' with pending }
    | none => t'.goAstray

/-- Ends the innermost comment or declaration. -/
def endPlain (t : Scanner) (stop : Position) : Scanner :=
  let t := match t.pending with
    | .comment kind text start :: ps =>
      { t with pending := ps }.record (.plain kind text ⟨start, stop⟩)
    | _ => t.goAstray
  { t with state := t.resume.headD .free, resume := t.resume.tail }

/-- Ends the innermost directive. -/
def endDirective (t : Scanner) (stop : Position) : Scanner :=
  let t := match t.pending with
    | .directive name attributes start :: ps =>
      { t with pending := ps }.record (.directive ⟨name, attributes⟩ ⟨start, stop⟩)
    | _ => t.goAstray
  { t with lastAttr := none, state := t.resume.headD .free, resume := t.resume.tail }

/-! ### Elements -/

/-- Ends the start tag that is being read. -/
def endStartTag (t : Scanner) (stop : Position) : Scanner :=
  match t.pending with
  | .element name attributes start :: ps =>
    let name := TagName.parse name
    let span : Span := ⟨start, stop⟩
    let opensScope := !t.selfClosing && !name.isVoid
    let raw := opensScope && name.isRawText
    let t := { t with
      pending := ps
      openElements :=
        if opensScope then ⟨name, attributes, span⟩ :: t.openElements else t.openElements }.record
      (.startTag { name, attributes, startTag := span, selfClosing := t.selfClosing } opensScope)
    let t := { t with selfClosing := false, lastAttr := none }
    if raw then { t with rawStart := stop, rawLt := none, rawTail := [], state := .rawText }
    else { t with state := .free }
  | _ => { t.goAstray with state := .free }

/-- Closes the innermost open element of that name, with all inside it; a closing tag without
such an element closes none. -/
def closeInnermost (name : TagName) (elements : List OpenTag) : List OpenTag :=
  match elements.dropWhile fun e => !e.name.agrees name with
  | [] => elements
  | _ :: outer => outer

section

variable {name : TagName} {e : OpenTag} {es : List OpenTag}

theorem closeInnermost_cons_of_agrees (h : e.name.agrees name = true) :
    closeInnermost name (e :: es) = es := by
  simp [closeInnermost, h]

/-- Without an element of that name none is closed. -/
theorem closeInnermost_eq_self (h : ∀ e ∈ es, e.name.agrees name = false) :
    closeInnermost name es = es := by
  have passed : es.dropWhile (fun e => !e.name.agrees name) = [] := by
    induction es with
    | nil => rfl
    | cons e es ih =>
      rw [List.dropWhile_cons_of_pos (by simp [h])]
      exact ih fun e he => h e (List.mem_cons_of_mem _ he)
  rw [closeInnermost, passed]

/-- An element of another name is passed over when there is one to close further out. -/
theorem closeInnermost_cons_of_not (h : e.name.agrees name = false)
    (found : ∃ e ∈ es, e.name.agrees name = true) :
    closeInnermost name (e :: es) = closeInnermost name es := by
  unfold closeInnermost
  rw [List.dropWhile_cons_of_pos (by simp [h])]
  cases passed : es.dropWhile fun e => !e.name.agrees name with
  | cons => rfl
  | nil =>
    obtain ⟨e, he, agrees⟩ := found
    have other := List.takeWhile_append_dropWhile (p := fun e => !e.name.agrees name) (l := es)
    rw [passed, List.append_nil] at other
    have all := List.all_takeWhile (p := fun e => !e.name.agrees name) (l := es)
    rw [other, List.all_eq_true] at all
    simpa [agrees] using all e he

/-- What is left open was open before, in the same order. -/
theorem closeInnermost_sublist : (closeInnermost name es).Sublist es := by
  unfold closeInnermost
  have dropped := List.dropWhile_sublist (l := es) fun e => !e.name.agrees name
  cases passed : es.dropWhile fun e => !e.name.agrees name with
  | nil => exact .refl es
  | cons e outer =>
    rw [passed] at dropped
    exact (List.sublist_cons_self e outer).trans dropped

end

/-- Reads a closing tag for `name` that covers `span`. -/
def endElement (t : Scanner) (name : TagName) (span : Span) : Scanner :=
  { t with openElements := closeInnermost name t.openElements }.record (.endTag name span)

/-- Ends the closing tag that is being read; one without a name is dropped. -/
def endClosingTag (t : Scanner) (stop : Position) : Scanner :=
  let t := match t.pending with
    | .closingTag name start :: ps =>
      let t := { t with pending := ps }
      if name.isEmpty then t else t.endElement (TagName.parse name) ⟨start, stop⟩
    | _ => t.goAstray
  { t with state := .free }

/-! ### Text -/

/-- A character of text between constructs. -/
def inText (t : Scanner) (c : Char) : Scanner :=
  let t := { t with textStart := some (t.textStart.getD t.position) }
  if c = '<' then { t with pendingLt := some t.position }
  else { t with textHasContent := t.textHasContent || !Text.isBlank c }

/-- A character between constructs. After an angle bracket it decides what the bracket opens. -/
def inFree (t : Scanner) (c : Char) : Scanner :=
  match t.pendingLt with
  | none => t.inText c
  | some lt =>
    let t := { t with pendingLt := none }
    if c = '%' then (t.endText lt).beginBlock lt (t.position.advance c)
    else if c = '/' then
      let t := t.endText lt
      { t with pending := .closingTag "" lt :: t.pending, state := .closingTag }
    else if c = '!' then
      let t := t.endText lt
      { t with pending := .comment .comment "" lt :: t.pending, state := .bang, bangDash := false }
    else if isNameStart c then
      let t := t.endText lt
      { t with
        pending := .element (String.singleton c) {} lt :: t.pending
        selfClosing := false
        lastAttr := none
        state := .tagName }
    else { t with textHasContent := true }.inText c

/-! ### Tags -/

/-- A character inside a start tag, between attributes. -/
def inTag (t : Scanner) (c : Char) : Scanner :=
  if Text.isBlank c then t
  else if c = '>' then t.endStartTag (t.position.advance c)
  else if c = '/' then { t with selfClosing := true }
  else if c = '=' ∧ t.lastAttr.isSome then
    { t with
      attrName := t.lastAttr.getD ""
      lastAttr := none
      attrValue := ""
      state := .attributeValue .element .pending }
  else if c = '<' then (t.endStartTag t.position).inFree c
  else if isNameStart c then
    { t with
      selfClosing := false
      lastAttr := none
      attrName := String.singleton c
      state := .attributeName .element }
  else { t with selfClosing := false }

/-- A character of an element name. -/
def inTagName (t : Scanner) (c : Char) : Scanner :=
  if isNameChar c then t.modifyTop (Pending.pushName? c)
  else if c = '>' then t.endStartTag (t.position.advance c)
  else if c = '/' then { t with selfClosing := true, state := .tag }
  else if c = '<' then (t.endStartTag t.position).inFree c
  else { t with state := .tag }

/-- A character of a closing tag; what is no part of a name is skipped. -/
def inClosingTag (t : Scanner) (c : Char) : Scanner :=
  if c = '>' then t.endClosingTag (t.position.advance c)
  else if isNameChar c then t.modifyTop (Pending.pushName? c)
  else if c = '<' then (t.endClosingTag t.position).inFree c
  else t

/-! ### Directives -/

/-- A character of a directive, between its attributes. The first name is the directive's own. -/
def inDirective (t : Scanner) (c : Char) : Scanner :=
  if c = '>' ∧ t.lastChar = some '%' then t.endDirective (t.position.advance c)
  else if Text.isBlank c ∨ c = '%' then t
  else if c = '=' ∧ t.lastAttr.isSome then
    { t with
      attrName := t.lastAttr.getD ""
      lastAttr := none
      attrValue := ""
      state := .attributeValue .directive .pending }
  else if isNameStart c then
    match t.pending with
    | .directive name _ _ :: _ =>
      if name.isEmpty then { t.modifyTop (Pending.pushName? c) with state := .directiveName }
      else
        { t with
          lastAttr := none
          attrName := String.singleton c
          state := .attributeName .directive }
    | _ => { t.goAstray with state := .directiveName }
  else t

/-- A character of a directive's name. -/
def inDirectiveName (t : Scanner) (c : Char) : Scanner :=
  if isNameChar c then t.modifyTop (Pending.pushName? c)
  else { t with state := .directive }.inDirective c

/-! ### Attributes -/

/-- Goes on with `c` between the attributes of `host`. -/
def inBetween (t : Scanner) (host : AttributeHost) (c : Char) : Scanner :=
  let t := { t with state := .between host }
  match host with
  | .element => t.inTag c
  | .directive => t.inDirective c

/-- A character of an attribute's name. -/
def inAttributeName (t : Scanner) (host : AttributeHost) (c : Char) : Scanner :=
  if isNameChar c then { t with attrName := t.attrName.push c }
  else if c = '=' then { t with attrValue := "", state := .attributeValue host .pending }
  else { t.endAttribute with lastAttr := some t.attrName }.inBetween host c

/-- A character inside a quoted value that opens no server block. -/
def inQuotedChar (t : Scanner) (host : AttributeHost) (quote : Quote) (c : Char) : Scanner :=
  if quote.closing? = some c then { t.endAttribute with state := .between host }
  else if c = '<' then { t with pendingLt := some t.position }
  else { t with attrValue := t.attrValue.push c }

/-- A character inside a quoted value. An angle bracket is held back, since it may open a server
block. -/
def inQuoted (t : Scanner) (host : AttributeHost) (quote : Quote) (c : Char) : Scanner :=
  match t.pendingLt with
  | none => t.inQuotedChar host quote c
  | some lt =>
    let t := { t with pendingLt := none }
    if c = '%' then
      { t with resume := t.state :: t.resume }.beginBlock lt (t.position.advance c)
    else { t with attrValue := t.attrValue.push '<' }.inQuotedChar host quote c

/-- A character of an attribute's value. -/
def inAttributeValue (t : Scanner) (host : AttributeHost) (quote : Quote) (c : Char) :
    Scanner :=
  match quote with
  | .pending =>
    if Text.isBlank c then t
    else if c = '"' then { t with state := .attributeValue host .double }
    else if c = '\'' then { t with state := .attributeValue host .single }
    else if c = '>' ∨ c = '%' ∨ c = '/' then t.endAttribute.inBetween host c
    else { t with attrValue := t.attrValue.push c, state := .attributeValue host .unquoted }
  | .unquoted =>
    if Text.isBlank c ∨ c = '>' ∨ (host = .directive ∧ c = '%') then
      t.endAttribute.inBetween host c
    else { t with attrValue := t.attrValue.push c }
  | quote => t.inQuoted host quote c

/-! ### Comments and declarations -/

/-- A character of a declaration. -/
def inDocType (t : Scanner) (c : Char) : Scanner :=
  if c = '>' then t.endPlain (t.position.advance c)
  else t.modifyTop (Pending.pushComment? c)

/-- A character after the opening: two dashes make a comment, anything else a declaration. -/
def inBang (t : Scanner) (c : Char) : Scanner :=
  if c = '-' then
    if t.bangDash then { t with bangDash := false, state := .comment }
    else { t with bangDash := true }
  else
    let t := t.modifyTop (Pending.toDocType? (if t.bangDash then "-" else ""))
    { t with bangDash := false, state := .docType }.inDocType c

/-- A character of a comment that an angle bracket ends after `closing`. -/
def inComment (t : Scanner) (closing : String) (c : Char) : Scanner :=
  match t.pending with
  | .comment kind text start :: ps =>
    if c = '>' ∧ text.endsWith closing then
      { t with pending := .comment kind (text.dropEnd closing.length).copy start :: ps }.endPlain
        (t.position.advance c)
    else { t with pending := .comment kind (text.push c) start :: ps }
  | _ => t.goAstray

/-! ### Server blocks -/

/-- Ends the innermost server block. Inside an attribute value its source becomes part of the
value, and in raw text it leaves no trace. -/
def endBlock (t : Scanner) (stop : Position) : Scanner :=
  match t.pending with
  | .block kind text raw start textStart :: ps =>
    let text := if text.endsWith "%" then (text.dropEnd 1).copy else text
    let t := { t with pending := ps }
    match t.resume with
    | .attributeValue host quote :: states =>
      { t with
        attrValue := t.attrValue ++ raw.push '>'
        state := .attributeValue host quote
        resume := states }
    | state :: states => { t with state, resume := states }
    | [] => { t.record (.block ⟨kind, text, textStart⟩ ⟨start, stop⟩) with state := .free }
  | _ => { t.goAstray with state := .free }

/-- A character of a server block. -/
def inServerBlock (t : Scanner) (c : Char) : Scanner :=
  if c = '>' ∧ t.lastChar = some '%' then t.endBlock (t.position.advance c)
  else t.modifyTop (Pending.pushBlock? c)

/-- The character after the opening of a server block, which decides its flavour. -/
def inBlockOpen (t : Scanner) (c : Char) : Scanner :=
  if c = '@' then
    let t := t.modifyTop Pending.toDirective?
    { t with lastAttr := none, state := .directive }
  else if c = '-' then { t.modifyTop (Pending.pushRaw? c) with state := .serverCommentOpen }
  else match BlockKind.ofMarker? c with
    | some kind =>
      let t := t.modifyTop (Pending.mark? kind c (t.position.advance c))
      { t with state := .block kind }
    | none =>
      let t := t.modifyTop (Pending.startText? t.position)
      { t with state := .block .code }.inServerBlock c

/-- The character after the opening of a server block and a dash: a second dash makes a server
comment, with any other the dash begins the code. -/
def inServerCommentOpen (t : Scanner) (c : Char) : Scanner :=
  if c = '-' then
    let t := t.modifyTop Pending.toServerComment?
    { t with state := .serverComment }
  else
    let t := t.modifyTop (Pending.pushText? '-')
    { t with state := .block .code }.inServerBlock c

/-! ### Raw text -/

/-- The raw text ends with the closing tag of `e`, when the latest character is the tag's angle
bracket. -/
def tailCloses (t : Scanner) (e : OpenTag) : Bool :=
  match closingName? [] t.rawTail.tail with
  | some name => Text.sameName (String.ofList (Text.trimChars name)) e.name.localName
  | none => false

/-- Ends the raw text of `e` with a closing tag that ends at `stop`. -/
def endRawText (t : Scanner) (e : OpenTag) (stop : Position) : Scanner :=
  let lt := t.rawLt.getD t.position
  let t := if t.rawLt.isSome then t else t.goAstray
  let t := if t.rawStart < lt then t.record (.text ⟨t.rawStart, lt⟩) else t
  { t.endElement e.name ⟨lt, stop⟩ with state := .free }

/-- A character of raw text that opens no server block. -/
def inRawChar (t : Scanner) (c : Char) : Scanner :=
  let t := { t with rawTail := (c :: t.rawTail).take rawTailLength }
  if c = '<' then { t with pendingLt := some t.position, rawLt := some t.position }
  else if c = '>' then
    match t.openElements with
    | [] => { t.goAstray with state := .free }
    | e :: _ => if t.tailCloses e then t.endRawText e (t.position.advance c) else t
  else t

/-- A character of raw text. Server blocks in it are read as such and then dropped. -/
def inRawText (t : Scanner) (c : Char) : Scanner :=
  match t.pendingLt with
  | none => t.inRawChar c
  | some lt =>
    let t := { t with pendingLt := none }
    if c = '%' then
      { t with resume := .rawText :: t.resume }.beginBlock lt (t.position.advance c)
    else t.inRawChar c

/-! ### Whole texts -/

/-- The effect of a character in the present state. -/
def step (t : Scanner) (c : Char) : Scanner :=
  match t.state with
  | .free => t.inFree c
  | .tagName => t.inTagName c
  | .tag => t.inTag c
  | .attributeName host => t.inAttributeName host c
  | .attributeValue host quote => t.inAttributeValue host quote c
  | .closingTag => t.inClosingTag c
  | .bang => t.inBang c
  | .comment => t.inComment "--" c
  | .docType => t.inDocType c
  | .blockOpen => t.inBlockOpen c
  | .serverCommentOpen => t.inServerCommentOpen c
  | .serverComment => t.inComment "--%" c
  | .block _ => t.inServerBlock c
  | .directive => t.inDirective c
  | .directiveName => t.inDirectiveName c
  | .rawText => t.inRawText c

/-- Reads one character and moves on. -/
def advance (t : Scanner) (c : Char) : Scanner :=
  { t.step c with
    lastChar := some c
    position := t.position.advance c
    offset := t.offset + c.utf8Size }

/-- Reads the characters in turn. -/
def advanceAll (t : Scanner) (cs : List Char) : Scanner :=
  cs.foldl advance t

/-- Ends the text: what stands between constructs is recorded, anything unfinished is not. -/
def finish (t : Scanner) : Scanner :=
  if t.state = .free then
    { t with
      textHasContent := t.textHasContent || t.pendingLt.isSome
      pendingLt := none }.endText t.position
  else t

/-- The scanner after reading the text `s`. -/
def readAll (s : String) : Scanner := ({} : Scanner).advanceAll s.toList

/-- The scanner after reading `s` up to the byte `offset`, or to the character around it. -/
def readTo (s : String) (offset : Nat) : Scanner :=
  ({} : Scanner).advanceAll (Text.takeBytes offset s.toList)

@[simp] theorem advanceAll_nil (t : Scanner) : t.advanceAll [] = t := rfl

@[simp] theorem advanceAll_cons (t : Scanner) (c : Char) (cs : List Char) :
    t.advanceAll (c :: cs) = (t.advance c).advanceAll cs := rfl

theorem advanceAll_append (t : Scanner) (cs ds : List Char) :
    t.advanceAll (cs ++ ds) = (t.advanceAll cs).advanceAll ds :=
  List.foldl_append

end Scanner

end WebForms
