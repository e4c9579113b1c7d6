import WebForms.Markup.Event

/-!
# The state of a markup scanner

Markup is read one character at a time. Between two characters a scanner knows what it is reading
(`ScannerState`), the constructs that have begun and not ended (`Pending`, innermost first), the
elements whose closing tag is still to come, and the states to which it returns when a server
block ends. A server block may stand inside a quoted attribute value or a script body, and a
directive there has attribute values of its own, so the pending constructs and the suspended
states form stacks.

## Main definitions

* `ScannerState`, `Pending`, `OpenTag` — what is being read
* `Scanner` — the whole state, with the events recorded so far
* `Scanner.innermost?`, `Scanner.attributeHolder?`, `Scanner.attributeName?`,
  `Scanner.attributeValue?` — the view that completion takes of it
-/

namespace WebForms

/-- What an attribute belongs to. -/
inductive AttributeHost where
  | element
  | directive
  deriving DecidableEq, Repr

/-- How an attribute value is delimited. -/
inductive Quote where
  /-- The value has not started. -/
  | pending
  | double
  | single
  | unquoted
  deriving DecidableEq, Repr

/-- The character that ends a quoted value. -/
def Quote.closing? : Quote → Option Char
  | .double => some '"'
  | .single => some '\''
  | _ => none

/-- What a scanner is reading. -/
inductive ScannerState where
  /-- Text between constructs. -/
  | free
  /-- The name of an element. -/
  | tagName
  /-- A start tag, between attributes. -/
  | tag
  | attributeName (host : AttributeHost)
  | attributeValue (host : AttributeHost) (quote : Quote)
  | closingTag
  /-- What follows an opening angle bracket and exclamation mark. -/
  | bang
  | comment
  | docType
  /-- What follows the opening of a server block. -/
  | blockOpen
  /-- What follows the opening of a server block and one dash. -/
  | serverCommentOpen
  | serverComment
  | block (kind : BlockKind)
  /-- A directive, between its attributes. -/
  | directive
  | directiveName
  /-- The body of a script or style element. -/
  | rawText
  deriving DecidableEq, Repr

namespace ScannerState

/-- A server block is being read. -/
def inBlock : ScannerState → Bool
  | block _ => true
  | blockOpen => true
  | _ => false

/-- The host of the attribute that is being read. -/
def attributeHost? : ScannerState → Option AttributeHost
  | attributeName host => some host
  | attributeValue host _ => some host
  | _ => none

/-- The state between the attributes of `host`. -/
def between : AttributeHost → ScannerState
  | .element => tag
  | .directive => directive

end ScannerState

/-- A construct whose text has begun and not ended. -/
inductive Pending where
  | element (name : String) (attributes : AttributeSet) (start : Position)
  | directive (name : String) (attributes : AttributeSet) (start : Position)
  /-- A server block; `raw` is all of its source so far. -/
  | block (kind : BlockKind) (text raw : String) (start textStart : Position)
  | closingTag (name : String) (start : Position)
  | comment (kind : PlainKind) (text : String) (start : Position)
  deriving DecidableEq, Repr

namespace Pending

/-- Where the construct begins. -/
def start : Pending → Position
  | element _ _ s => s
  | directive _ _ s => s
  | block _ _ _ s _ => s
  | closingTag _ s => s
  | comment _ _ s => s

/-- The attributes, if it is a construct that has them. -/
def attributes? : Pending → Option AttributeSet
  | element _ a _ => some a
  | directive _ a _ => some a
  | _ => none

/-! The changes that reading makes apply to some constructs only. -/

/-- Adds a character to the name of an element, directive or closing tag. -/
def pushName? (c : Char) : Pending → Option Pending
  | element n a s => some (element (n.push c) a s)
  | directive n a s => some (directive (n.push c) a s)
  | closingTag n s => some (closingTag (n.push c) s)
  | _ => none

/-- Adds a character to a comment or declaration. -/
def pushComment? (c : Char) : Pending → Option Pending
  | comment k t s => some (comment k (t.push c) s)
  | _ => none

/-- Turns a comment into a declaration and adds text to it. -/
def toDocType? (text : String) : Pending → Option Pending
  | comment _ t s => some (comment .docType (t ++ text) s)
  | _ => none

/-- Adds a character to the text and to the source of a server block. -/
def pushBlock? (c : Char) : Pending → Option Pending
  | block k t r s ts => some (block k (t.push c) (r.push c) s ts)
  | _ => none

/-- Adds a character to the source of a server block. -/
def pushRaw? (c : Char) : Pending → Option Pending
  | block k t r s ts => some (block k t (r.push c) s ts)
  | _ => none

/-- Adds a character to the text of a server block. -/
def pushText? (c : Char) : Pending → Option Pending
  | block k t r s ts => some (block k (t.push c) r s ts)
  | _ => none

/-- Gives a server block the flavour that the marker `c` selects; its text starts behind that. -/
def mark? (kind : BlockKind) (c : Char) (textStart : Position) : Pending → Option Pending
  | block _ t r s _ => some (block kind t (r.push c) s textStart)
  | _ => none

/-- Sets where the text of a server block starts. -/
def startText? (textStart : Position) : Pending → Option Pending
  | block k t r s _ => some (block k t r s textStart)
  | _ => none

/-- Turns a server block into a directive. -/
def toDirective? : Pending → Option Pending
  | block _ _ _ s _ => some (directive "" {} s)
  | _ => none

/-- Turns a server block into a server comment. -/
def toServerComment? : Pending → Option Pending
  | block _ _ _ s _ => some (comment .serverComment "" s)
  | _ => none

end Pending

/-- Gives an attribute to the innermost pending construct that has attributes. -/
def insertPending? (name value : String) : List Pending → Option (List Pending)
  | [] => none
  | .element n a s :: ps => some (.element n (a.insert name value) s :: ps)
  | .directive n a s :: ps => some (.directive n (a.insert name value) s :: ps)
  | p :: ps => (insertPending? name value ps).map (p :: ·)

/-- An element whose start tag is complete and whose closing tag is still to come. -/
structure OpenTag where
  name : TagName
  attributes : AttributeSet
  startTag : Span
  deriving DecidableEq, Repr

/-- The state of reading a page up to some character. All stacks have their innermost entry
first. -/
structure Scanner where
  state : ScannerState := .free
  pending : List Pending := []
  openElements : List OpenTag := []
  /-- The states to return to when a server block ends. -/
  resume : List ScannerState := []
  position : Position := {}
  /-- The number of bytes read. -/
  offset : Nat := 0
  lastChar : Option Char := none
  /-- An opening angle bracket of which it is not yet known what it opens. -/
  pendingLt : Option Position := none
  /-- Where the text between constructs began. -/
  textStart : Option Position := none
  /-- That text holds something other than white space. -/
  textHasContent : Bool := false
  attrName : String := ""
  attrValue : String := ""
  /-- The attribute just read without a value, to which an equals sign may still give one. -/
  lastAttr : Option String := none
  /-- The start tag that is being read ends with a slash so far. -/
  selfClosing : Bool := false
  /-- One dash follows the opening of a comment or declaration. -/
  bangDash : Bool := false
  /-- Where the raw text began. -/
  rawStart : Position := {}
  /-- The last opening angle bracket of the raw text. -/
  rawLt : Option Position := none
  /-- The latest characters of the raw text, last one first. -/
  rawTail : List Char := []
  events : Array MarkupEvent := #[]
  /-- Some character did not find the construct that it was to change or to end. -/
  astray : Bool := false
  deriving Repr

namespace Scanner

/-- The innermost pending construct. -/
def innermost? (t : Scanner) : Option Pending := t.pending.head?

/-- The innermost pending construct that has attributes. -/
def attributeHolder? (t : Scanner) : Option Pending :=
  t.pending.find? fun p => p.attributes?.isSome

/-- The open element that lies `level` levels out. -/
def parent? (t : Scanner) (level : Nat) : Option OpenTag := t.openElements[level]?

/-- The name of the attribute that is being read. -/
def attributeName? (t : Scanner) : Option String :=
  t.state.attributeHost?.map fun _ => t.attrName

/-- The value so far of the attribute whose value is being read. -/
def attributeValue? (t : Scanner) : Option String :=
  match t.state with
  | .attributeValue _ _ => some t.attrValue
  | _ => none

end Scanner

end WebForms
