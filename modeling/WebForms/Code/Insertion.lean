import WebForms.Code.Language
import WebForms.Completion.Item
import WebForms.Outline
import WebForms.Text.Fold
import WebForms.Text.Lines

/-!
# Writing an event handler into a code file

A new handler is written at the end of the body of its class. The class is found by its
declaration: the keyword, white space and the name, as whole words. In one language the body ends
with the brace that matches the first one after the declaration, in the other with the first line
after it that begins with the closing words.

## Main definitions

* `declarationEnd?` — the place behind the declaration of a class
* `Language.insertionIndex?`, `Language.insertionOffset?` — the place for a new member
* `HandlerProposal.stub` — the text of a handler
* `HandlerProposal.insertion?` — the edit that writes it
-/

namespace WebForms

/-! ### Words -/

/-- A word begins or ends between a character, if there is one, and what follows it. -/
def isWordBoundary (previous : Option Char) (cs : List Char) : Bool :=
  previous.any Text.isWordChar != cs.head?.any Text.isWordChar

/-- What follows `pattern` in a text that begins with it, characters being compared by `same`. -/
def afterPrefix? (same : Char → Char → Bool) : List Char → List Char → Option (List Char)
  | [], cs => some cs
  | _ :: _, [] => none
  | p :: ps, c :: cs => if same p c then afterPrefix? same ps cs else none

/-- How words are compared, and the keyword that declares a class. -/
structure ClassSyntax where
  same : Char → Char → Bool
  keyword : List Char

/-- The length of the declaration of the class `name` with which a text begins. As much white space
as possible belongs to the keyword, so that the name may begin with some. -/
def declarationLength? (d : ClassSyntax) (name : List Char) (previous : Option Char)
    (cs : List Char) : Option Nat := do
  if !isWordBoundary previous cs then none
  let rest ← afterPrefix? d.same d.keyword cs
  let blanks := (rest.takeWhile Text.isBlank).length
  (List.range blanks).reverse.findSome? fun k => do
    let after ← afterPrefix? d.same name (rest.drop (k + 1))
    let length := cs.length - after.length
    if isWordBoundary cs[length - 1]? after then some length else none

/-- The place behind the first declaration of the class `name`, when the text starts at `index`
behind the character `previous`. -/
def declarationEndFrom? (d : ClassSyntax) (name : List Char) (previous : Option Char)
    (index : Nat) : List Char → Option Nat
  | [] => none
  | c :: cs =>
    match declarationLength? d name previous (c :: cs) with
    | some length => some (index + length)
    | none => declarationEndFrom? d name (some c) (index + 1) cs

/-- The place behind the first declaration of the class `name`. -/
def declarationEnd? (d : ClassSyntax) (name cs : List Char) : Option Nat :=
  declarationEndFrom? d name none 0 cs

/-! ### The end of a class -/

/-- The place of the brace that closes the group in which the text stands, `depth` groups further
in, when the text starts at `index`. -/
def closingBrace? (depth index : Nat) : List Char → Option Nat
  | [] => none
  | '\x7b' :: cs => closingBrace? (depth + 1) (index + 1) cs
  | '\x7d' :: cs =>
    match depth with
    | 0 => some index
    | depth + 1 => closingBrace? depth (index + 1) cs
  | _ :: cs => closingBrace? depth (index + 1) cs

/-- The place of the brace that matches the first opening brace at or behind `start`. -/
def bodyEnd? (cs : List Char) (start : Nat) : Option Nat := do
  let skipped ← (cs.drop start).findIdx? (· == '\x7b')
  let first := start + skipped + 1
  closingBrace? 0 first (cs.drop first)

/-- White space within a line. -/
def isLineSpace (c : Char) : Bool := c == ' ' || c == '\t'

/-- The text begins with the words that close a class, at least one space between them. -/
def beginsEndClass (cs : List Char) : Bool :=
  match afterPrefix? Text.sameFolded "End".toList (cs.dropWhile isLineSpace) with
  | none => false
  | some rest =>
    match rest with
    | c :: more =>
      isLineSpace c &&
        match afterPrefix? Text.sameFolded "Class".toList (more.dropWhile isLineSpace) with
        | some after => isWordBoundary (some 's') after
        | none => false
    | [] => false

/-- The start of the first line at or behind `start` that begins with the closing words, when the
text starts at `index`, and `atLine` tells whether a line begins there. -/
def endLineFrom? (start index : Nat) (atLine : Bool) : List Char → Option Nat
  | [] => none
  | c :: cs =>
    if atLine && start ≤ index && beginsEndClass (c :: cs) then some index
    else endLineFrom? start (index + 1) (c == '\n') cs

/-- The start of the line in which a place lies, if only white space stands between, else the place
itself. -/
def blankLineStart (cs : List Char) (index : Nat) : Nat :=
  let line := (cs.take index).reverse.takeWhile (· != '\n')
  if line.all Text.isBlank then index - line.length else index

/-! ### Insertion -/

/-- The name of a class without its namespace. -/
def unqualifiedName (name : String) : String := Text.lastSegment (· == '.') name

namespace Language

/-- How a class is declared. -/
def classSyntax : Language → ClassSyntax
  | cSharp => { same := fun c d => c == d, keyword := "class".toList }
  | visualBasic => { same := Text.sameFolded, keyword := "Class".toList }

/-- The place behind the declaration at which the body of a class ends. -/
def classEnd? (cs : List Char) (start : Nat) : Language → Option Nat
  | cSharp => bodyEnd? cs start
  | visualBasic => endLineFrom? start 0 true cs

/-- The character index at which a new member of a class is written. -/
def insertionIndex? (l : Language) (cs : List Char) (className : String) : Option Nat := do
  let start ← declarationEnd? l.classSyntax (unqualifiedName className).toList cs
  return blankLineStart cs (← classEnd? cs start l)

/-- The byte offset at which a new member of a class is written. -/
def insertionOffset? (l : Language) (source className : String) : Option Nat :=
  (l.insertionIndex? source.toList className).map fun i => Text.byteLength (source.toList.take i)

/-- A parameter of a handler as it is declared. -/
def declaredParameter (l : Language) (p : ParameterDefinition) : String :=
  match l with
  | cSharp => l.displayName p.typeName ++ " " ++ p.name
  | visualBasic => "ByVal " ++ p.name ++ " As " ++ l.displayName p.typeName

end Language

/-- New text at a place. -/
structure TextInsertion where
  position : Position
  text : String
  deriving DecidableEq, Repr

/-- The insertion as editors take it. -/
def TextInsertion.toJson (e : TextInsertion) : Json :=
  .obj [("range", Span.toJson ⟨e.position, e.position⟩), ("newText", .str e.text)]

namespace HandlerProposal

/-- The text of a handler with an empty body. -/
def stub (h : HandlerProposal) (l : Language) : String :=
  let parameters := ", ".intercalate (h.parameters.map l.declaredParameter)
  match l with
  | .cSharp =>
    "\n    protected void " ++ h.handlerName ++ "(" ++ parameters ++ ")\n    \x7b\n    \x7d\n"
  | .visualBasic =>
    "\n    Protected Sub " ++ h.handlerName ++ "(" ++ parameters ++ ")\n    End Sub\n"

/-- The edit that writes a handler into the source of its class; none when the class is not
found. -/
def insertion? (h : HandlerProposal) (l : Language) (source : String) : Option TextInsertion :=
  (l.insertionOffset? source h.className).map fun offset =>
    { position := Text.positionAt source.toList offset, text := h.stub l }

end HandlerProposal

end WebForms
