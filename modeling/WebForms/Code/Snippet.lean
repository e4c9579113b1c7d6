import WebForms.Markup.Node

/-!
# The code around a caret

A caret in a server block divides its code. What follows the caret reaches up to the end of the
block.

## Main definitions

* `Snippet` — the code on both sides of a caret
* `Snippet.ofSource` — the snippet in a text
-/

namespace WebForms

/-- The code of a server block around a caret. -/
structure Snippet where
  kind : BlockKind
  before : String
  after : String
  deriving DecidableEq, Repr

namespace Snippet

/-- What stands in front of the first closing of a server block. -/
def untilClosing : List Char → List Char
  | '%' :: '>' :: _ => []
  | c :: cs => c :: untilClosing cs
  | [] => []

/-- The snippet of a block whose text up to the caret is `before`, when the page goes on with
`after`. -/
def ofSource (kind : BlockKind) (before after : String) : Snippet :=
  { kind, before, after := String.ofList (untilClosing after.toList) }

/-- All of the code. -/
def code (s : Snippet) : String := s.before ++ s.after

/-- The place of the caret, in bytes. -/
def caret (s : Snippet) : Nat := s.before.utf8ByteSize

end Snippet

end WebForms
