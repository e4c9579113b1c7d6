import WebForms.Markup.Node

/-!
# Markup events

What reading a page reports, in the order in which constructs are completed: text, start and
closing tags, directives, server blocks, comments and declarations.
-/

namespace WebForms

/-- A completed piece of markup. -/
inductive MarkupEvent where
  | text (span : Span)
  /-- A start tag; `opensScope` tells whether content may follow it. -/
  | startTag (tag : Tag) (opensScope : Bool)
  | endTag (name : TagName) (span : Span)
  | directive (directive : Directive) (span : Span)
  | block (block : ServerBlock) (span : Span)
  | plain (kind : PlainKind) (text : String) (span : Span)
  deriving DecidableEq, Repr

end WebForms
