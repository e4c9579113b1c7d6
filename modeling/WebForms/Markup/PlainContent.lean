/-!
# Content of plain elements

Which plain elements may stand inside another one. Only the elements with a content model of their
own are listed; all others hold flow content.

## Main definitions

* `plainChildren` — the names of the elements that may stand inside an element
-/

namespace WebForms

/-- The elements of flow content. -/
def flowContent : List String :=
  ["a", "abbr", "address", "article", "aside", "audio", "b", "blockquote", "br", "button",
    "canvas", "code", "dd", "div", "dl", "em", "fieldset", "figure", "footer", "form", "h1", "h2",
    "h3", "h4", "h5", "h6", "header", "hr", "i", "iframe", "img", "input", "label", "li", "main",
    "nav", "ol", "p", "pre", "script", "section", "select", "small", "span", "strong", "style",
    "sub", "sup", "table", "textarea", "ul", "video"]

/-- The elements that may stand inside the element `parent`, or at the root of a document. -/
def plainChildren : Option String → List String
  | none => ["html"]
  | some parent =>
    match parent.toLower with
    | "html" => ["head", "body"]
    | "head" => ["base", "link", "meta", "script", "style", "title"]
    | "table" => ["caption", "colgroup", "tbody", "tfoot", "thead", "tr"]
    | "thead" | "tbody" | "tfoot" => ["tr"]
    | "tr" => ["td", "th"]
    | "ul" | "ol" => ["li"]
    | "select" => ["optgroup", "option"]
    | "dl" => ["dd", "dt"]
    | _ => flowContent

end WebForms
