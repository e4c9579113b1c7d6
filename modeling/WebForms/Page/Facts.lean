import WebForms.Markup.Tree
import WebForms.Text.Split

/-!
# What a page says about itself

The path of a file tells what kind of document it is. Its main directive names the language and
the class behind the page, the code file and the master page, and the document type declaration
names the markup dialect.

## Main definitions

* `PageKind` — the kinds of document
* `DocType` — the public identifier and the address in a document type declaration
* `PageFacts.ofTree` — the facts about a parsed page
-/

namespace WebForms

/-- The kinds of document. -/
inductive PageKind where
  | page
  | control
  | master
  | webService
  | handler
  deriving DecidableEq, Repr

namespace PageKind

/-- The kind of a file, by what stands behind the last dot of its path. -/
def ofPath (path : String) : PageKind :=
  match Text.splitLast? (· == '.') path.toList with
  | none => page
  | some (_, extension) =>
    match (String.ofList extension).toLower with
    | "ascx" => control
    | "master" => master
    | "asmx" => webService
    | "ashx" => handler
    | _ => page

/-- The name of the directive that describes a document of this kind. -/
def mainDirective : PageKind → String
  | page => "Page"
  | control => "Control"
  | master => "Master"
  | webService => "WebService"
  | handler => "WebHandler"

/-- The type from which the class behind such a document derives. -/
def baseType : PageKind → String
  | page => "System.Web.UI.Page"
  | control => "System.Web.UI.UserControl"
  | master => "System.Web.UI.MasterPage"
  | webService => "System.Web.Services.WebService"
  | handler => "System.Web.IHttpHandler"

end PageKind

/-- The public identifier and the address of a document type declaration. -/
structure DocType where
  publicId : String
  address : String
  deriving DecidableEq, Repr

namespace DocType

/-- White space, at least some, and then what follows it. -/
def skipBlanks? (cs : List Char) : Option (List Char) :=
  match cs with
  | c :: rest => if Text.isBlank c then some (rest.dropWhile Text.isBlank) else none
  | [] => none

/-- A literal in double quotes and what follows it. -/
def quoted? (cs : List Char) : Option (List Char × List Char) :=
  match cs with
  | '"' :: rest => Text.splitFirst? (· == '"') rest
  | _ => none

/-- The two literals that follow the word that announces them. -/
def literals? (cs : List Char) : Option DocType := do
  let (publicId, rest) ← quoted? (← skipBlanks? cs)
  let (address, _) ← quoted? (← skipBlanks? rest)
  return ⟨String.ofList publicId, String.ofList address⟩

/-- The first public identifier with an address in the source of a declaration. -/
def ofSource? : List Char → Option DocType
  | [] => none
  | c :: cs =>
    let here : Option DocType := match c :: cs with
      | 'P' :: 'U' :: 'B' :: 'L' :: 'I' :: 'C' :: rest => literals? rest
      | 'p' :: 'u' :: 'b' :: 'l' :: 'i' :: 'c' :: rest => literals? rest
      | _ => none
    match here with
    | some d => some d
    | none => ofSource? cs

end DocType

/-- The facts that a page states about itself. -/
structure PageFacts where
  kind : PageKind
  language : String := "C#"
  /-- The class behind the page. -/
  inherits : Option String := none
  codeFile : Option String := none
  masterPageFile : Option String := none
  docType : Option DocType := none
  deriving DecidableEq, Repr

namespace PageFacts

/-- The page is the content of a master page. -/
def isContentPage (p : PageFacts) : Bool :=
  p.kind == .page && p.masterPageFile.isSome

/-- Takes over what the main directive states; blank attributes state nothing. -/
def withDirective (p : PageFacts) (d : Directive) : PageFacts :=
  let stated (name : String) : Option String := (d.attributes.get? name).bind Text.trimmed?
  { p with
    language := (stated "Language").getD p.language
    inherits := stated "Inherits"
    codeFile := (stated "CodeFile").or (stated "CodeBehind")
    masterPageFile := stated "MasterPageFile" }

/-- The source text that a span covers. -/
def slice? (cs : List Char) (span : Span) : Option (List Char) := do
  let start ← Text.offsetOf? cs span.start
  let stop ← Text.offsetOf? cs span.stop
  return Text.takeBytes (stop - start) (Text.dropBytes start cs)

/-- The document type that the first declaration at the top of the page states. -/
def docTypeOf? (cs : List Char) (root : Node) : Option DocType := do
  let node ← root.children.find? (·.kind = .plain .docType)
  DocType.ofSource? (← slice? cs node.span)

/-- The facts about the page at `path` with the given text and tree. -/
def ofTree (path text : String) (root : Node) : PageFacts :=
  let facts : PageFacts := { kind := .ofPath path }
  let facts := match root.directives.find? (Text.sameName ·.name facts.kind.mainDirective) with
    | some d => facts.withDirective d
    | none => facts
  { facts with docType := docTypeOf? text.toList root }

end PageFacts

end WebForms
