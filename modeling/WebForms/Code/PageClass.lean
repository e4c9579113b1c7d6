import WebForms.Code.Language
import WebForms.Document
import WebForms.Page.CodeBehind

/-!
# The class that a page stands for

A page is compiled to a class: it derives from the class behind the page, has a field for each
server element, and the code of each server block in a method of its own.

## Main definitions

* `PageClass.ofSnapshot` — the class of a page
* `PageClass.source` — its source in a language
-/

namespace WebForms

/-- The class that a page stands for. -/
structure PageClass where
  name : String
  /-- The class from which it derives. -/
  base : String
  /-- The namespaces whose types it can name. -/
  imports : List String
  fields : List PageField
  /-- The server blocks of the page in order. -/
  blocks : List ServerBlock
  deriving DecidableEq, Repr

/-- The expression, if the node is one. -/
def Node.block? (n : Node) : Option ServerBlock :=
  match n.kind with
  | .block e => some e
  | _ => none

namespace PageClass

/-- The namespaces that every page imports. -/
def standardImports : List String :=
  ["System", "System.Collections", "System.Web", "System.Web.UI", "System.Web.UI.WebControls",
    "System.Web.UI.HtmlControls"]

/-- The namespaces that the directives of a page import. -/
def importedBy (root : Node) : List String :=
  (root.directives.filter (Text.sameName ·.name "Import")).filterMap fun d =>
    (d.attributes.get? "Namespace").map Text.trim

/-- The class name for a file name: whatever a name may not hold becomes an underscore. -/
def nameOf (fileName : String) : String :=
  String.ofList (fileName.toList.map fun c => if Text.isAlphanumeric c then c else '_')

/-- The name of the file that a page is, as its address gives it. -/
def fileName (uri : Uri) : String :=
  (uri.segments?.bind List.getLast?).getD "Document"

/-- The class of a page. -/
def ofSnapshot (ix : TypeIndex) (s : Snapshot) : PageClass where
  name := nameOf (fileName s.uri)
  base := s.facts.inherits.getD s.facts.kind.baseType
  imports := (standardImports ++ importedBy s.root).eraseDups
  fields := pageFields ⟨ix, s.registrations⟩ s.root
  blocks := s.root.preorder.filterMap Node.block?

/-- The field of that name. -/
def field? (p : PageClass) (name : String) : Option PageField :=
  p.fields.find? (Text.sameName ·.name name)

/-! ### Source -/

/-- The method for the server block of number `i`. A block of code is its body; a value becomes
the value of a variable. -/
def methodLines (l : Language) (i : Nat) (e : ServerBlock) : List String :=
  let body := Text.trim e.text
  let name := "__Expression" ++ toString i
  match l with
  | .cSharp =>
    ["", "    private void " ++ name ++ "()", "    \x7b",
      if e.kind.yieldsValue then "        object __value = (" ++ body ++ ");"
      else "        " ++ body,
      "    \x7d"]
  | .visualBasic =>
    ["", "    Private Sub " ++ name ++ "()",
      if e.kind.yieldsValue then "        Dim __value As Object = (" ++ body ++ ")"
      else "        " ++ body,
      "    End Sub"]

/-- The methods for the server blocks, the first of which has number `i`. -/
def methodsFrom (l : Language) (i : Nat) : List ServerBlock → List String
  | [] => []
  | e :: es => methodLines l i e ++ methodsFrom l (i + 1) es

/-- The line that imports a namespace. -/
def importLine : Language → String → String
  | .cSharp, space => "using " ++ space ++ ";"
  | .visualBasic, space => "Imports " ++ space

/-- The lines with which the class begins. -/
def headerLines (p : PageClass) : Language → List String
  | .cSharp => ["public partial class " ++ p.name ++ " : " ++ p.base, "\x7b"]
  | .visualBasic => ["Partial Public Class " ++ p.name, "    Inherits " ++ p.base]

/-- The line that declares a field. -/
def fieldLine (f : PageField) : Language → String
  | .cSharp => "    protected " ++ f.typeName ++ " " ++ f.name ++ ";"
  | .visualBasic => "    Protected WithEvents " ++ f.name ++ " As " ++ f.typeName

/-- The line with which the class ends. -/
def footerLine : Language → String
  | .cSharp => "\x7d"
  | .visualBasic => "End Class"

/-- The lines of the source. -/
def sourceLines (p : PageClass) (l : Language) : List String :=
  p.imports.map (importLine l) ++ [""] ++ p.headerLines l ++ p.fields.map (fieldLine · l) ++
    methodsFrom l 0 p.blocks ++ [footerLine l]

/-- The source of the class in a language, each line with its end. -/
def source (p : PageClass) (l : Language) : String :=
  String.join ((p.sourceLines l).map (· ++ "\n"))

end PageClass

end WebForms
