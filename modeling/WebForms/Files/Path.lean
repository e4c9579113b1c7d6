import WebForms.Text.Split

/-!
# Paths of files

Paths are joined and shortened as text, so that dots and doubled slashes stay as they are written;
only where paths are compared do they not count.

## Main definitions

* `Path.join`, `Path.parent` — paths put together and shortened
* `Path.components` — the parts by which paths are compared and sorted
* `codeFilePath` — the code file that a page names
-/

namespace WebForms

namespace Path

/-- The parts between slashes. -/
def parts (cs : List Char) : List (List Char) := Text.splitAll (· == '/') cs

/-- A part that leads nowhere. -/
def isIdle (part : List Char) : Bool := part == [] || part == ['.']

/-- The components of a path that lead somewhere. -/
def components (path : String) : List String :=
  ((parts path.toList).filter (!isIdle ·)).map String.ofList

/-- The path begins at the root. -/
def isAbsolute (path : String) : Bool := path.toList.head? = some '/'

/-- What `right` stands for when it is read in the directory `left`. -/
def join (left right : String) : String :=
  if isAbsolute right || left.isEmpty then right
  else if left.toList.getLast? = some '/' then left ++ right
  else left ++ "/" ++ right

/-- The slash or dot with which a path begins, and what follows it. -/
def splitLead (cs : List Char) : List Char × List Char :=
  match cs with
  | '/' :: rest => (['/'], rest)
  | ['.'] => (['.'], [])
  | '.' :: '/' :: rest => (['.'], '/' :: rest)
  | cs => ([], cs)

/-- Parts without those at the end that lead nowhere. -/
def dropIdle (ps : List (List Char)) : List (List Char) := (ps.reverse.dropWhile isIdle).reverse

/-- The directory in which the file of that path lies; empty when the path names none. -/
def parent (path : String) : String :=
  let (lead, body) := splitLead path.toList
  match dropIdle (parts body) with
  | [] => ""
  | ps => String.ofList (lead ++ ['/'].intercalate (dropIdle ps.dropLast))

end Path

/-- The path of the code file that the page at `page` names. A path that begins with a tilde is
taken from the root of the application, or else from the directory of the page. -/
def codeFilePath (page codeFile : String) (root : Option String) : String :=
  let directory := Path.parent page
  let name := codeFile.toList.map fun c => if c = '\\' then '/' else c
  match name with
  | '~' :: '/' :: rest => Path.join (root.getD directory) (String.ofList rest)
  | _ => Path.join directory (String.ofList name)

end WebForms
