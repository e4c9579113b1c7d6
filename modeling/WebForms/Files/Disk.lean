import WebForms.Files.Path

/-!
# Disks

The server reads code files and type index files. It does so through a disk, which answers three
questions; the answers come from the machine, or from a tree of files that is held in memory.

## Main definitions

* `ReadFailure` — why a file cannot be read
* `Disk` — access to files
* `FileTree`, `FileTree.disk` — files held in memory
-/

namespace WebForms

/-- Why a file cannot be read. -/
inductive ReadFailure where
  | notFound
  | isDirectory
  | notDirectory
  /-- Any other reason, in the words of the machine. -/
  | other (message : String)
  deriving DecidableEq, Repr

/-- What is said of a file that cannot be read. -/
def ReadFailure.message : ReadFailure → String
  | notFound => "No such file or directory (os error 2)"
  | isDirectory => "Is a directory (os error 21)"
  | notDirectory => "Not a directory (os error 20)"
  | other message => message

/-- Access to files by their paths. -/
structure Disk (m : Type → Type) where
  /-- The text of a file. -/
  read : String → m (Except ReadFailure String)
  isDirectory : String → m Bool
  /-- The paths of all files in a directory and those below it, or of the one file at a path. -/
  filesUnder : String → m (List String)

/-! ### Files in memory -/

/-- Files and directories by the components of their paths. A directory is there when it is listed
or something lies in it. -/
structure FileTree where
  files : List (List String × String) := []
  directories : List (List String) := []

/-- What lies at a path. -/
inductive FileEntry where
  | file (text : String)
  | directory
  deriving DecidableEq, Repr

namespace FileTree

/-- What lies at the given components. -/
def entry? (t : FileTree) (place : List String) : Option FileEntry :=
  match t.files.find? fun f => f.1 == place with
  | some f => some (.file f.2)
  | none =>
    if place.isEmpty || t.directories.any (place.isPrefixOf ·) ||
        t.files.any fun f => place.isPrefixOf f.1 then
      some .directory
    else none

/-- Follows the parts of a path from a place; every part but the last has to name a directory. -/
def follow (t : FileTree) (place : List String) : List String →
    Except ReadFailure (List String × FileEntry)
  | [] =>
    match t.entry? place with
    | some e => .ok (place, e)
    | none => .error .notFound
  | part :: parts =>
    match t.entry? place with
    | none => .error .notFound
    | some (.file _) => .error .notDirectory
    | some .directory =>
      if part = "" ∨ part = "." then t.follow place parts
      else if part = ".." then t.follow place.dropLast parts
      else t.follow (place ++ [part]) parts

/-- What lies at a path, and where; only paths that begin at the root lead anywhere. -/
def locate (t : FileTree) (path : String) : Except ReadFailure (List String × FileEntry) :=
  if Path.isAbsolute path then t.follow [] ((Path.parts path.toList).map String.ofList)
  else .error .notFound

/-- The text of the file at a path. -/
def read (t : FileTree) (path : String) : Except ReadFailure String :=
  match t.locate path with
  | .ok (_, .file text) => .ok text
  | .ok (_, .directory) => .error .isDirectory
  | .error e => .error e

/-- There is a directory at a path. -/
def isDirectory (t : FileTree) (path : String) : Bool :=
  match t.locate path with
  | .ok (_, .directory) => true
  | _ => false

/-- The paths of all files in and below the directory at a path, or of the file there. -/
def filesUnder (t : FileTree) (path : String) : List String :=
  match t.locate path with
  | .ok (_, .file _) => [path]
  | .ok (place, .directory) =>
    (t.files.filter fun f => place.isPrefixOf f.1).map fun f =>
      (f.1.drop place.length).foldl Path.join path
  | .error _ => []

/-- The files as a disk. -/
def disk (t : FileTree) : Disk Id where
  read := t.read
  isDirectory := t.isDirectory
  filesUnder := t.filesUnder

end FileTree

end WebForms
