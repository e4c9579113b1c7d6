import WebForms.Files.Disk
import WebForms.Settings
import WebForms.Types.Bundled
import WebForms.Types.Format

/-!
# Loading type indexes

The index of a server holds the bundled types, unless they are switched off, then those of the
files and directories that the settings name, then those of the files below the root of the
workspace. Later definitions take the place of earlier ones. What cannot be read is passed over.

## Main definitions

* `isIndexFile` — which files hold a type index
* `indexFilesUnder`, `indexFiles` — the files to load, in order
* `loadIndex` — the index of a server
-/

namespace WebForms

/-- The ending of the names of type index files. -/
def indexFileEnding : String := ".typeindex.json"

/-- A file of that path holds a type index, by its name in any letter case. -/
def isIndexFile (path : String) : Bool :=
  ((Path.components path).getLast?.getD "").toLower.endsWith indexFileEnding

/-- The type index files in a directory and those below it, in the order of their paths. -/
def indexFilesUnder {m : Type → Type} [Monad m] (disk : Disk m) (directory : String) :
    m (List String) := do
  let files ← disk.filesUnder directory
  return (files.filter isIndexFile).mergeSort fun a b =>
    !(Path.components b).lex (Path.components a)

/-- The files at a path that the settings name: those of a directory, or the file itself. -/
def filesAt {m : Type → Type} [Monad m] (disk : Disk m) (path : String) : m (List String) := do
  if ← disk.isDirectory path then indexFilesUnder disk path else return [path]

/-- The two paths have the same components and both begin at the root, or neither does. -/
def samePath (p q : String) : Bool :=
  Path.isAbsolute p == Path.isAbsolute q && Path.components p == Path.components q

/-- The files to load: those that the settings name, then those below the root that are not among
them. -/
def indexFiles {m : Type → Type} [Monad m] (disk : Disk m) (paths : List String)
    (root : Option String) : m (List String) := do
  let named := (← paths.mapM (filesAt disk)).flatten
  match root with
  | none => return named
  | some root =>
    let found ← indexFilesUnder disk root
    return named ++ found.filter fun f => !named.any (samePath f)

/-- Adds the types of a file, if it can be read. -/
def addFile {m : Type → Type} [Monad m] (disk : Disk m) (ix : TypeIndex) (path : String) :
    m TypeIndex := do
  match ← disk.read path with
  | .error _ => return ix
  | .ok text => return ((TypeIndex.parse? text).map ix.merge).getD ix

/-- The index of a server with the given settings and workspace. -/
def loadIndex {m : Type → Type} [Monad m] (disk : Disk m) (settings : Settings)
    (root : Option String) : m TypeIndex := do
  let files ← indexFiles disk settings.typeIndexPaths root
  files.foldlM (addFile disk) (if settings.useBundledIndex then .bundled else {})

end WebForms
