import WebForms.Uri.Host
import WebForms.Uri.Path

/-!
# Document addresses

Documents are known by URIs. A URI is read into its parts and written back in one normal form:
the scheme in lower case, the host as it is known, no dot segments in the path, and characters that
may not stand in a part percent-encoded. The schemes of the web have a host and treat a backslash
as a slash; a file may do without a host; any other scheme may have an opaque path.

## Main definitions

* `Uri`, `Uri.parse`, `Uri.text` — a URI, read and written
* `Uri.host`, `Uri.segments?` — its host and the segments of its path
* `Uri.filePath?`, `Uri.fileAddress?` — between URIs and the paths of files
-/

namespace WebForms

/-- What stands between two slashes and the path. -/
structure Authority where
  user : String := ""
  password : String := ""
  host : Option Host := none
  /-- The number behind the host, unless it is the usual one of the scheme. -/
  number : Option Nat := none
  deriving DecidableEq, Repr

namespace Authority

/-- Somebody is named in front of the host. -/
def hasUser (a : Authority) : Bool := a.user ≠ "" || a.password ≠ ""

/-- The written form. -/
def text (a : Authority) : String :=
  let password := if a.password = "" then "" else ":" ++ a.password
  (if a.hasUser then a.user ++ password ++ "@" else "") ++
    a.host.elim "" Host.text ++ a.number.elim "" fun n => ":" ++ toString n

end Authority

/-- A URI in normal form. -/
structure Uri where
  scheme : String
  authority : Option Authority := none
  path : UriPath
  query : Option String := none
  fragment : Option String := none
  deriving DecidableEq, Repr

namespace Uri

/-- The kinds of scheme that are read differently. -/
inductive SchemeKind where
  | file
  | web
  | other
  deriving DecidableEq

/-- The kind of a scheme. -/
def schemeKind (scheme : String) : SchemeKind :=
  if scheme = "file" then .file
  else if ["http", "https", "ws", "wss", "ftp"].contains scheme then .web
  else .other

/-- The number that is meant when none is written behind the host. -/
def usualNumber? : String → Option Nat
  | "http" => some 80
  | "ws" => some 80
  | "https" => some 443
  | "wss" => some 443
  | "ftp" => some 21
  | _ => none

/-- The host, if there is one. -/
def host (u : Uri) : Option Host := u.authority.bind Authority.host

/-- The segments of the path, if it begins with a slash. -/
def segments? (u : Uri) : Option (List String) := u.path.segments?

/-- The path would be taken for an authority: there is none, and the first of several segments is
empty. -/
def hidesPath (u : Uri) : Bool :=
  match u.authority, u.path with
  | none, .divided ("" :: _ :: _) => true
  | _, _ => false

/-- The written form. -/
def text (u : Uri) : String :=
  u.scheme ++ ":" ++ (u.authority.elim "" fun a => "//" ++ a.text) ++
    (if u.hidesPath then "/." else "") ++ u.path.text ++
    (u.query.elim "" ("?" ++ ·)) ++ (u.fragment.elim "" ("#" ++ ·))

/-! ### Reading -/

/-- The scheme in front of the first colon, in lower case, and what follows the colon. -/
def readScheme? (cs : List Char) : Option (String × List Char) := do
  let (scheme, rest) ← Text.splitFirst? (· == ':') cs
  let first ← scheme.head?
  if first.isAlpha && scheme.all fun c => c.isAlphanum || c == '+' || c == '-' || c == '.' then
    return ((String.ofList scheme).toLower, rest)
  else none

/-- A character that divides a path. -/
def isSlash (kind : SchemeKind) (c : Char) : Bool :=
  c == '/' || (kind != .other && c == '\\')

/-- A character behind which there is no path any more. -/
def endsPath (c : Char) : Bool := c == '?' || c == '#'

/-- The parts of `cs` in front of the path and from the path on. -/
def splitAuthority (kind : SchemeKind) (cs : List Char) : List Char × List Char :=
  cs.span fun c => !isSlash kind c && !endsPath c

/-- The host in front of the number, which a colon outside of brackets introduces. -/
def splitHost (bracketed : Bool) : List Char → List Char × List Char
  | [] => ([], [])
  | c :: cs =>
    if c = ':' ∧ !bracketed then ([], c :: cs)
    else
      let bracketed := c = '[' || (c != ']' && bracketed)
      let (host, rest) := splitHost bracketed cs
      (c :: host, rest)

/-- The number at the front of `cs`, and what follows it; none is written for the usual number of
the scheme. -/
def readNumber (scheme : String) (cs : List Char) : Except UriFault (Option Nat × List Char) :=
  let (digits, rest) := cs.span Char.isDigit
  let n := digits.foldl (fun n c => 10 * n + (c.toNat - 48)) 0
  if 65535 < n ∨ rest.head?.any (· ≠ '\\') then .error .badNumber
  else .ok (if digits.isEmpty ∨ usualNumber? scheme = some n then none else some n, rest)

/-- A user name and a password in their written form. -/
def readUser (cs : List Char) : String × String :=
  let write (cs : List Char) := String.ofList (Text.percentEncodeChars Text.inUserInfo cs)
  match Text.splitFirst? (· == ':') cs with
  | some (user, password) => (write user, write password)
  | none => (write cs, "")

/-- Reads the authority behind two slashes; gives also the characters from the path on. -/
def readAuthority (scheme : String) (cs : List Char) : Except UriFault (Authority × List Char) := do
  let kind := schemeKind scheme
  let (text, tail) := splitAuthority kind cs
  let (who, text) := match Text.splitLast? (· == '@') text with
    | some (who, text) => (some who, text)
    | none => (none, text)
  if who = some [] ∧ text.isEmpty ∧ !tail.isEmpty then throw .noHost
  let (user, password) := (who.map readUser).getD ("", "")
  let (name, rest) := splitHost false text
  if name.isEmpty ∧ (kind = .web ∨ !rest.isEmpty ∨ user ≠ "" ∨ password ≠ "") then throw .noHost
  let host ← if name.isEmpty then pure none
    else some <$> if kind = .web then Host.read name else Host.readPlain name
  let (number, rest) ← match rest with
    | ':' :: digits => readNumber scheme digits
    | rest => pure (none, rest)
  return ({ user, password, host, number }, rest ++ tail)

/-- The segments of a path, in which a slash at the front is supplied where there is none. -/
def readSegments (kind : SchemeKind) (cs : List Char) : List (List Char) :=
  Text.splitAll (isSlash kind) (if cs.head?.any (isSlash kind) then cs.tail else cs)

/-- The path of a scheme that is not that of files. -/
def readPath (kind : SchemeKind) (cs : List Char) : UriPath :=
  .divided ((UriPath.follow false [] (readSegments kind cs)).map String.ofList)

/-- The URI of a file. Empty segments at the front of the path do not count, and a drive there is
on no other host. -/
def ofFile (host : Option Host) (segments : List (List Char)) : Uri :=
  let followed := UriPath.follow true [] segments
  let onDrive := followed.head?.any UriPath.isDrive
  let path := match followed.dropWhile List.isEmpty with
    | [] => [""]
    | segments => segments.map String.ofList
  { scheme := "file"
    authority := some { host := if onDrive then none else host }
    path := .divided path }

/-- Reads the URI of a file, from the host on. A drive may stand in place of the host. Where there
is no host, the first slash is part of the path. -/
def readFileHost (cs : List Char) : Except UriFault Uri := do
  let (name, tail) := splitAuthority .file cs
  let path := tail.takeWhile (!endsPath ·)
  if UriPath.isDrive name then
    return ofFile none (Text.splitAll (isSlash .file) (name ++ path))
  if name.isEmpty then return ofFile none (Text.splitAll (isSlash .file) path)
  let host ← Host.read name
  if host = .self then return ofFile none (Text.splitAll (isSlash .file) path)
  return ofFile (some host) (readSegments .file path)

/-- Reads what stands between the scheme and the query. -/
def readHierarchy (scheme : String) (cs : List Char) : Except UriFault Uri := do
  let path (cs : List Char) := cs.takeWhile (!endsPath ·)
  match schemeKind scheme with
  | .file =>
    let slashes := cs.take 2
    if slashes.length = 2 ∧ slashes.all (isSlash .file) then readFileHost (cs.drop 2)
    else return ofFile none (readSegments .file (path cs))
  | .web =>
    let (authority, tail) ← readAuthority scheme (cs.dropWhile (isSlash .web))
    return { scheme, authority := some authority, path := readPath .web (path tail) }
  | .other =>
    match cs with
    | '/' :: '/' :: cs =>
      let (authority, tail) ← readAuthority scheme cs
      let rest := path tail
      let path := if rest.isEmpty then .whole "" else readPath .other rest
      return { scheme, authority := some authority, path }
    | '/' :: _ => return { scheme, path := readPath .other (path cs) }
    | _ =>
      let text := Text.percentEncodeChars Text.inControls (path cs)
      return { scheme, path := .whole (String.ofList text) }

/-- The characters of a URI without the white space that does not count. -/
def significant (s : String) : List Char :=
  let edge (c : Char) : Bool := c.toNat ≤ 0x20
  let cs := ((s.toList.dropWhile edge).reverse.dropWhile edge).reverse
  cs.filter fun c => c != '\t' && c != '\n' && c != '\r'

/-- The fragment behind the first number sign, and what stands in front of it. -/
def splitOff (mark : Char) (cs : List Char) : List Char × Option (List Char) :=
  match Text.splitFirst? (· == mark) cs with
  | some (front, rest) => (front, some rest)
  | none => (cs, none)

/-- Reads a URI. -/
def parse (s : String) : Except UriFault Uri := do
  let some (scheme, rest) := readScheme? (significant s) | throw .noScheme
  let u ← readHierarchy scheme rest
  let (front, fragment) := splitOff '#' rest
  let (_, query) := splitOff '?' front
  let special := schemeKind scheme != .other
  let write (encoded : Char → Bool) (cs : List Char) :=
    String.ofList (Text.percentEncodeChars encoded cs)
  return { u with
    query := query.map (write (Text.inQuery special))
    fragment := fragment.map (write Text.inFragment) }

/-! ### Files -/

/-- The path of the file that the URI stands for: there is one when the path is divided and no
other host is named. A drive at the end is a directory. -/
def filePath? (u : Uri) : Option String := do
  let segments ← u.segments?
  if u.host.any (· ≠ .self) then none
  let path := segments.flatMap fun s => '/' :: Text.percentDecode s.toList
  let onDrive := 2 < path.length && UriPath.isDrive (path.drop (path.length - 2))
  return String.ofList (if onDrive then path ++ ['/'] else path)

/-- The address of the file at an absolute path; empty and single-dot components are left out. -/
def fileAddress? (path : String) : Option String :=
  match path.toList with
  | '/' :: cs =>
    let components := (Text.splitAll (· == '/') cs).filter fun c => c != [] && c != ['.']
    let segments := components.map (Text.percentEncodeChars Text.inSegment)
    some ("file://" ++ (UriPath.divided (if segments.isEmpty then [""] else
      segments.map String.ofList)).text)
  | _ => none

end Uri

end WebForms
