import WebForms.Text.Percent
import WebForms.Text.Split

/-!
# Paths of URIs

A path is a row of segments. Segments of one or two dots, possibly encoded, say where to go rather
than what is there, and are followed when a path is read. A drive is never left.

## Main definitions

* `UriPath`, `UriPath.text` — a path and its written form
* `UriPath.follow` — the segments of a path that is read
-/

namespace WebForms

/-- The path of a URI. -/
inductive UriPath where
  /-- A path that is not divided. -/
  | whole (text : String)
  /-- The segments between slashes. -/
  | divided (segments : List String)
  deriving DecidableEq, Repr

namespace UriPath

/-- The written form. -/
def text : UriPath → String
  | .whole text => text
  | .divided segments => String.join (segments.map ("/" ++ ·))

/-- The segments, if the path begins with a slash. -/
def segments? : UriPath → Option (List String)
  | .divided segments => some segments
  | .whole _ => none

/-! ### Drives -/

/-- A segment that names a drive: a letter and a colon or bar. -/
def isDrive : List Char → Bool
  | [letter, mark] => letter.isAlpha && (mark == ':' || mark == '|')
  | _ => false

/-- A segment from which no way leads up: a drive, possibly with a backslash behind it. -/
def holdsDrive : List Char → Bool
  | letter :: mark :: '\\' :: _ => isDrive [letter, mark]
  | segment => isDrive segment

/-! ### Dots -/

/-- What a segment of dots means. -/
inductive DotSegment where
  | here
  | up
  deriving DecidableEq

/-- The meaning of a segment of one or two dots, each of them possibly encoded. -/
def dotSegment? (segment : List Char) : Option DotSegment :=
  let s := (String.ofList segment).toLower
  if [".", "%2e"].contains s then some .here
  else if ["..", ".%2e", "%2e.", "%2e%2e"].contains s then some .up
  else none

/-- The segments above the last one of `seen`, which are in reverse order. -/
def above : List (List Char) → List (List Char)
  | [] => []
  | s :: ss => if holdsDrive s then s :: ss else ss

/-- A segment behind those in `seen`. In the path of a file, a drive at the front has a colon. -/
def enter (file : Bool) (seen : List (List Char)) (segment : List Char) : List (List Char) :=
  if file && seen.isEmpty && isDrive segment then [segment.take 1 ++ [':']] else segment :: seen

/-- The segments of a path, the dots among them followed; `seen` holds the segments so far, last
one first. A path that ends with dots ends with a slash. -/
def follow (file : Bool) (seen : List (List Char)) : List (List Char) → List (List Char)
  | [] => seen.reverse
  | s :: ss =>
    let s := Text.percentEncodeChars Text.inPath s
    match dotSegment? s with
    | some .up => if ss.isEmpty then ([] :: above seen).reverse else follow file (above seen) ss
    | some .here => if ss.isEmpty then ([] :: seen).reverse else follow file seen ss
    | none => follow file (enter file seen s) ss

end UriPath

end WebForms
