import WebForms.Json.Record
import WebForms.Text.Case

/-!
# Settings

The settings start from defaults. The options that a client sends are laid over them, and a
version named in the environment over both. Options that cannot be read as a whole change nothing.

## Main definitions

* `RuntimeVersion` — the versions of the runtime, in order, and how they are written
* `Settings`, `SettingsOverrides` — all settings, and those that a client may send
* `Settings.layered` — the settings under given options and environment
-/

namespace WebForms

/-- The versions of the runtime that pages are written for. -/
inductive RuntimeVersion where
  | v1
  | v2
  | v4
  deriving DecidableEq, Repr, Inhabited

namespace RuntimeVersion

/-- The place of a version in their order. -/
def rank : RuntimeVersion → Nat
  | v1 => 0
  | v2 => 1
  | v4 => 2

instance : LE RuntimeVersion := ⟨fun v w => v.rank ≤ w.rank⟩

instance (v w : RuntimeVersion) : Decidable (v ≤ w) := inferInstanceAs (Decidable (v.rank ≤ w.rank))

/-- The number of a version. -/
def text : RuntimeVersion → String
  | v1 => "1.1"
  | v2 => "2.0"
  | v4 => "4.0"

/-- A text without leading `v`s. -/
def dropMark (cs : List Char) : List Char :=
  cs.dropWhile fun c => c == 'v' || c == 'V'

/-- Reads a version: a number with or without a leading `v`, or the name of a framework that runs
on it. -/
def parse? (s : String) : Option RuntimeVersion :=
  let s := (String.ofList (dropMark (Text.trimChars s.toList))).toLower
  if ["1.1", "1", "net11"].contains s then some v1
  else if ["2.0", "2", "3.5", "net20", "net35"].contains s then some v2
  else if ["4.0", "4", "4.5", "net40", "net45"].contains s then some v4
  else none

/-- What is said of a text that names no version. -/
def unknownMessage (s : String) : String :=
  "unknown CLR version '" ++ s ++ "', expected 1.1, 2.0 or 4.0"

end RuntimeVersion

/-- All settings. -/
structure Settings where
  runtime : RuntimeVersion := .v4
  /-- The number of columns by which elements are moved in the outline. -/
  outlineTagOffset : Nat := 1
  /-- Whether the parameters of a call are shown. -/
  parameterInsight : Bool := true
  /-- Files and directories with further type indexes. -/
  typeIndexPaths : List String := []
  useBundledIndex : Bool := true
  deriving DecidableEq, Repr, Inhabited

/-- The settings that a client sends. -/
structure SettingsOverrides where
  runtime : Option RuntimeVersion := none
  outlineTagOffset : Option Nat := none
  parameterInsight : Option Bool := none
  typeIndexPaths : Option (List String) := none
  useBundledIndex : Option Bool := none
  deriving DecidableEq, Repr, Inhabited

open Json in
/-- Reads the options of a client. -/
def SettingsOverrides.ofJson? (v : Json) : Option SettingsOverrides := do
  let [clr, offset, insight, paths, bundled] ← v.fields?
    ["clrVersion", "outlineTagColumnOffset", "enableParameterInsight", "typeIndexPaths",
      "useBundledIndex"] | none
  return {
    runtime := ← optional (fun v => v.str?.bind RuntimeVersion.parse?) clr
    outlineTagOffset := ← optional nat32? offset
    parameterInsight := ← optional bool? insight
    typeIndexPaths := ← optional (list? str?) paths
    useBundledIndex := ← optional bool? bundled }

namespace Settings

/-- Lays what a client sends over the settings; paths are added to those already given. -/
def apply (s : Settings) (o : SettingsOverrides) : Settings where
  runtime := o.runtime.getD s.runtime
  outlineTagOffset := o.outlineTagOffset.getD s.outlineTagOffset
  parameterInsight := o.parameterInsight.getD s.parameterInsight
  typeIndexPaths := s.typeIndexPaths ++ o.typeIndexPaths.getD []
  useBundledIndex := o.useBundledIndex.getD s.useBundledIndex

/-- The settings under the given options and the version named in the environment. What cannot be
read changes nothing. -/
def layered (s : Settings) (options : Option Json) (environment : Option String) : Settings :=
  let s := s.apply ((options.bind SettingsOverrides.ofJson?).getD {})
  { s with runtime := (environment.bind RuntimeVersion.parse?).getD s.runtime }

end Settings

end WebForms
