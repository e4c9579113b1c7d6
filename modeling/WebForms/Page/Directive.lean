import WebForms.Page.Facts
import WebForms.Types.Index

/-!
# Directives

Which directives a document may have depends on its kind; each directive has a fixed list of
attributes, and each attribute takes values of one sort.

## Main definitions

* `ValueOrigin`, `KnownAttribute` — an attribute of a directive and where its values come from
* `PageKind.directives`, `knownAttributes` — the directives of a document and their attributes
* `inheritedBase`, `TypeIndex.derivedFrom` — the classes from which a document may derive
-/

namespace WebForms

/-- Where the values of an attribute of a directive come from. -/
inductive ValueOrigin where
  /-- Any text; there is nothing to offer. -/
  | text
  | boolean
  /-- The languages of code blocks. -/
  | language
  /-- The classes from which the document may derive. -/
  | inherits
  /-- The prefixes that are registered already. -/
  | tagPrefix
  | choice (values : List String)
  deriving DecidableEq, Repr

/-- An attribute of a directive. -/
structure KnownAttribute where
  name : String
  source : ValueOrigin
  description : String
  deriving DecidableEq, Repr

/-- The ways to use session state. -/
def sessionStates : List String := ["true", "false", "ReadOnly"]

/-- The ways to encrypt view state. -/
def encryptionModes : List String := ["Auto", "Always", "Never"]

/-- The places for cached output. -/
def cacheLocations : List String :=
  ["Any", "Client", "Downstream", "Server", "None", "ServerAndClient"]

/-- The attributes of the directive for a page. -/
def pageAttributes : List KnownAttribute :=
  [⟨"Language", .language, "Language of inline code blocks"⟩,
    ⟨"AutoEventWireup", .boolean, "Bind page events to methods by name"⟩,
    ⟨"CodeFile", .text, "Path of the code-behind source file"⟩,
    ⟨"CodeBehind", .text, "Path of the precompiled code-behind source file"⟩,
    ⟨"Inherits", .inherits, "Code-behind class the page derives from"⟩,
    ⟨"MasterPageFile", .text, "Master page of this content page"⟩,
    ⟨"Title", .text, "Page title"⟩,
    ⟨"Theme", .text, "Theme applied to the page"⟩,
    ⟨"ClassName", .text, "Name of the generated class"⟩,
    ⟨"EnableViewState", .boolean, "Keep view state across requests"⟩,
    ⟨"EnableSessionState", .choice sessionStates, "Session state access"⟩,
    ⟨"EnableEventValidation", .boolean, "Validate postback and callback events"⟩,
    ⟨"ViewStateEncryptionMode", .choice encryptionModes, "View state encryption"⟩,
    ⟨"MaintainScrollPositionOnPostback", .boolean, "Restore scroll position after postback"⟩,
    ⟨"ValidateRequest", .boolean, "Reject potentially dangerous input"⟩,
    ⟨"Async", .boolean, "Page is an asynchronous handler"⟩,
    ⟨"Debug", .boolean, "Compile with debug symbols"⟩,
    ⟨"Trace", .boolean, "Enable tracing"⟩,
    ⟨"ErrorPage", .text, "Redirect target for unhandled errors"⟩,
    ⟨"Culture", .text, "Culture setting"⟩,
    ⟨"UICulture", .text, "User interface culture setting"⟩,
    ⟨"ResponseEncoding", .text, "Response content encoding"⟩]

/-- The attributes of the directive for a user control. -/
def controlAttributes : List KnownAttribute :=
  [⟨"Language", .language, "Language of inline code blocks"⟩,
    ⟨"AutoEventWireup", .boolean, "Bind control events to methods by name"⟩,
    ⟨"CodeFile", .text, "Path of the code-behind source file"⟩,
    ⟨"CodeBehind", .text, "Path of the precompiled code-behind source file"⟩,
    ⟨"Inherits", .inherits, "Code-behind class the control derives from"⟩,
    ⟨"ClassName", .text, "Name of the generated class"⟩,
    ⟨"EnableViewState", .boolean, "Keep view state across requests"⟩,
    ⟨"Description", .text, "Description of the control"⟩,
    ⟨"Debug", .boolean, "Compile with debug symbols"⟩]

/-- The attributes of the directive for a master page. -/
def masterAttributes : List KnownAttribute :=
  [⟨"Language", .language, "Language of inline code blocks"⟩,
    ⟨"AutoEventWireup", .boolean, "Bind page events to methods by name"⟩,
    ⟨"CodeFile", .text, "Path of the code-behind source file"⟩,
    ⟨"CodeBehind", .text, "Path of the precompiled code-behind source file"⟩,
    ⟨"Inherits", .inherits, "Code-behind class the master page derives from"⟩,
    ⟨"MasterPageFile", .text, "Master page this master page nests in"⟩,
    ⟨"ClassName", .text, "Name of the generated class"⟩,
    ⟨"EnableViewState", .boolean, "Keep view state across requests"⟩,
    ⟨"Debug", .boolean, "Compile with debug symbols"⟩]

/-- The attributes of the directive for a web service or handler. -/
def serviceAttributes : List KnownAttribute :=
  [⟨"Language", .language, "Language of the service class"⟩,
    ⟨"Class", .text, "Class implementing the service"⟩,
    ⟨"CodeBehind", .text, "Path of the service source file"⟩,
    ⟨"Debug", .boolean, "Compile with debug symbols"⟩]

/-- The attributes of the directive for an import of a namespace. -/
def importAttributes : List KnownAttribute :=
  [⟨"Namespace", .text, "Namespace to import"⟩]

/-- The attributes of the directive for a registration of tags. -/
def registerAttributes : List KnownAttribute :=
  [⟨"TagPrefix", .tagPrefix, "Prefix used for the registered tags"⟩,
    ⟨"TagName", .text, "Tag name of a user control"⟩,
    ⟨"Src", .text, "Path of a user control"⟩,
    ⟨"Namespace", .text, "Namespace of the registered controls"⟩,
    ⟨"Assembly", .text, "Assembly of the registered controls"⟩]

/-- The attributes of the directive for a link to an assembly. -/
def assemblyAttributes : List KnownAttribute :=
  [⟨"Name", .text, "Assembly to link"⟩,
    ⟨"Src", .text, "Source file to compile and link"⟩]

/-- The attributes of the directive for an implementation of an interface. -/
def implementsAttributes : List KnownAttribute :=
  [⟨"Interface", .text, "Interface the page implements"⟩]

/-- The attributes of the directive for a reference to a file. -/
def referenceAttributes : List KnownAttribute :=
  [⟨"Page", .text, "Page to compile and link"⟩,
    ⟨"Control", .text, "User control to compile and link"⟩,
    ⟨"VirtualPath", .text, "Virtual path of the referenced file"⟩]

/-- The attributes of the directive for caching. -/
def outputCacheAttributes : List KnownAttribute :=
  [⟨"Duration", .text, "Seconds the output is cached"⟩,
    ⟨"Location", .choice cacheLocations, "Where the output is cached"⟩,
    ⟨"VaryByParam", .text, "Parameters the cache varies by"⟩,
    ⟨"VaryByControl", .text, "Controls the cache varies by"⟩,
    ⟨"VaryByCustom", .text, "Custom cache variation"⟩,
    ⟨"VaryByHeader", .text, "Headers the cache varies by"⟩,
    ⟨"CacheProfile", .text, "Cache profile from configuration"⟩,
    ⟨"Shared", .boolean, "Share cached output between pages"⟩,
    ⟨"NoStore", .boolean, "Send Cache-Control: no-store"⟩]

/-- The attributes of the directive for a reference that gives another page its type. -/
def typedReferenceAttributes : List KnownAttribute :=
  [⟨"TypeName", .text, "Type of the referenced page"⟩,
    ⟨"VirtualPath", .text, "Virtual path of the referenced page"⟩]

/-- The attributes of the directive of that name. -/
def knownAttributes (directive : String) : List KnownAttribute :=
  match directive.toLower with
  | "page" => pageAttributes
  | "control" => controlAttributes
  | "master" => masterAttributes
  | "webservice" | "webhandler" => serviceAttributes
  | "import" => importAttributes
  | "register" => registerAttributes
  | "assembly" => assemblyAttributes
  | "implements" => implementsAttributes
  | "reference" => referenceAttributes
  | "outputcache" => outputCacheAttributes
  | "mastertype" | "previouspagetype" => typedReferenceAttributes
  | _ => []

/-- The directives that a document of a kind may have. -/
def PageKind.directives : PageKind → List String
  | page =>
    ["Page", "Import", "Register", "Assembly", "Implements", "Reference", "OutputCache",
      "MasterType", "PreviousPageType"]
  | control =>
    ["Control", "Import", "Register", "Assembly", "Implements", "Reference", "OutputCache"]
  | master => ["Master", "Import", "Register", "Assembly", "Implements", "Reference", "MasterType"]
  | webService => ["WebService", "Assembly"]
  | handler => ["WebHandler", "Assembly"]

/-- The type from which the class of a document with that main directive derives. -/
def inheritedBase (directive : String) : String :=
  match directive.toLower with
  | "control" => PageKind.control.baseType
  | "master" => PageKind.master.baseType
  | _ => PageKind.page.baseType

/-- The full names, in order, of the types that derive from `base`. -/
def TypeIndex.derivedFrom (ix : TypeIndex) (base : String) : List String :=
  let derived := ix.types.toList.filter fun t =>
    !Text.sameName t.fullName base && ix.isSubclass t base
  (derived.map (·.fullName)).mergeSort fun a b => decide (a ≤ b)

end WebForms
