import WebForms.Text.Case

/-!
# Languages of code blocks

A page names the language of its code blocks. Of a language it is known how it may be named, its
keywords, how code refers to its own object, and its own names for some types.

## Main definitions

* `Language` — the languages, with `Language.names`, `Language.keywords`, `Language.selfKeyword`
* `Language.fullTypeName`, `Language.displayName` — between a language's names of types and the
  full names
* `LanguageRegistry` — the languages that are served
-/

namespace WebForms

/-- A language of code blocks. -/
inductive Language where
  | cSharp
  | visualBasic
  deriving DecidableEq, Repr, Inhabited

namespace Language

/-- The name by which a language is known. -/
def id : Language → String
  | cSharp => "C#"
  | visualBasic => "VB"

/-- Further names of a language. -/
def aliases : Language → List String
  | cSharp => ["csharp", "cs"]
  | visualBasic => ["vb.net", "visualbasic"]

/-- The word by which code refers to its own object. -/
def selfKeyword : Language → String
  | cSharp => "this"
  | visualBasic => "Me"

/-- The keywords that are offered. -/
def keywords : Language → List String
  | cSharp =>
    ["as", "base", "bool", "break", "case", "catch", "char", "checked", "const", "continue",
      "decimal", "default", "do", "double", "else", "false", "finally", "for", "foreach", "if",
      "in", "int", "is", "long", "new", "null", "object", "return", "string", "switch", "this",
      "throw", "true", "try", "typeof", "using", "var", "while"]
  | visualBasic =>
    ["AddHandler", "And", "AndAlso", "As", "Boolean", "ByRef", "ByVal", "Call", "Case", "CType",
      "Dim", "DirectCast", "Do", "Each", "Else", "ElseIf", "End", "False", "For", "Function", "If",
      "In", "Integer", "Is", "IsNot", "Me", "MyBase", "New", "Next", "Not", "Nothing", "Object",
      "Or", "OrElse", "Return", "Select", "String", "Sub", "Then", "True", "Try", "TryCast",
      "While", "With"]

/-- The types that have a name in the language, with their full names. -/
def typeNames : Language → List (String × String)
  | cSharp =>
    [("object", "System.Object"), ("string", "System.String"), ("bool", "System.Boolean"),
      ("short", "System.Int16"), ("int", "System.Int32"), ("long", "System.Int64"),
      ("double", "System.Double"), ("decimal", "System.Decimal"), ("char", "System.Char"),
      ("void", "System.Void")]
  | visualBasic =>
    [("Object", "System.Object"), ("String", "System.String"), ("Boolean", "System.Boolean"),
      ("Short", "System.Int16"), ("Integer", "System.Int32"), ("Long", "System.Int64"),
      ("Double", "System.Double"), ("Decimal", "System.Decimal"), ("Char", "System.Char"),
      ("Date", "System.DateTime")]

/-- The full name of a type that may be written with the language's name. -/
def fullTypeName (l : Language) (name : String) : String :=
  ((l.typeNames.find? fun t => Text.sameName t.1 name).map (·.2)).getD name

/-- The language's name of a type, or else its full name. -/
def displayName (l : Language) (fullName : String) : String :=
  ((l.typeNames.find? fun t => Text.sameName t.2 fullName).map (·.1)).getD fullName

/-- A page may call the language by that name. -/
def answersTo (l : Language) (name : String) : Bool :=
  (l.id :: l.aliases).any (Text.sameName · name)

end Language

/-- The languages that are served, in the order in which they were added. -/
structure LanguageRegistry where
  languages : List Language := []
  deriving DecidableEq, Repr

namespace LanguageRegistry

/-- Adds a language, at the end even if it is there already. -/
def register (r : LanguageRegistry) (l : Language) : LanguageRegistry :=
  ⟨r.languages.filter (!Text.sameName ·.id l.id) ++ [l]⟩

/-- The languages that are served from the start. -/
def standard : LanguageRegistry := (({} : LanguageRegistry).register .cSharp).register .visualBasic

/-- The language that a page calls by the name, written with or without space around it. -/
def find? (r : LanguageRegistry) (name : String) : Option Language :=
  r.languages.find? (·.answersTo (Text.trim name))

end LanguageRegistry

end WebForms
