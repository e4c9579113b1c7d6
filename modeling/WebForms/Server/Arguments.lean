import WebForms.Settings

/-!
# Command line arguments

The settings with which a server is started may be given on its command line.

## Main definitions

* `Settings.ofArguments` — the settings that a list of arguments states
-/

namespace WebForms

/-- Why a list of arguments is refused. -/
inductive ArgumentFault where
  | unknown (argument : String)
  | noValue (option : String)
  | badValue (option value : String)
  deriving DecidableEq, Repr

/-- What is said of a list of arguments that is refused. -/
def ArgumentFault.message : ArgumentFault → String
  | unknown argument => "unexpected argument '" ++ argument ++ "'"
  | noValue option => "a value is required for '" ++ option ++ "'"
  | badValue option value => "invalid value '" ++ value ++ "' for '" ++ option ++ "'"

namespace Settings

/-- The settings after the option `name` with its value. -/
def withOption (s : Settings) (name value : String) : Except ArgumentFault Settings :=
  match name with
  | "--type-index" => .ok { s with typeIndexPaths := s.typeIndexPaths ++ [value] }
  | "--clr-version" =>
    match RuntimeVersion.parse? value with
    | some runtime => .ok { s with runtime }
    | none => .error (.badValue name value)
  | "--outline-tag-column-offset" =>
    match value.toNat?.filter (· < UInt32.size) with
    | some outlineTagOffset => .ok { s with outlineTagOffset }
    | none => .error (.badValue name value)
  | _ => .error (.unknown name)

/-- The options that take a value. -/
def valueOptions : List String := ["--type-index", "--clr-version", "--outline-tag-column-offset"]

/-- The settings after a list of arguments. -/
def withArguments (s : Settings) : List String → Except ArgumentFault Settings
  | [] => .ok s
  | "--no-parameter-insight" :: rest => withArguments { s with parameterInsight := false } rest
  | [name] => .error (if valueOptions.contains name then .noValue name else .unknown name)
  | name :: value :: rest => do (← s.withOption name value).withArguments rest

/-- The settings that a list of arguments states. -/
def ofArguments (arguments : List String) : Except ArgumentFault Settings :=
  withArguments {} arguments

end Settings

end WebForms
