/-!
# Arguments of the command line

    [--log-format=plain|json] validate --file PATH … [--old PATH …] [--context PATH …]

Every option may be given with its value behind an equals sign or as the next argument. The log itself is left
out, so its format is read and not used.

The arguments of the command `validate` (specification, section 11.3).
-/

namespace OpenstackAdmission

inductive UsageFault where
  | unexpected (argument : String)
  | missingValue (option : String)
  | badLogFormat (format : String)
  | noCommand
  | noManifests
  deriving DecidableEq, Repr

def UsageFault.message : UsageFault → String
  | .unexpected argument => "unexpected argument '" ++ argument ++ "'"
  | .missingValue option => "a value is required for '" ++ option ++ "'"
  | .badLogFormat format => "invalid value '" ++ format ++ "' for '--log-format'"
  | .noCommand => "the command 'validate' is missing"
  | .noManifests => "a value is required for '--file'"

/-- The paths of the files of a request. -/
structure Arguments where
  manifests : List String
  previous : List String
  context : List String
  deriving DecidableEq, Repr

namespace Arguments

/-- An option that takes the path of a file. -/
inductive PathOption where
  | manifest
  | previous
  | context

def PathOption.ofName? : String → Option PathOption
  | "--file" => some .manifest
  | "-f" => some .manifest
  | "--old" => some .previous
  | "--context" => some .context
  | _ => none

/-- The arguments with another path in front. -/
def add (a : Arguments) (option : PathOption) (path : String) : Arguments :=
  match option with
  | .manifest => { a with manifests := path :: a.manifests }
  | .previous => { a with previous := path :: a.previous }
  | .context => { a with context := path :: a.context }

/-- An argument is a value unless it looks like an option. -/
def isValue (argument : String) : Bool := argument = "-" || argument.toList.head? ≠ some '-'

/-- An option with its value behind an equals sign, or behind a single letter. -/
def split? (argument : String) : Option (String × String) :=
  let cs := argument.toList
  match cs with
  | '-' :: '-' :: _ =>
    match cs.dropWhile (· ≠ '=') with
    | _ :: value => some (String.ofList (cs.takeWhile (· ≠ '=')), String.ofList value)
    | [] => none
  | '-' :: letter :: '=' :: value => some (String.ofList ['-', letter], String.ofList value)
  | '-' :: letter :: first :: rest => some (String.ofList ['-', letter], String.ofList (first :: rest))
  | _ => none

/-- The paths behind the command. -/
def paths : List String → Except UsageFault Arguments
  | [] => .ok ⟨[], [], []⟩
  | argument :: rest =>
    match PathOption.ofName? argument with
    | some option =>
      match rest with
      | path :: rest =>
        if isValue path then (paths rest).map (·.add option path)
        else .error (.missingValue argument)
      | [] => .error (.missingValue argument)
    | none =>
      match split? argument with
      | some (name, path) =>
        match PathOption.ofName? name with
        | some option => (paths rest).map (·.add option path)
        | none => .error (.unexpected argument)
      | none => .error (.unexpected argument)

/-- The arguments behind the format of the log. -/
def checkFormat (format : String) (rest : List String) : Except UsageFault (List String) :=
  if format = "plain" || format = "json" then .ok rest else .error (.badLogFormat format)

/-- The arguments behind the options that stand before the command. -/
def dropLogFormat : List String → Except UsageFault (List String)
  | "--log-format" :: format :: rest => checkFormat format rest
  | ["--log-format"] => .error (.missingValue "--log-format")
  | argument :: rest =>
    match split? argument with
    | some ("--log-format", format) => checkFormat format rest
    | _ => .ok (argument :: rest)
  | [] => .ok []

/-- The arguments of a command line. -/
def parse (arguments : List String) : Except UsageFault Arguments := do
  match ← dropLogFormat arguments with
  | "validate" :: rest =>
    let a ← paths rest
    if a.manifests = [] then throw .noManifests
    return a
  | argument :: _ => throw (.unexpected argument)
  | [] => throw .noCommand

end Arguments

end OpenstackAdmission
