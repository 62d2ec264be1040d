/-
# The command line

Three commands: `render` prints a template rendered from JSON data, `check` tells whether a
template compiles, and `diff` lists the changes between two JSON documents.  A command is
read from its arguments and carried out on the contents of files.
-/
import ViewKit.Diff
import ViewKit.Json.Reader
import ViewKit.Template.Basic

namespace ViewKit

/-- A command with its arguments. -/
inductive Command where
  | render (template : String) (data variableName settings : Option String)
  | check (template : String) (settings : Option String)
  | diff (new old : String)
deriving DecidableEq

namespace Command

/-! ## Arguments -/

/-- The arguments read so far: those without a name, the named ones, and whether all further
ones are without a name. -/
structure Arguments where
  positional : List String
  options : List (String × String)
  plain : Bool

/-- Splits an argument at its first equals sign. -/
def splitOption (argument : List Char) : String × Option String :=
  let name := String.ofList (argument.takeWhile (· != '='))
  match argument.dropWhile (· != '=') with
  | [] => (name, none)
  | _ :: value => (name, some (String.ofList value))

/-- Whether an argument can be the value of a named one that precedes it. -/
def isValue (argument : String) : Bool :=
  match argument.toList with
  | ['-'] => true
  | '-' :: _ => false
  | _ => true

/-- Adds a named argument, which must be known and must not be there already. -/
def Arguments.addOption? (known : List String) (name value : String) (a : Arguments) :
    Option Arguments :=
  if known.contains name && !Fields.contains name a.options then
    some { a with options := a.options ++ [(name, value)] }
  else none

/-- Reads arguments; `known` are the names of the named ones. -/
def readArguments? (known : List String) : List String → Arguments → Option Arguments
  | [], a => some a
  | argument :: arguments, a =>
    if a.plain then
      readArguments? known arguments { a with positional := a.positional ++ [argument] }
    else
      match argument.toList with
      | ['-', '-'] => readArguments? known arguments { a with plain := true }
      | '-' :: '-' :: named =>
        match splitOption named, arguments with
        | (name, some value), arguments => do
          let a ← a.addOption? known name value
          readArguments? known arguments a
        | (name, none), value :: arguments => do
          if !isValue value then none
          let a ← a.addOption? known name value
          readArguments? known arguments a
        | (_, none), [] => none
      | '-' :: _ :: _ => none
      | _ => readArguments? known arguments { a with positional := a.positional ++ [argument] }

/-- The name of a file, which must not be empty. -/
def fileName? (name : String) : Option String := if name.isEmpty then none else some name

/-- A named argument that is the name of a file, if it is there. -/
def fileOption? (a : Arguments) (name : String) : Option (Option String) :=
  match Fields.get? name a.options with
  | none => some none
  | some file => (fileName? file).map some

/-- Reads a command from its arguments. -/
def read? : List String → Option Command
  | "render" :: arguments => do
    let a ← readArguments? ["data", "variable", "settings"] arguments ⟨[], [], false⟩
    let data ← fileOption? a "data"
    let settings ← fileOption? a "settings"
    match a.positional with
    | [template] =>
      let template ← fileName? template
      return render template data (Fields.get? "variable" a.options) settings
    | _ => none
  | "check" :: arguments => do
    let a ← readArguments? ["settings"] arguments ⟨[], [], false⟩
    let settings ← fileOption? a "settings"
    match a.positional with
    | [template] =>
      let template ← fileName? template
      return check template settings
    | _ => none
  | "diff" :: arguments => do
    let a ← readArguments? [] arguments ⟨[], [], false⟩
    match a.positional with
    | [new, old] =>
      let new ← fileName? new
      let old ← fileName? old
      return diff new old
    | _ => none
  | _ => none

/-- The files that a command may read, in order. -/
def files : Command → List String
  | render template data _ settings => settings.toList ++ data.toList ++ [template]
  | check template settings => settings.toList ++ [template]
  | diff new old => [new, old]

/-! ## Carrying out -/

/-- What a command comes to: its exit code and what it writes. -/
structure Outcome where
  code : Nat
  output : String
  errors : String
deriving DecidableEq

/-- The arguments make no command. -/
def Outcome.usage : Outcome := ⟨2, "", ""⟩

/-- Why a command fails. -/
inductive Failure where
  /-- A file cannot be read as text. -/
  | unreadable (file : String)
  /-- A file holds no settings. -/
  | badSettings (file : String)
  /-- A file holds no JSON document. -/
  | badJson (file : String)
  /-- The template in a file does not compile. -/
  | compile (file : String) (error : CompileError)

/-- The line in which a report gives a diagnostic. -/
def diagnosticLine (file source : String) (d : Diagnostic) : String :=
  let place := match d.position? source.toList with
    | some (line, column) => ":" ++ toString line ++ ":" ++ toString column
    | none => ""
  file ++ place ++ ": " ++ d.finding.message ++ "\n"

/-- What is reported about an error before its message. -/
def report (file : String) : CompileError → String
  | .pattern fault => fault.message
  | .program source diagnostics => String.join (diagnostics.map (diagnosticLine file source))

/-- What a failure writes. -/
def Failure.text : Failure → String
  | unreadable file => "Error: reading " ++ file
  | badSettings file => "Error: parsing settings in " ++ file
  | badJson file => "Error: parsing JSON in " ++ file
  | compile file error => report file error ++ "Error: " ++ file ++ ": " ++ error.message

/-- The outcome of a failure. -/
def Failure.outcome (f : Failure) : Outcome := ⟨1, "", f.text ++ "\n"⟩

/-- How the contents of files are found. -/
abbrev Contents := String → Option String

variable (contents : Contents)

/-- The text of a file. -/
def textOf (file : String) : Except Failure String :=
  match contents file with
  | some text => .ok text
  | none => .error (.unreadable file)

/-- The settings in a file, or the default ones without a file. -/
def settingsOf (file : Option String) : Except Failure Settings :=
  match file with
  | none => .ok {}
  | some file => do
    let text ← textOf contents file
    match (Json.read? text).bind Settings.ofJson? with
    | some settings => .ok settings
    | none => .error (.badSettings file)

/-- The value of the JSON document in a file. -/
def valueOf (file : String) : Except Failure Value := do
  let text ← textOf contents file
  match Json.read? text with
  | some j => .ok j.toValue
  | none => .error (.badJson file)

/-- The compiled template in a file. -/
def templateOf (file : String) (settings : Settings) : Except Failure Template := do
  let text ← textOf contents file
  match Template.compile text settings [] with
  | .ok t => .ok t
  | .error e => .error (.compile file e)

/-- The line for one change. -/
def changeLine : String × Option Value → String
  | (path, change) =>
    let path := if path.isEmpty then "<root>" else path
    match change with
    | some v => "~ " ++ path ++ " = " ++ (Json.ofValue v).render ++ "\n"
    | none => "- " ++ path ++ "\n"

/-- Carries a command out. -/
def execute : Command → Except Failure Outcome
  | render template data variableName settings => do
    let settings ← settingsOf contents settings
    let settings := match variableName with
      | some variableName => { settings with variableName }
      | none => settings
    let data ← match data with
      | some file => valueOf contents file
      | none => .ok .emptyMap
    let t ← templateOf contents template settings
    return ⟨0, t.render data, ""⟩
  | check template settings => do
    let settings ← settingsOf contents settings
    let _ ← templateOf contents template settings
    return ⟨0, "", "Compile OK: " ++ template ++ "\n"⟩
  | diff new old => do
    let newValue ← valueOf contents new
    let oldValue ← valueOf contents old
    match Diff.between? newValue oldValue with
    | none => return ⟨0, "", "No changes\n"⟩
    | some d => return ⟨0, String.join (d.entries.map changeLine), ""⟩

/-- The outcome of some arguments. -/
def run (arguments : List String) : Outcome :=
  match read? arguments with
  | none => .usage
  | some command =>
    match execute contents command with
    | .ok outcome => outcome
    | .error failure => failure.outcome

end Command
end ViewKit
