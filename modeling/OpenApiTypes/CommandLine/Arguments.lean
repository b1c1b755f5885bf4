/-
Commands as they are typed.

* `CommandLine.Command`: what can be asked for;
* `CommandLine.Switch`: an option of a command, with its long and its short name;
* `CommandLine.settings?`: the options in a list of arguments, each at most once;
* `CommandLine.Command.ofArguments?`: the command that a list of arguments denotes.
-/
import OpenApiTypes.Entries
import OpenApiTypes.Text.Split

namespace OpenApiTypes.CommandLine

open OpenApiTypes.Text

/-! ### Commands -/

/-- How a model is shown. -/
inductive Format where
  | yaml
  | json
deriving DecidableEq, Repr

/-- The word for a format. -/
def Format.name : Format → String
  | yaml => "yaml"
  | json => "json"

/-- The format of a word. -/
def Format.ofName? (s : String) : Option Format := [yaml, json].find? fun f => f.name == s

/-- What can be asked for. -/
inductive Command where
  /-- Generates files. What is not given comes from the configuration. -/
  | generate (input output : Option String)
  /-- Tells whether there is a document. -/
  | validate (input : String)
  /-- Shows a model, as a whole or in short. -/
  | inspect (input : String) (format : Format) (full : Bool)
  /-- Creates a configuration, in place of an earlier one if `force` is set. -/
  | init (force : Bool)
  /-- Tells the version of the program. -/
  | version
deriving DecidableEq, Repr

/-! ### Options -/

/-- An option. -/
structure Switch where
  long : String
  short : Option Char := none
  takesValue : Bool := true
deriving DecidableEq, Repr

/-- The value in what follows the name of an option. -/
def valueAfterName : List Char → Option (Option String)
  | [] => some none
  | '=' :: value => some (some (String.ofList value))
  | _ => none

/-- The option that an argument names, and the value that the argument itself holds. -/
def Switch.ofArgument? (known : List Switch) (argument : String) :
    Option (Switch × Option String) :=
  match argument.toList with
  | '-' :: '-' :: name =>
    known.findSome? fun s => do
      return (s, ← valueAfterName (← stripPrefix? s.long.toList name))
  | '-' :: letter :: rest =>
    known.findSome? fun s =>
      if s.short == some letter then
        match rest with
        | [] => some (s, none)
        | '=' :: value => some (s, some (String.ofList value))
        | value => some (s, some (String.ofList value))
      else none
  | _ => none

/-- Whether an argument cannot be the value of the option before it. -/
def looksLikeOption (argument : String) : Bool := startsWith "-" argument && argument != "-"

/-- The options in a list of arguments, with their values. -/
def readSettings (known : List Switch) : List String → Option (Entries String String)
  | [] => some []
  | "--" :: rest => if rest.isEmpty then some [] else none
  | argument :: rest =>
    match Switch.ofArgument? known argument with
    | none => none
    | some (s, some value) =>
      if s.takesValue then (readSettings known rest).map ((s.long, value) :: ·) else none
    | some (s, none) =>
      if s.takesValue then
        match rest with
        | [] => none
        | value :: rest =>
          if looksLikeOption value then none
          else (readSettings known rest).map ((s.long, value) :: ·)
      else (readSettings known rest).map ((s.long, "") :: ·)

/-- Whether no key occurs twice. -/
def distinct : List String → Bool
  | [] => true
  | key :: rest => !rest.contains key && distinct rest

/-- The options in a list of arguments. None may occur twice. -/
def settings? (known : List Switch) (arguments : List String) :
    Option (Entries String String) := do
  let settings ← readSettings known arguments
  if distinct settings.keys then some settings else none

/-! ### Reading commands -/

/-- Names the document. -/
def inputSwitch : Switch := ⟨"input", some 'i', true⟩

/-- Names the output directory. -/
def outputSwitch : Switch := ⟨"output", some 'o', true⟩

/-- Names the format. -/
def formatSwitch : Switch := ⟨"format", none, true⟩

/-- Asks for the whole model. -/
def fullSwitch : Switch := ⟨"full", none, false⟩

/-- Asks for replacement. -/
def forceSwitch : Switch := ⟨"force", none, false⟩

namespace Command

/-- The command that a list of arguments denotes. -/
def ofArguments? : List String → Option Command
  | "generate" :: rest => do
    let settings ← settings? [inputSwitch, outputSwitch] rest
    let output := settings.get? "output"
    if output == some "" then none else some (.generate (settings.get? "input") output)
  | "validate" :: rest => do
    let settings ← settings? [inputSwitch] rest
    return .validate (← settings.get? "input")
  | "inspect" :: rest => do
    let settings ← settings? [inputSwitch, formatSwitch, fullSwitch] rest
    let format ← Format.ofName? ((settings.get? "format").getD Format.yaml.name)
    return .inspect (← settings.get? "input") format (settings.has "full")
  | "init" :: rest => do
    let settings ← settings? [forceSwitch] rest
    return .init (settings.has "force")
  | "--version" :: _ => some .version
  | "-V" :: _ => some .version
  | _ => none

end Command

end OpenApiTypes.CommandLine
