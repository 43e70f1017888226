import ReviewBot.CommandLine.Command
import ReviewBot.Text.Search

set_option autoImplicit false

/-!
# Arguments

The arguments are read from left to right: options of the program, the name of a command, options of
the command. An option with a value takes the next argument, unless that begins with a dash, or what
follows an equals sign; no option is given twice on one level. Asking for help or for the version
ends the reading.
-/

namespace ReviewBot

/-- What an option is followed by. -/
inductive OptionKind where
  /-- Nothing: the option is a switch. -/
  | switch
  /-- A value of which a condition holds. -/
  | value (valid : String → Bool)
  /-- Nothing: the option asks for help. -/
  | help
  /-- Nothing: the option asks for the version. -/
  | version

/-- An option. -/
structure OptionSpec where
  /-- The name after two dashes. -/
  name : String
  /-- The letter after one dash. -/
  letter : Option Char := none
  /-- What the option is followed by. -/
  kind : OptionKind

/-- Why the arguments do not make an invocation. -/
inductive ArgumentEnd where
  /-- Help is asked for. -/
  | help
  /-- The version is asked for. -/
  | version
  /-- The arguments are not as they should be. -/
  | misuse
  deriving DecidableEq

/-- The options given, each with its name and its value, which is empty for a switch. -/
abbrev GivenOptions := List (String × String)

namespace GivenOptions

/-- The option is given. -/
def has (given : GivenOptions) (name : String) : Bool := (given.lookup name).isSome

/-- Adds an option that is not given yet. -/
def add (given : GivenOptions) (name value : String) : Except ArgumentEnd GivenOptions :=
  if given.has name then .error .misuse else .ok (given ++ [(name, value)])

/-- Adds an option with a value. -/
def addValue (given : GivenOptions) (spec : OptionSpec) (value : String) :
    Except ArgumentEnd GivenOptions :=
  match spec.kind with
  | .value valid => if valid value then given.add spec.name value else .error .misuse
  | _ => .error .misuse

/-- Adds an option without a value. -/
def addSwitch (given : GivenOptions) (spec : OptionSpec) : Except ArgumentEnd GivenOptions :=
  match spec.kind with
  | .switch => given.add spec.name ""
  | .help => .error .help
  | .version => .error .version
  | .value _ => .error .misuse

/-- Adds switches given by letters after one dash. -/
def addLetters (specs : List OptionSpec) (given : GivenOptions) :
    List Char → Except ArgumentEnd GivenOptions
  | [] => .ok given
  | c :: rest =>
    match specs.find? (·.letter == some c) with
    | none => .error .misuse
    | some spec =>
      match given.addSwitch spec with
      | .ok given => addLetters specs given rest
      | .error e => .error e

end GivenOptions

/-- What has been read on one level. -/
structure ArgumentLevel where
  /-- The options given. -/
  given : GivenOptions
  /-- The option that the next argument is the value of. -/
  awaiting : Option OptionSpec := none

namespace ArgumentLevel

/-- Reads an option after two dashes. -/
def readLong (specs : List OptionSpec) (level : ArgumentLevel) (text : List Char) :
    Except ArgumentEnd ArgumentLevel := do
  let (name, value) := match Text.splitChar? '=' text with
    | some (name, value) => (name, some (String.ofList value))
    | none => (text, none)
  match specs.find? (·.name == String.ofList name), value with
  | none, _ => .error .misuse
  | some spec, some value => return ⟨← level.given.addValue spec value, none⟩
  | some spec, none =>
    match spec.kind with
    | .value _ => return ⟨level.given, some spec⟩
    | _ => return ⟨← level.given.addSwitch spec, none⟩

/-- Reads an argument that names no command. -/
def read (specs : List OptionSpec) (level : ArgumentLevel) (argument : String) :
    Except ArgumentEnd ArgumentLevel :=
  match argument.toList, level.awaiting with
  | '-' :: _ :: _, some _ => .error .misuse
  | '-' :: '-' :: name, none => readLong specs level name
  | '-' :: c :: letters, none => do
    return ⟨← level.given.addLetters specs (c :: letters), none⟩
  | _, some spec => do return ⟨← level.given.addValue spec argument, none⟩
  | _, none => .error .misuse

/-- Reads arguments up to the name of a command; that name and what follows it are given back. -/
def readAll (specs : List OptionSpec) (commands : List String) (level : ArgumentLevel) :
    List String → Except ArgumentEnd (GivenOptions × Option (String × List String))
  | [] => if level.awaiting.isSome then .error .misuse else .ok (level.given, none)
  | argument :: rest =>
    if argument = "--" then
      if level.awaiting.isSome || !rest.isEmpty then .error .misuse else .ok (level.given, none)
    else if level.awaiting.isNone && commands.contains argument then
      .ok (level.given, some (argument, rest))
    else
      match level.read specs argument with
      | .ok level => level.readAll specs commands rest
      | .error e => .error e

end ArgumentLevel

namespace Invocation

/-- The options that may stand before and after the name of the command. -/
def everywhere : List OptionSpec :=
  [⟨"config", none, .value (· ≠ "")⟩, ⟨"verbose", some 'v', .switch⟩, ⟨"help", some 'h', .help⟩]

/-- The options before the name of the command. -/
def ownOptions : List OptionSpec := everywhere ++ [⟨"version", some 'V', .version⟩]

/-- The options of a review. -/
def reviewOptions : List OptionSpec :=
  everywhere ++
    [⟨"file", none, .value (· ≠ "")⟩,
     ⟨"title", none, .value fun _ => true⟩,
     ⟨"description", none, .value fun _ => true⟩,
     ⟨"pr", none, .value fun _ => true⟩,
     ⟨"no-llm", none, .switch⟩,
     ⟨"format", none, .value fun v => (OutputFormat.ofLabel? v).isSome⟩,
     ⟨"fail-on", none, .value fun v => (Severity.ofText? v).isSome⟩]

/-- The names of the commands. -/
def commandNames : List String := ["serve", "review", "check-llm", "init"]

/-- What is given for a review. -/
def reviewGiven (given : GivenOptions) : ReviewOptions where
  file := given.lookup "file"
  title := given.lookup "title"
  description := given.lookup "description"
  reference := given.lookup "pr"
  withoutModel := given.has "no-llm"
  format := ((given.lookup "format").bind OutputFormat.ofLabel?).getD .text
  failOn := (given.lookup "fail-on").bind Severity.ofText?

/-- The options of a command, and the command with what is given. -/
def command? : String → Option (List OptionSpec × (GivenOptions → Command))
  | "serve" => some (everywhere, fun _ => .serve)
  | "review" => some (reviewOptions, fun given => .review (reviewGiven given))
  | "check-llm" => some (everywhere, fun _ => .checkModel)
  | "init" => some (everywhere, fun _ => .init)
  | _ => none

/-- What comes of asking for help on something. -/
def help : List String → ArgumentEnd
  | [] => .help
  | [name] => if ("help" :: commandNames).contains name then .help else .misuse
  | ["help", name] => if ("help" :: commandNames).contains name then .help else .misuse
  | _ => .misuse

/-- The invocation with the options given before and after the name of the command; those after it
count if both are given. -/
def ofGiven (command : Command) (before after : GivenOptions) : Invocation where
  command := command
  settingsFile := (after.lookup "config").or (before.lookup "config")
  verbose := before.has "verbose" || after.has "verbose"

/-- Reads the arguments after the name of a command. -/
def readCommand (before : GivenOptions) (name : String) (arguments : List String) :
    Except ArgumentEnd Invocation :=
  match command? name with
  | none => .error (help arguments)
  | some (specs, command) =>
    match ArgumentLevel.readAll specs [] ⟨[], none⟩ arguments with
    | .ok (after, _) => .ok (ofGiven (command after) before after)
    | .error e => .error e

/-- Reads the arguments of the program. -/
def read (arguments : List String) : Except ArgumentEnd Invocation :=
  match ArgumentLevel.readAll ownOptions ("help" :: commandNames) ⟨[], none⟩ arguments with
  | .ok (before, some (name, rest)) => readCommand before name rest
  | .ok (_, none) => .error .misuse
  | .error e => .error e

end Invocation

end ReviewBot
