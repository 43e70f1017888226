import ReviewBot.Severity

set_option autoImplicit false

/-!
# Commands

What the program can be asked to do on its command line.
-/

namespace ReviewBot

/-- The form in which a report is printed. -/
inductive OutputFormat where
  | text
  | json
  | markdown
  deriving DecidableEq

namespace OutputFormat

/-- All forms. -/
def all : List OutputFormat := [text, json, markdown]

/-- The name of a form. -/
def label : OutputFormat → String
  | text => "text"
  | json => "json"
  | markdown => "markdown"

/-- The form with a given name. -/
def ofLabel? (name : String) : Option OutputFormat := all.find? (·.label == name)

end OutputFormat

/-- How a diff is reviewed on the command line. -/
structure ReviewOptions where
  /-- The file with the diff; without one it is read from the input. -/
  file : Option String := none
  /-- Title that the model is told. -/
  title : Option String := none
  /-- Description that the model is told. -/
  description : Option String := none
  /-- Reference of the pull request. -/
  reference : Option String := none
  /-- The model is not asked. -/
  withoutModel : Bool := false
  /-- The form of the report. -/
  format : OutputFormat := .text
  /-- The program fails if some finding is at least this serious. -/
  failOn : Option Severity := none
  deriving DecidableEq

/-- What the program does. -/
inductive Command where
  /-- Takes deliveries. -/
  | serve
  /-- Reviews a diff. -/
  | review (options : ReviewOptions)
  /-- Says whether the model can be reached. -/
  | checkModel
  /-- Writes a file with settings. -/
  | init
  deriving DecidableEq

/-- A command, and the settings that it is to run with. -/
structure Invocation where
  /-- The command. -/
  command : Command
  /-- The file with the settings. -/
  settingsFile : Option String := none
  /-- More is logged. -/
  verbose : Bool := false
  deriving DecidableEq

end ReviewBot
