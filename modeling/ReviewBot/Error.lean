set_option autoImplicit false

/-!
# Errors

The ways in which the program can fail. Each has a text for readers (`Error.message`), a code for
tools (`Error.code`), and some have advice (`Error.help?`).
-/

namespace ReviewBot

/-- A failure, with what is known of its cause. -/
inductive Error where
  /-- A file could not be read or an address not be bound. -/
  | io (reason : String)
  /-- A setting is missing or invalid. -/
  | config (reason : String)
  /-- Data from outside is malformed. -/
  | parse (reason : String)
  /-- The model could not be asked, or its answer not be understood. -/
  | llm (reason : String)
  /-- The code host could not be reached, or refused. -/
  | host (reason : String)
  /-- A key could not be loaded or a token not be signed. -/
  | auth (reason : String)
  /-- A rule failed on a chunk. -/
  | rule (name reason : String)
  /-- A JSON text does not have the expected form. -/
  | serialization (reason : String)
  /-- A TOML text does not have the expected form. -/
  | toml (reason : String)
  /-- A file is missing. -/
  | fileNotFound (path : String)
  deriving DecidableEq, Inhabited

namespace Error

/-- The text for readers. -/
def message : Error → String
  | io reason => "IO error: " ++ reason
  | config reason => "configuration error: " ++ reason
  | parse reason => "parse error: " ++ reason
  | llm reason => "LLM error: " ++ reason
  | host reason => "GitHub error: " ++ reason
  | auth reason => "authentication error: " ++ reason
  | rule name reason => "rule " ++ name ++ " failed: " ++ reason
  | serialization reason => "serialization error: " ++ reason
  | toml reason => "TOML parse error: " ++ reason
  | fileNotFound path => "file not found: " ++ path

/-- The code for tools. -/
def code : Error → String
  | io _ => "lookout::io"
  | config _ => "lookout::config"
  | parse _ => "lookout::parse"
  | llm _ => "lookout::llm"
  | host _ => "lookout::github"
  | auth _ => "lookout::auth"
  | rule _ _ => "lookout::rule"
  | serialization _ => "lookout::serde"
  | toml _ => "lookout::toml"
  | fileNotFound _ => "lookout::file_not_found"

/-- Advice on how to mend the cause. -/
def help? : Error → Option String
  | config _ => some "check lookout.toml and the LOOKOUT_* environment variables"
  | _ => none

end Error

end ReviewBot
