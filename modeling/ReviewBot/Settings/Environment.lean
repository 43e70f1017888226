import ReviewBot.Settings.Basic
import ReviewBot.Text.Blank
import ReviewBot.Text.Quoted

set_option autoImplicit false

/-!
# Settings from the environment

Ten variables replace a setting each. They are looked at in a fixed order, and the first one whose
value cannot be read ends the matter: what was set before it stays set (`applyEnvironment`).
-/

namespace ReviewBot

/-- A variable of the environment that replaces a setting. -/
inductive SettingVariable where
  | appId
  | clientId
  | privateKeyPath
  | webhookSecret
  | apiUrl
  | model
  | baseUrl
  | timeoutSeconds
  | modelEnabled
  | bindAddress
  deriving DecidableEq

namespace SettingVariable

/-- All variables in the order in which they are looked at. -/
def all : List SettingVariable :=
  [appId, clientId, privateKeyPath, webhookSecret, apiUrl, model, baseUrl, timeoutSeconds,
   modelEnabled, bindAddress]

/-- The name of the variable. -/
def name : SettingVariable → String
  | appId => "LOOKOUT_GITHUB_APP_ID"
  | clientId => "LOOKOUT_GITHUB_CLIENT_ID"
  | privateKeyPath => "LOOKOUT_GITHUB_PRIVATE_KEY_PATH"
  | webhookSecret => "LOOKOUT_GITHUB_WEBHOOK_SECRET"
  | apiUrl => "LOOKOUT_GITHUB_API_URL"
  | model => "LOOKOUT_LLM_MODEL"
  | baseUrl => "LOOKOUT_LLM_BASE_URL"
  | timeoutSeconds => "LOOKOUT_LLM_TIMEOUT_SECONDS"
  | modelEnabled => "LOOKOUT_LLM_ENABLED"
  | bindAddress => "LOOKOUT_BIND_ADDRESS"

/-- Reads a number, blanks around it allowed. -/
def number? (value : String) : Option Nat :=
  Numeric.unsigned? maxLong (Text.trim value.toList)

/-- Reads a truth value, blanks around it allowed. -/
def switch? (value : String) : Option Bool :=
  if value.trimBlanks = "true" then some true
  else if value.trimBlanks = "false" then some false
  else none

/-- The settings with the value of the variable in place, if it can be read. -/
def set? (s : Settings) (value : String) : SettingVariable → Option Settings
  | appId => (number? value).map fun n => { s with github.app.id := some n }
  | clientId => some { s with github.app.clientId := some value }
  | privateKeyPath => some { s with github.app.privateKeyPath := some value }
  | webhookSecret => some { s with github.app.webhookSecret := some value }
  | apiUrl => some { s with github.apiUrl := value }
  | model => some { s with llm.model := value }
  | baseUrl => some { s with llm.baseUrl := value }
  | timeoutSeconds => (number? value).map fun n => { s with llm.timeoutSeconds := n }
  | modelEnabled => (switch? value).map fun b => { s with llm.enabled := b }
  | bindAddress => some { s with server.bindAddress := value }

/-- The value of the variable cannot be read. -/
def invalid (v : SettingVariable) (value : String) : Error :=
  .config ("invalid value for " ++ v.name ++ ": " ++ value.inQuotes)

end SettingVariable

/-- The values of environment variables. -/
abbrev Environment := String → Option String

namespace Settings

/-- Settings, and the error that has kept some of the environment from being applied to them. -/
structure Override where
  /-- The settings reached. -/
  settings : Settings
  /-- The first error. -/
  error : Option Error

/-- Looks at the given variables in order, up to the first one that cannot be read. -/
def applyVariables (s : Settings) (env : Environment) : List SettingVariable → Override
  | [] => ⟨s, none⟩
  | v :: rest =>
    match env v.name with
    | none => s.applyVariables env rest
    | some value =>
      match v.set? s value with
      | none => ⟨s, some (v.invalid value)⟩
      | some s => s.applyVariables env rest

/-- Replaces settings by the values of environment variables. -/
def applyEnvironment (s : Settings) (env : Environment) : Override :=
  s.applyVariables env SettingVariable.all

/-- The settings with the environment applied, unless some variable cannot be read. -/
def withEnvironment (s : Settings) (env : Environment) : Except Error Settings :=
  let o := s.applyEnvironment env
  match o.error with
  | some e => .error e
  | none => .ok o.settings

end Settings

end ReviewBot
