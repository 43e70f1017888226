import ReviewBot.Diff.Limits
import ReviewBot.Error
import ReviewBot.Numeric.Unsigned

set_option autoImplicit false

/-!
# Settings

What can be configured, in four sections, with the values that hold when nothing is said
(`UsualSetting`).
-/

namespace ReviewBot

namespace UsualSetting

/-- Usual root of the interface of the code host. -/
def apiUrl : String := "https://api.github.com"

/-- Usual name of the model. -/
def model : String := "qwen2.5-coder:7b"

/-- Usual root of the interface of the model. -/
def baseUrl : String := "http://localhost:11434"

/-- How long an answer is usually waited for. -/
def timeoutSeconds : Nat := 60

/-- Usual state of a switch that is on. -/
def switchedOn : Bool := true

/-- Usual greatest size of a diff in bytes. -/
def maxDiffSizeBytes : Nat := 1048576

/-- Usual greatest number of different files. -/
def maxFilesPerPr : Nat := 50

/-- Usual address that is listened on. -/
def bindAddress : String := "0.0.0.0:8080"

end UsualSetting

/-- Who the program is on the code host. -/
structure AppSettings where
  /-- Number of the app. -/
  id : Option Nat := none
  /-- Identifier of the app as a client. -/
  clientId : Option String := none
  /-- File with the private key of the app. -/
  privateKeyPath : Option String := none
  /-- Secret shared with the code host, which signs its deliveries with it. -/
  webhookSecret : Option String := none
  deriving DecidableEq, Inhabited

/-- The code host. -/
structure HostSettings where
  /-- Root of the interface of the code host. -/
  apiUrl : String := UsualSetting.apiUrl
  /-- Who the program is. -/
  app : AppSettings := {}
  deriving DecidableEq, Inhabited

/-- The language model. -/
structure ModelSettings where
  /-- Name of the model. -/
  model : String := UsualSetting.model
  /-- Root of the interface of the model. -/
  baseUrl : String := UsualSetting.baseUrl
  /-- How long an answer is waited for. -/
  timeoutSeconds : Nat := UsualSetting.timeoutSeconds
  /-- The model may be asked. -/
  enabled : Bool := true
  deriving DecidableEq, Inhabited

/-- What a review does. -/
structure ReviewSettings where
  /-- Greatest size of a diff in bytes. -/
  maxDiffSizeBytes : Nat := UsualSetting.maxDiffSizeBytes
  /-- Greatest number of different files. -/
  maxFilesPerPr : Nat := UsualSetting.maxFilesPerPr
  /-- The rules are run. -/
  heuristicsEnabled : Bool := true
  /-- The model is asked. -/
  llmEnabled : Bool := true
  /-- Earlier reviews are deleted. -/
  enableCommentDeletion : Bool := false
  deriving DecidableEq, Inhabited

/-- The server for deliveries. -/
structure ServerSettings where
  /-- Address that is listened on. -/
  bindAddress : String := UsualSetting.bindAddress
  deriving DecidableEq, Inhabited

/-- All settings. -/
structure Settings where
  /-- The code host. -/
  github : HostSettings := {}
  /-- The language model. -/
  llm : ModelSettings := {}
  /-- What a review does. -/
  app : ReviewSettings := {}
  /-- The server for deliveries. -/
  server : ServerSettings := {}
  deriving DecidableEq, Inhabited

namespace Settings

/-- The model is asked: both switches are on. -/
def asksModel (s : Settings) : Bool := s.app.llmEnabled && s.llm.enabled

/-- What is reviewed at all. -/
def limits (s : Settings) : Limits := ⟨s.app.maxDiffSizeBytes, s.app.maxFilesPerPr⟩

/-- A setting is missing. -/
def notSet (name : String) : Error := .config (name ++ " is not set")

/-- The settings suffice for a server: the secret is not empty, and the app and its key are known.
-/
def checkServer (s : Settings) : Except Error Unit :=
  if s.github.app.webhookSecret.getD "" = "" then .error (notSet "github.app.webhook_secret")
  else if s.github.app.id = none then .error (notSet "github.app.id")
  else if s.github.app.privateKeyPath = none then .error (notSet "github.app.private_key_path")
  else .ok ()

end Settings

end ReviewBot
