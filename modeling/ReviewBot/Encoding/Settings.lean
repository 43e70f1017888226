import ReviewBot.Document.Fields
import ReviewBot.Json.Basic
import ReviewBot.Settings.Basic

set_option autoImplicit false

/-!
# Settings as documents

Every setting may be left out of a document, and so may every section. What is missing takes its
usual value: a section that of the section as a whole, and a setting one of its own, which stands
with its reader.
-/

namespace ReviewBot

/-- Reads the identity of the app. -/
def AppSettings.ofDocument? (surplus : Surplus) (d : Document) : Option AppSettings := do
  match ← d.slots? surplus ["id", "client_id", "private_key_path", "webhook_secret"] with
  | [id, clientId, privateKeyPath, webhookSecret] =>
    some
      { id := ← id.optional? (Document.nat? maxLong)
        clientId := ← clientId.optional? Document.string?
        privateKeyPath := ← privateKeyPath.optional? Document.string?
        webhookSecret := ← webhookSecret.optional? Document.string? }
  | _ => none

/-- The identity of the app as JSON. -/
def AppSettings.toJson (s : AppSettings) : Json :=
  .object
    [("id", .ofOption .nat s.id),
     ("client_id", .ofOption .text s.clientId),
     ("private_key_path", .ofOption .text s.privateKeyPath),
     ("webhook_secret", .ofOption .text s.webhookSecret)]

/-- Reads the section on the code host. -/
def HostSettings.ofDocument? (surplus : Surplus) (d : Document) : Option HostSettings := do
  match ← d.slots? surplus ["api_url", "app"] with
  | [apiUrl, app] =>
    some
      { apiUrl := ← apiUrl.orElse? UsualSetting.apiUrl Document.string?
        app := ← app.orElse? {} (AppSettings.ofDocument? surplus) }
  | _ => none

/-- The section on the code host as JSON. -/
def HostSettings.toJson (s : HostSettings) : Json :=
  .object [("api_url", .text s.apiUrl), ("app", s.app.toJson)]

/-- Reads the section on the model. -/
def ModelSettings.ofDocument? (surplus : Surplus) (d : Document) : Option ModelSettings := do
  match ← d.slots? surplus ["model", "base_url", "timeout_seconds", "enabled"] with
  | [model, baseUrl, timeoutSeconds, enabled] =>
    some
      { model := ← model.orElse? UsualSetting.model Document.string?
        baseUrl := ← baseUrl.orElse? UsualSetting.baseUrl Document.string?
        timeoutSeconds := ←
          timeoutSeconds.orElse? UsualSetting.timeoutSeconds (Document.nat? maxLong)
        enabled := ← enabled.orElse? UsualSetting.switchedOn Document.bool? }
  | _ => none

/-- The section on the model as JSON. -/
def ModelSettings.toJson (s : ModelSettings) : Json :=
  .object
    [("model", .text s.model),
     ("base_url", .text s.baseUrl),
     ("timeout_seconds", .nat s.timeoutSeconds),
     ("enabled", .bool s.enabled)]

/-- Reads the section on reviews. -/
def ReviewSettings.ofDocument? (surplus : Surplus) (d : Document) : Option ReviewSettings := do
  match ← d.slots? surplus
      ["max_diff_size_bytes", "max_files_per_pr", "heuristics_enabled", "llm_enabled",
       "enable_comment_deletion"] with
  | [maxDiffSize, maxFiles, heuristics, llm, deletion] =>
    some
      { maxDiffSizeBytes := ←
          maxDiffSize.orElse? UsualSetting.maxDiffSizeBytes (Document.nat? maxLong)
        maxFilesPerPr := ← maxFiles.orElse? UsualSetting.maxFilesPerPr (Document.nat? maxLong)
        heuristicsEnabled := ← heuristics.orElse? UsualSetting.switchedOn Document.bool?
        llmEnabled := ← llm.orElse? UsualSetting.switchedOn Document.bool?
        enableCommentDeletion := ← deletion.orElse? false Document.bool? }
  | _ => none

/-- The section on reviews as JSON. -/
def ReviewSettings.toJson (s : ReviewSettings) : Json :=
  .object
    [("max_diff_size_bytes", .nat s.maxDiffSizeBytes),
     ("max_files_per_pr", .nat s.maxFilesPerPr),
     ("heuristics_enabled", .bool s.heuristicsEnabled),
     ("llm_enabled", .bool s.llmEnabled),
     ("enable_comment_deletion", .bool s.enableCommentDeletion)]

/-- Reads the section on the server. -/
def ServerSettings.ofDocument? (surplus : Surplus) (d : Document) : Option ServerSettings := do
  match ← d.slots? surplus ["bind_address"] with
  | [bindAddress] =>
    some { bindAddress := ← bindAddress.orElse? UsualSetting.bindAddress Document.string? }
  | _ => none

/-- The section on the server as JSON. -/
def ServerSettings.toJson (s : ServerSettings) : Json :=
  .object [("bind_address", .text s.bindAddress)]

namespace Settings

/-- Reads all settings. -/
def ofDocument? (surplus : Surplus) (d : Document) : Option Settings := do
  match ← d.slots? surplus ["github", "llm", "app", "server"] with
  | [github, llm, app, server] =>
    some
      { github := ← github.orElse? {} (HostSettings.ofDocument? surplus)
        llm := ← llm.orElse? {} (ModelSettings.ofDocument? surplus)
        app := ← app.orElse? {} (ReviewSettings.ofDocument? surplus)
        server := ← server.orElse? {} (ServerSettings.ofDocument? surplus) }
  | _ => none

/-- All settings as JSON. -/
def toJson (s : Settings) : Json :=
  .object
    [("github", s.github.toJson),
     ("llm", s.llm.toJson),
     ("app", s.app.toJson),
     ("server", s.server.toJson)]

end Settings

end ReviewBot
