import ReviewBot.CommandLine.Arguments
import ReviewBot.CommandLine.Machine
import ReviewBot.Encoding.Report
import ReviewBot.Host.Client
import ReviewBot.Json.Printer
import ReviewBot.Model.Client
import ReviewBot.Report.Markdown
import ReviewBot.Report.Summary
import ReviewBot.Settings.File
import ReviewBot.Settings.Pipeline
import ReviewBot.Settings.Template

set_option autoImplicit false

/-!
# Running commands

The arguments are read before the settings, and the settings before the command does anything else.
A command that fails prints nothing.
-/

namespace ReviewBot

namespace OutputFormat

/-- A report in the given form. -/
def print (report : Report) : OutputFormat → String
  | text => report.summary
  | json => report.toJson.pretty ++ "\n"
  | markdown => report.markdown

end OutputFormat

namespace ReviewOptions

/-- The pull request that the options describe. -/
def pullRequest (o : ReviewOptions) : Except Error PullRequest := do
  let pr : PullRequest := { title := o.title.getD "", description := o.description }
  match o.reference with
  | none => return pr
  | some text =>
    let r ← Reference.read text
    return { pr with owner := r.owner, repo := r.repo, number := r.number }

/-- How a review ends: some finding may be serious enough to fail. -/
def exit (o : ReviewOptions) (report : Report) : Exit where
  code := if o.failOn.any report.reaches then 1 else 0
  output := o.format.print report

end ReviewOptions

namespace Machine

variable {m : Type → Type} [Monad m]

/-- The model that the settings name. -/
def modelClient (machine : Machine m) (s : Settings) : ModelClient m := ⟨machine.network, s.llm⟩

/-- The pipeline that the settings ask for. -/
def pipeline (machine : Machine m) (s : Settings) : Pipeline m :=
  s.pipeline .builtIn (some (machine.modelClient s).model)

/-- Reads the diff that the options name. -/
def readDiff (machine : Machine m) (o : ReviewOptions) : m (Except Error String) := do
  match o.file with
  | some path => do
    let state ← machine.files.look path
    pure (state.text path)
  | none => do
    let bytes ← machine.input
    pure (PathState.textOf bytes)

/-- The complaint about a diff that is too large. -/
def tooLarge (s : Settings) (diff : String) : String :=
  "diff is " ++ toString diff.utf8ByteSize ++ " bytes, larger than app.max_diff_size_bytes (" ++
    toString s.app.maxDiffSizeBytes ++ ")"

/-- Reviews a diff and prints the report. -/
def reviewDiff (machine : Machine m) (s : Settings) (o : ReviewOptions) (pr : PullRequest)
    (diff : String) : m Exit := do
  let pipeline := machine.pipeline s
  let pipeline := if o.withoutModel then { pipeline with model := none } else pipeline
  match ← pipeline.analyze pr diff with
  | none => pure (.failure (tooLarge s diff))
  | some report => do
    let ids ← machine.identifiers
    pure (o.exit (report.identify ids))

/-- Runs a review. -/
def review (machine : Machine m) (s : Settings) (o : ReviewOptions) : m Exit := do
  match ← machine.readDiff o with
  | .error e => pure (.failure e.message)
  | .ok diff =>
    match o.pullRequest with
    | .error e => pure (.failure e.message)
    | .ok pr => machine.reviewDiff s o pr diff

/-- Says whether the model can be reached. -/
def checkModel (machine : Machine m) (s : Settings) : m Exit := do
  let endpoint := "LLM endpoint " ++ s.llm.baseUrl
  if ← (machine.modelClient s).isAvailable then
    pure (.success (endpoint ++ " is reachable (model: " ++ s.llm.model ++ ")\n"))
  else pure (.failure (endpoint ++ " is not reachable"))

/-- Writes a file with settings, unless there is one. -/
def init (machine : Machine m) : m Exit := do
  let state ← machine.files.look Settings.usualFile
  if state.present then pure (.failure (Settings.usualFile ++ " already exists"))
  else
    match ← machine.files.write Settings.usualFile (Text.utf8 Settings.template) with
    | .ok () =>
      pure (.success ("Created " ++ Settings.usualFile ++ " with default configuration\n"))
    | .error e => pure (.failure e.message)

/-- The server for deliveries that the settings ask for, with an issuer of tokens. -/
def server (machine : Machine m) (s : Settings) (issuer : TokenIssuer) : WebhookServer m :=
  let client :=
    HostClient.ofUrl machine.network machine.library s.github.apiUrl issuer machine.now
  .reviewing ⟨s.github.app.webhookSecret⟩
    ⟨client.host, machine.pipeline s, s.app.enableCommentDeletion⟩

/-- Loads the key of the app that the settings name. -/
def loadIssuer (machine : Machine m) (s : Settings) : m (Except Error TokenIssuer) := do
  let path := s.github.app.privateKeyPath.getD ""
  let state ← machine.files.look path
  pure (TokenIssuer.ofPath (s.github.app.id.getD 0) path state)

/-- Takes deliveries. -/
def serve (machine : Machine m) (s : Settings) : m Exit := do
  match s.checkServer with
  | .error e => pure (.failure e.message)
  | .ok () =>
    match ← machine.loadIssuer s with
    | .error e => pure (.failure e.message)
    | .ok issuer =>
      match ← machine.listen s.server.bindAddress (machine.server s issuer) with
      | .error e => pure (.failure e.message)
      | .ok () => pure (.success "")

/-- Runs a command with its settings. -/
def runCommand (machine : Machine m) (s : Settings) : Command → m Exit
  | .serve => machine.serve s
  | .review options => machine.review s options
  | .checkModel => machine.checkModel s
  | .init => machine.init

/-- Runs an invocation. -/
def runInvocation (machine : Machine m) (i : Invocation) : m Exit := do
  match ← Settings.load machine.files i.settingsFile machine.environment with
  | .error e => pure (.failure e.message)
  | .ok s => machine.runCommand s i.command

/-- What is printed when the version is asked for. -/
def version : String := "lookout 0.1.0\n"

/-- What is printed when help is asked for. -/
def usage : String :=
  "Pull-request review bot: pattern rules plus an LLM reviewer\n\n" ++
    "Usage: lookout [--config <CONFIG>] [--verbose] <COMMAND>\n\n" ++
    "Commands:\n" ++
    "  serve      Run the webhook server\n" ++
    "  review     Review a unified diff locally\n" ++
    "  check-llm  Check that the LLM endpoint is reachable\n" ++
    "  init       Write a default lookout.toml in the current directory\n"

/-- Runs the program with the given arguments. -/
def run (machine : Machine m) (arguments : List String) : m Exit :=
  match Invocation.read arguments with
  | .ok invocation => machine.runInvocation invocation
  | .error .help => pure (.success usage)
  | .error .version => pure (.success version)
  | .error .misuse => pure (.misuse usage)

end Machine

end ReviewBot
