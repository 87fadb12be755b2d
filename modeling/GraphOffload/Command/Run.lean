import GraphOffload.Build.Execute
import GraphOffload.Command.Arguments
import GraphOffload.Command.Shell
import GraphOffload.Corpus.FlatFile
import GraphOffload.Service.Client
import GraphOffload.Settings.DotEnv
import GraphOffload.Settings.Load

/-!
# Running a command

## Main definitions

* `GraphOffload.Command.serve` : makes the calls of a build by way of the shell.
* `GraphOffload.Command.build` : builds a graph into a file.
* `GraphOffload.Command.status` : prints the status of a job.
* `GraphOffload.Command.run` : does what arguments say.
-/

namespace GraphOffload.Command

/-! ### Exit codes -/

/-- How a command ends. -/
inductive Ending
  | success
  /-- No graph could be built. -/
  | failed
  /-- The arguments make no sense. -/
  | misused
  /-- The command could not even start, or lost its sink. -/
  | broken
  deriving DecidableEq

/-- The exit code. -/
def Ending.code : Ending → UInt8
  | success => 0
  | failed => 1
  | misused => 2
  | broken => 101

/-- A program that may end early. -/
abbrev Running (α : Type) := ExceptT Ending (Dialogue ShellCall.Reply) α

/-- Makes one call. -/
def perform (call : ShellCall) : Running call.Reply := ExceptT.lift call.ask

/-- Tells what went wrong, and ends. -/
def stop {α : Type} (ending : Ending) (text : String) : Running α := do
  perform (.complain text)
  throw ending

/-- A value, or the end of the command. -/
def orBroken {α : Type} (what : String) : Except Failure α → Running α
  | .ok value => pure value
  | .error failure => stop .broken (what ++ ": " ++ failure.message)

/-! ### Settings -/

/-- The variables of the environment that settings may come from, and those of a file. -/
def environment (entries : List DotEnv.Entry) : Running Environment := do
  let names := (Environment.settingNames ++ DotEnv.names entries).eraseDups
  let found ← names.mapM fun name => do
    return (← perform (.lookUp name)).map (name, ·)
  return Environment.extend (found.filterMap id) entries

/-- The settings file of a path. -/
def settingsFile (path : String) : Running SettingsFile := do
  match ← perform (.readFile path) with
  | .ok bytes => return .content bytes
  | .error fault => return if fault.kind = .isDirectory then .directory else .missing path

/-- The settings under the environment. -/
def settings (entries : List DotEnv.Entry) (path : Option String) : Running Settings := do
  let environment ← environment entries
  let file ← path.mapM settingsFile
  orBroken "failed to load config" (Settings.load file environment)

/-! ### Building -/

/-- Makes a call of a build: the service is asked over the network, there is no local builder, and the
shell makes all other calls. -/
def serve (client : ServiceClient) (patience : Nat) : (call : Call) → ShellProgram call.Reply
  | .submit job => do
    match client.submitRequest job with
    | .error failure => return .error failure
    | .ok request =>
      let answer ← (ShellCall.exchange request patience none).ask
      return ServiceClient.readJobId answer.join
  | .status jobId deadline => do
    match client.statusRequest jobId with
    | .error failure => return some (.error failure)
    | .ok request =>
      let answer ← (ShellCall.exchange request patience (some deadline)).ask
      return answer.map ServiceClient.readStatus
  | .buildLocally request => return .error request.noLocalBuilder
  | call => (ShellCall.work call).ask

/-- The request for a graph from a vector file. -/
def request (arguments : BuildArguments) (file : FlatFile) : BuildRequest where
  field := {
    name := arguments.fieldName
    dimension := file.dimension
    similarity := arguments.similarity
    engine := arguments.engine }
  buildUnit := arguments.buildUnit
  shape := file.shape
  totalLiveDocs := file.shape.liveCount

/-- Where a build stages its blobs under settings. -/
def stagingArea (settings : Settings) : StagingArea where
  container := settings.storage.bucket
  multipart := settings.storage.multipart
  options := settings.transfer.toOptions 1

/-- Builds a graph into a file. The file is created, or emptied, before the build. -/
def build (settings : Settings) (client : ServiceClient) (arguments : BuildArguments) :
    Running Unit := do
  let content := (← perform (.openCorpus arguments.input)).mapError Failure.device
  let file ← orBroken "failed to open vector file" (content >>= FlatFile.parse arguments.input)
  let directory ← perform .workingDirectory
  let backend ← orBroken "failed to initialize storage"
    (Backend.ofSettings directory settings.storage)
  let opened ← perform (.openStore backend)
  orBroken "failed to initialize storage" (opened.mapError .device)
  let created ← perform (.createSink arguments.output)
  orBroken "failed to create output file" (created.mapError .device)
  let execution := Build.execute (stagingArea settings) settings.toBuild (request arguments file)
  let outcome ← ExceptT.lift
    (execution.run.interpret (serve client settings.service.requestTimeout.toNat))
  let flushed ← perform (.work .flush)
  orBroken "failed to flush output file" (flushed.mapError .device)
  match outcome with
  | .ok _ => return
  | .error failure => stop .failed ("build failed: " ++ failure.message)

/-! ### Status -/

/-- Prints the status of a job. -/
def status (settings : Settings) (client : ServiceClient) (jobId : String) : Running Unit := do
  let what := "failed to fetch job status"
  let request ← orBroken what (client.statusRequest jobId)
  let answer ← perform (.exchange request settings.service.requestTimeout.toNat none)
  let reply ← orBroken what (ServiceClient.readStatus answer.join)
  perform (.print (Json.prettyInOrder reply.members ++ "\n"))

/-! ### Commands -/

/-- Does what arguments say. -/
def act (entries : List DotEnv.Entry) (line : CommandLine) : Running Unit := do
  let settings ← settings entries line.settingsFile
  let client ← orBroken "failed to initialize build service client"
    (ServiceClient.ofSettings settings.service)
  match line.action with
  | .build arguments => build settings client arguments
  | .status jobId => status settings client jobId

/-- Does what arguments say, if they make sense. -/
def obey (entries : List DotEnv.Entry) : Except CommandLine.Refusal CommandLine → Running Unit
  | .error (.help level) => perform (.print level.helpText)
  | .error (.misuse reason) => stop .misused reason.message
  | .ok line => act entries line

/-- Does what arguments say, in the environment that a file named `.env` adds to, and tells how that
ended. -/
def run (arguments : List String) : ShellProgram Ending := do
  let file ← (ShellCall.nearestFile ".env").ask
  let entries := DotEnv.parse (file.getD [])
  match ← (obey entries (CommandLine.parse arguments)).run with
  | .ok () => return .success
  | .error ending => return ending

end GraphOffload.Command
