import GraphOffload.Settings.Sections
import GraphOffload.Text.Segments
import GraphOffload.Text.Utf8

/-!
# Settings from the environment

Variables of the environment override settings. A variable that is no text is passed over, and so is
one that should be a number and is none.

## Main definitions

* `GraphOffload.Environment` : the variables of an environment.
* `GraphOffload.Environment.settingNames` : the variables that override settings.
* `GraphOffload.Settings.override` : the settings under an environment.
-/

namespace GraphOffload

/-- The variables of an environment with their bytes. -/
abbrev Environment := List (String × Bytes)

namespace Environment

/-- The variables that override settings. -/
def settingNames : List String :=
  ["GRAPHLIFT_STORAGE_BACKEND", "GRAPHLIFT_STORAGE_BUCKET", "GRAPHLIFT_STORAGE_REGION",
    "GRAPHLIFT_STORAGE_ENDPOINT", "GRAPHLIFT_STORAGE_LOCAL_PATH", "GRAPHLIFT_STORAGE_ALLOW_HTTP",
    "GRAPHLIFT_STORAGE_MULTIPART", "GRAPHLIFT_BUILD_SERVICE_ENDPOINT",
    "GRAPHLIFT_BUILD_SERVICE_REQUEST_TIMEOUT_MS", "GRAPHLIFT_BUILD_SERVICE_USERNAME",
    "GRAPHLIFT_BUILD_SERVICE_PASSWORD", "GRAPHLIFT_REMOTE_BUILD_ENABLED",
    "GRAPHLIFT_REMOTE_BUILD_CONTAINER", "GRAPHLIFT_REMOTE_BUILD_KEY_PREFIX",
    "GRAPHLIFT_REMOTE_BUILD_SIZE_THRESHOLD_BYTES", "GRAPHLIFT_REMOTE_BUILD_MIN_LIVE_VECTORS",
    "GRAPHLIFT_REMOTE_BUILD_POLL_INTERVAL_MS", "GRAPHLIFT_REMOTE_BUILD_POLL_TIMEOUT_SECS",
    "GRAPHLIFT_REMOTE_BUILD_MAX_POLL_ERRORS", "GRAPHLIFT_REMOTE_BUILD_CLEANUP_STAGED_BLOBS",
    "GRAPHLIFT_REMOTE_BUILD_TENANT_ID", "GRAPHLIFT_TRANSFER_PART_SIZE_BYTES",
    "GRAPHLIFT_TRANSFER_CHUNK_SIZE_BYTES", "GRAPHLIFT_TRANSFER_CONCURRENCY", "GRAPHLIFT_LOG_LEVEL",
    "GRAPHLIFT_LOG_FORMAT"]

/-- The text of a variable, if it is there and is text. -/
def text? (environment : Environment) (name : String) : Option String :=
  (environment.lookup name).bind Utf8.text?

/-- A text setting under the environment. -/
def text (environment : Environment) (name : String) (held : String) : String :=
  (environment.text? name).getD held

/-- An optional setting under the environment; an empty variable takes it away. -/
def optional (environment : Environment) (name : String) (held : Option String) : Option String :=
  match environment.text? name with
  | none => held
  | some value => if value.isEmpty then none else some value

/-- A switch under the environment: on for `true` in any case and for `1`, else off. -/
def switch (environment : Environment) (name : String) (held : Bool) : Bool :=
  match environment.text? name with
  | none => held
  | some value => Text.lower value = "true" || value = "1"

/-- The natural number that a text is: decimal digits, before which a plus sign may stand. -/
def readNat? (text : String) : Option Nat :=
  let digits := match text.toList with
    | '+' :: rest => rest
    | chars => chars
  if digits.isEmpty ∨ digits.any (!·.isDigit) then none
  else some (digits.foldl (fun n c => 10 * n + (c.toNat - 48)) 0)

/-- A number below a bound under the environment. -/
def natBelow (environment : Environment) (name : String) (bound held : Nat) : Nat :=
  match (environment.text? name).bind readNat? with
  | some n => if n < bound then n else held
  | none => held

/-- A 64-bit number under the environment. -/
def word64 (environment : Environment) (name : String) (held : UInt64) : UInt64 :=
  .ofNat (environment.natBelow name UInt64.size held.toNat)

/-- A 32-bit number under the environment. -/
def word32 (environment : Environment) (name : String) (held : UInt32) : UInt32 :=
  .ofNat (environment.natBelow name UInt32.size held.toNat)

end Environment

namespace Settings

/-- The storage section under an environment. -/
def overrideStorage (env : Environment) (held : StorageSettings) : StorageSettings where
  backend := env.text "GRAPHLIFT_STORAGE_BACKEND" held.backend
  bucket := env.text "GRAPHLIFT_STORAGE_BUCKET" held.bucket
  region := env.optional "GRAPHLIFT_STORAGE_REGION" held.region
  endpoint := env.optional "GRAPHLIFT_STORAGE_ENDPOINT" held.endpoint
  localPath := env.optional "GRAPHLIFT_STORAGE_LOCAL_PATH" held.localPath
  allowHttp := env.switch "GRAPHLIFT_STORAGE_ALLOW_HTTP" held.allowHttp
  multipart := env.switch "GRAPHLIFT_STORAGE_MULTIPART" held.multipart

/-- The build service section under an environment. -/
def overrideService (env : Environment) (held : ServiceSettings) : ServiceSettings where
  endpoint := env.text "GRAPHLIFT_BUILD_SERVICE_ENDPOINT" held.endpoint
  requestTimeout := env.word64 "GRAPHLIFT_BUILD_SERVICE_REQUEST_TIMEOUT_MS" held.requestTimeout
  username := env.optional "GRAPHLIFT_BUILD_SERVICE_USERNAME" held.username
  password := env.optional "GRAPHLIFT_BUILD_SERVICE_PASSWORD" held.password

/-- The section on remote builds under an environment. -/
def overrideRemote (env : Environment) (held : RemoteSettings) : RemoteSettings where
  enabled := env.switch "GRAPHLIFT_REMOTE_BUILD_ENABLED" held.enabled
  container := env.text "GRAPHLIFT_REMOTE_BUILD_CONTAINER" held.container
  keyPrefix := env.text "GRAPHLIFT_REMOTE_BUILD_KEY_PREFIX" held.keyPrefix
  sizeThreshold := env.word64 "GRAPHLIFT_REMOTE_BUILD_SIZE_THRESHOLD_BYTES" held.sizeThreshold
  minLiveVectors := env.word64 "GRAPHLIFT_REMOTE_BUILD_MIN_LIVE_VECTORS" held.minLiveVectors
  pollInterval := env.word64 "GRAPHLIFT_REMOTE_BUILD_POLL_INTERVAL_MS" held.pollInterval
  pollTimeout := env.word64 "GRAPHLIFT_REMOTE_BUILD_POLL_TIMEOUT_SECS" held.pollTimeout
  maxPollErrors := env.word32 "GRAPHLIFT_REMOTE_BUILD_MAX_POLL_ERRORS" held.maxPollErrors
  cleanup := env.switch "GRAPHLIFT_REMOTE_BUILD_CLEANUP_STAGED_BLOBS" held.cleanup
  tenant := env.optional "GRAPHLIFT_REMOTE_BUILD_TENANT_ID" held.tenant

/-- The section on transfers under an environment. -/
def overrideTransfer (env : Environment) (held : TransferSettings) : TransferSettings where
  partSize := env.word64 "GRAPHLIFT_TRANSFER_PART_SIZE_BYTES" held.partSize
  chunkSize := env.word64 "GRAPHLIFT_TRANSFER_CHUNK_SIZE_BYTES" held.chunkSize
  concurrency := env.word64 "GRAPHLIFT_TRANSFER_CONCURRENCY" held.concurrency

/-- The section on logs under an environment. -/
def overrideLog (env : Environment) (held : LogSettings) : LogSettings where
  level := env.text "GRAPHLIFT_LOG_LEVEL" held.level
  format := env.text "GRAPHLIFT_LOG_FORMAT" held.format

/-- The settings under an environment. -/
def override (env : Environment) (held : Settings) : Settings where
  storage := overrideStorage env held.storage
  service := overrideService env held.service
  remote := overrideRemote env held.remote
  transfer := overrideTransfer env held.transfer
  log := overrideLog env held.log

end Settings

end GraphOffload
