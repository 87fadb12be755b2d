import GraphOffload.Build.Eligibility
import GraphOffload.Failure
import GraphOffload.Transfer.Plan

/-!
# Settings

The settings of a system, section by section. Every section and every setting has a default.

## Main definitions

* `GraphOffload.StorageSettings`, `GraphOffload.ServiceSettings`, `GraphOffload.RemoteSettings`,
  `GraphOffload.TransferSettings`, `GraphOffload.LogSettings` : the sections.
* `GraphOffload.Settings` : all of them.
* `GraphOffload.Settings.toBuild` : the settings of one build.
-/

namespace GraphOffload

open Json (Decoder)

/-! ### Storage -/

/-- Where staged vectors and graphs lie. -/
structure StorageSettings where
  backend : String := "s3"
  bucket : String := ""
  region : Option String := none
  /-- The address of a store that is not at the usual one. -/
  endpoint : Option String := none
  /-- The directory of a store on disk. -/
  localPath : Option String := none
  allowHttp : Bool := false
  /-- Whether objects are uploaded in parts. -/
  multipart : Bool := true
  deriving DecidableEq

/-- A text that may be left out. -/
def Json.ofOption (text : Option String) : Json := (text.map Json.string).getD .null

namespace StorageSettings

/-- The names of the settings. -/
def names : List (List String) :=
  [["backend"], ["bucket"], ["region"], ["endpoint"], ["local_path"], ["allow_http"], ["multipart"]]

/-- The section as stored. -/
def toJson (settings : StorageSettings) : Json :=
  .ofMembers
    [("backend", settings.backend), ("bucket", settings.bucket), ("region", .ofOption settings.region),
      ("endpoint", .ofOption settings.endpoint), ("local_path", .ofOption settings.localPath),
      ("allow_http", settings.allowHttp), ("multipart", settings.multipart)]

/-- Reads a stored section. -/
def decode : Decoder StorageSettings := fun depth document => do
  let (depth, fields) ← Decoder.fields names depth document
  match fields with
  | [backend, bucket, region, endpoint, localPath, allowHttp, multipart] =>
    let default : StorageSettings := {}
    return {
      backend := ← Decoder.defaulted Decoder.text default.backend depth backend
      bucket := ← Decoder.defaulted Decoder.text default.bucket depth bucket
      region := ← Decoder.optional Decoder.text depth region
      endpoint := ← Decoder.optional Decoder.text depth endpoint
      localPath := ← Decoder.optional Decoder.text depth localPath
      allowHttp := ← Decoder.defaulted Decoder.bool default.allowHttp depth allowHttp
      multipart := ← Decoder.defaulted Decoder.bool default.multipart depth multipart }
  | _ => none

end StorageSettings

/-! ### Build service -/

/-- Where the build service is, and who asks. -/
structure ServiceSettings where
  endpoint : String := "http://localhost:1025"
  /-- How many milliseconds a request may take. -/
  requestTimeout : UInt64 := 30000
  username : Option String := none
  password : Option String := none
  deriving DecidableEq

namespace ServiceSettings

/-- The names of the settings. -/
def names : List (List String) :=
  [["endpoint"], ["request_timeout_ms"], ["username"], ["password"]]

/-- The section as stored. -/
def toJson (settings : ServiceSettings) : Json :=
  .ofMembers
    [("endpoint", settings.endpoint), ("request_timeout_ms", .ofNat settings.requestTimeout.toNat),
      ("username", .ofOption settings.username), ("password", .ofOption settings.password)]

/-- Reads a stored section. -/
def decode : Decoder ServiceSettings := fun depth document => do
  let (depth, fields) ← Decoder.fields names depth document
  match fields with
  | [endpoint, requestTimeout, username, password] =>
    let default : ServiceSettings := {}
    return {
      endpoint := ← Decoder.defaulted Decoder.text default.endpoint depth endpoint
      requestTimeout := ← Decoder.defaulted Decoder.word64 default.requestTimeout depth requestTimeout
      username := ← Decoder.optional Decoder.text depth username
      password := ← Decoder.optional Decoder.text depth password }
  | _ => none

end ServiceSettings

/-! ### Remote builds -/

/-- What is built remotely, and how. -/
structure RemoteSettings where
  enabled : Bool := false
  /-- The staging container; the bucket of the storage if it is empty. -/
  container : String := ""
  keyPrefix : String := ""
  sizeThreshold : UInt64 := 52428800
  minLiveVectors : UInt64 := 0
  /-- How many milliseconds lie between two status calls. -/
  pollInterval : UInt64 := 5000
  /-- How many seconds a job may take. -/
  pollTimeout : UInt64 := 3600
  maxPollErrors : UInt32 := 3
  cleanup : Bool := true
  tenant : Option String := none
  deriving DecidableEq

namespace RemoteSettings

/-- The names of the settings. -/
def names : List (List String) :=
  [["enabled"], ["container"], ["key_prefix"], ["size_threshold_bytes"], ["min_live_vectors"],
    ["poll_interval_ms"], ["poll_timeout_secs"], ["max_poll_errors"], ["cleanup_staged_blobs"],
    ["tenant_id"]]

/-- The section as stored. -/
def toJson (settings : RemoteSettings) : Json :=
  .ofMembers
    [("enabled", settings.enabled), ("container", settings.container),
      ("key_prefix", settings.keyPrefix),
      ("size_threshold_bytes", .ofNat settings.sizeThreshold.toNat),
      ("min_live_vectors", .ofNat settings.minLiveVectors.toNat),
      ("poll_interval_ms", .ofNat settings.pollInterval.toNat),
      ("poll_timeout_secs", .ofNat settings.pollTimeout.toNat),
      ("max_poll_errors", .ofNat settings.maxPollErrors.toNat),
      ("cleanup_staged_blobs", settings.cleanup), ("tenant_id", .ofOption settings.tenant)]

/-- Reads a stored section. -/
def decode : Decoder RemoteSettings := fun depth document => do
  let (depth, fields) ← Decoder.fields names depth document
  match fields with
  | [enabled, container, keyPrefix, sizeThreshold, minLiveVectors, pollInterval, pollTimeout,
      maxPollErrors, cleanup, tenant] =>
    let default : RemoteSettings := {}
    return {
      enabled := ← Decoder.defaulted Decoder.bool default.enabled depth enabled
      container := ← Decoder.defaulted Decoder.text default.container depth container
      keyPrefix := ← Decoder.defaulted Decoder.text default.keyPrefix depth keyPrefix
      sizeThreshold := ← Decoder.defaulted Decoder.word64 default.sizeThreshold depth sizeThreshold
      minLiveVectors := ← Decoder.defaulted Decoder.word64 default.minLiveVectors depth minLiveVectors
      pollInterval := ← Decoder.defaulted Decoder.word64 default.pollInterval depth pollInterval
      pollTimeout := ← Decoder.defaulted Decoder.word64 default.pollTimeout depth pollTimeout
      maxPollErrors := ← Decoder.defaulted Decoder.word32 default.maxPollErrors depth maxPollErrors
      cleanup := ← Decoder.defaulted Decoder.bool default.cleanup depth cleanup
      tenant := ← Decoder.optional Decoder.text depth tenant }
  | _ => none

/-- The settings of one build. -/
def toBuild (settings : RemoteSettings) : BuildSettings where
  enabled := settings.enabled
  container := settings.container
  keyPrefix := settings.keyPrefix
  sizeThreshold := settings.sizeThreshold
  minLiveVectors := settings.minLiveVectors
  pollInterval := settings.pollInterval.toNat
  pollTimeout := settings.pollTimeout.toNat * 1000
  maxPollErrors := settings.maxPollErrors
  cleanup := settings.cleanup
  tenant := settings.tenant

end RemoteSettings

/-! ### Transfers -/

/-- How objects are moved. -/
structure TransferSettings where
  partSize : UInt64 := 16777216
  chunkSize : UInt64 := 10485760
  /-- How many pieces may be under way at once; zero leaves it to the number of processors. -/
  concurrency : UInt64 := 0
  deriving DecidableEq

namespace TransferSettings

/-- The names of the settings. -/
def names : List (List String) := [["part_size_bytes"], ["chunk_size_bytes"], ["concurrency"]]

/-- The section as stored. -/
def toJson (settings : TransferSettings) : Json :=
  .ofMembers
    [("part_size_bytes", .ofNat settings.partSize.toNat),
      ("chunk_size_bytes", .ofNat settings.chunkSize.toNat),
      ("concurrency", .ofNat settings.concurrency.toNat)]

/-- Reads a stored section. -/
def decode : Decoder TransferSettings := fun depth document => do
  let (depth, fields) ← Decoder.fields names depth document
  match fields with
  | [partSize, chunkSize, concurrency] =>
    let default : TransferSettings := {}
    return {
      partSize := ← Decoder.defaulted Decoder.word64 default.partSize depth partSize
      chunkSize := ← Decoder.defaulted Decoder.word64 default.chunkSize depth chunkSize
      concurrency := ← Decoder.defaulted Decoder.word64 default.concurrency depth concurrency }
  | _ => none

/-- How many pieces are under way at once on a host with the given number of processors: one and a
half a processor. -/
def defaultConcurrency (processors : Nat) : Nat := max ((processors * 3 + 1) / 2) 1

/-- The options for transfers on a host with the given number of processors. -/
def toOptions (settings : TransferSettings) (processors : Nat) : TransferOptions where
  partSize := max settings.partSize 1
  chunkSize := max settings.chunkSize 1
  concurrency :=
    if settings.concurrency = 0 then .ofNat (defaultConcurrency processors) else settings.concurrency

end TransferSettings

/-! ### Logs -/

/-- What is logged, and how. -/
structure LogSettings where
  level : String := "info"
  format : String := "pretty"
  deriving DecidableEq

namespace LogSettings

/-- The names of the settings. -/
def names : List (List String) := [["level"], ["format"]]

/-- The section as stored. -/
def toJson (settings : LogSettings) : Json :=
  .ofMembers [("level", settings.level), ("format", settings.format)]

/-- Reads a stored section. -/
def decode : Decoder LogSettings := fun depth document => do
  let (depth, fields) ← Decoder.fields names depth document
  match fields with
  | [level, format] =>
    let default : LogSettings := {}
    return {
      level := ← Decoder.defaulted Decoder.text default.level depth level
      format := ← Decoder.defaulted Decoder.text default.format depth format }
  | _ => none

end LogSettings

/-! ### All sections -/

/-- The settings of a system. -/
structure Settings where
  storage : StorageSettings := {}
  service : ServiceSettings := {}
  remote : RemoteSettings := {}
  transfer : TransferSettings := {}
  log : LogSettings := {}
  deriving DecidableEq

namespace Settings

/-- The settings as stored. -/
def toJson (settings : Settings) : Json :=
  .ofMembers
    [("storage", settings.storage.toJson), ("build_service", settings.service.toJson),
      ("remote_build", settings.remote.toJson), ("transfer", settings.transfer.toJson),
      ("logging", settings.log.toJson)]

/-- The settings of one build. Its staging container is the bucket of the storage unless another one
is named. -/
def toBuild (settings : Settings) : BuildSettings :=
  let build := settings.remote.toBuild
  if build.container.isEmpty then { build with container := settings.storage.bucket } else build

/-- What is wrong with the settings, if anything is: sizes and pauses of zero, an unknown kind of
store, or a password without a user. -/
def fault? (settings : Settings) : Option SettingsFault :=
  if settings.transfer.partSize = 0 then some .noPartSize
  else if settings.transfer.chunkSize = 0 then some .noChunkSize
  else if settings.remote.pollInterval = 0 then some .noPollInterval
  else if settings.storage.backend ∉ ["s3", "gcs", "azure", "local", "memory"] then
    some (.unknownBackend settings.storage.backend)
  else if settings.service.password.isSome ∧ settings.service.username.isNone then
    some .passwordWithoutUser
  else none

end Settings

end GraphOffload
