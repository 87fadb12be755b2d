import GraphOffload.Fault
import GraphOffload.Storage.ObjectPath
import GraphOffload.Storage.StoreError

/-!
# Failures

Everything that can go wrong on the way from a corpus to a graph, each by its cause.

## Main definitions

* `GraphOffload.Failure` : why an operation failed.
* `GraphOffload.Failure.message` : the text for people.
* `GraphOffload.Failure.label` : the word for counters and logs.
* `GraphOffload.Failure.isContractViolation` : failures that only wrong use of a stream can cause.
-/

namespace GraphOffload

/-- What is wrong with the chunks of a download. -/
inductive ChunkFault
  | outOfRange (count : Nat)
  | repeated
  | missing
  | short (received expected : Nat)
  /-- The fetch of the chunk failed with this text. -/
  | failed (text : String)
  deriving DecidableEq

/-- The text of a chunk fault. -/
def ChunkFault.message : ChunkFault → String
  | .outOfRange count => s!"chunk index out of range (expected {count})"
  | .repeated => "chunk received twice"
  | .missing => "chunk never arrived"
  | .short received expected => s!"short chunk: {received} of {expected} bytes"
  | .failed text => text

/-- What is wrong with the settings. -/
inductive SettingsFault
  | fileMissing (path : String)
  /-- The file is no TOML, or a value has the wrong type. -/
  | malformed
  | noPartSize
  | noChunkSize
  | noPollInterval
  | unknownBackend (name : String)
  | passwordWithoutUser
  | noLocalPath
  | otherContainer (configured actual : String)
  | badEndpoint (endpoint reason : String)
  | other (text : String)
  deriving DecidableEq

/-- The text of a settings fault. -/
def SettingsFault.message : SettingsFault → String
  | .fileMissing path => "config file not found: " ++ path
  | .malformed => "malformed settings file"
  | .noPartSize => "transfer.part_size_bytes must be > 0"
  | .noChunkSize => "transfer.chunk_size_bytes must be > 0"
  | .noPollInterval => "remote_build.poll_interval_ms must be > 0"
  | .unknownBackend name => "unknown storage backend: " ++ name
  | .passwordWithoutUser => "build_service.username must be set if password is set"
  | .noLocalPath => "storage.local_path is required for the local backend"
  | .otherContainer configured actual =>
    "staging container " ++ configured ++ " does not match store container " ++ actual
  | .badEndpoint endpoint reason =>
    "invalid build service endpoint " ++ endpoint ++ ": " ++ reason
  | .other text => text

/-- What two parts of a build disagree about. -/
inductive Mismatch
  | docIdCount (docIds vectors : Nat)
  | vectorLength (length dimension : Nat)
  | liveCount (claimed held : Nat)
  | graphContainer (reported staging : String)
  | zeroDimension (file : String)
  | tooManyVectors (file : String) (count : Nat)
  | headerOverflow (file : String) (count dimension : Nat)
  | truncated (file : String) (expected found : Nat)
  /-- The endpoint of the service has no resources under it. -/
  | badServicePath (path reason : String)
  | other (text : String)
  deriving DecidableEq

/-- The text of a mismatch. -/
def Mismatch.message : Mismatch → String
  | .docIdCount docIds vectors => s!"{docIds} doc ids for {vectors} vectors"
  | .vectorLength length dimension => s!"vector has {length} elements, expected {dimension}"
  | .liveCount claimed held => s!"request claims {claimed} live docs but corpus holds {held}"
  | .graphContainer reported staging =>
    "graph written to container " ++ reported ++ " but staging store is " ++ staging
  | .zeroDimension file => file ++ " has dimension 0"
  | .tooManyVectors file count => file ++ s!" holds {count} vectors, more than doc ids can address"
  | .headerOverflow file count dimension =>
    file ++ s!" header overflows: {count} vectors of dimension {dimension}"
  | .truncated file expected found =>
    file ++ s!" is truncated: expected {expected} bytes, found {found}"
  | .badServicePath path reason => "bad build service path " ++ path ++ ": " ++ reason
  | .other text => text

/-- Why an operation failed. -/
inductive Failure
  /-- A stream was to start in the middle of a vector, or vectors have no bytes. -/
  | invalidRange (offset bytesPerVector : Nat)
  | unsupported (operation : String)
  | alreadyExists (key : String)
  | notFound (key : String)
  /-- A transfer was broken off by another failure. -/
  | transfer (key : String) (cause : Failure)
  /-- A transfer was broken off by an error of the store. -/
  | transferStore (key : String) (cause : StoreError)
  /-- A transfer was broken off by a fault of a device. -/
  | transferFault (key : String) (cause : Fault)
  | partialTransfer (key : String) (chunk : Nat) (fault : ChunkFault)
  | store (error : StoreError)
  | path (error : ObjectPath.Error)
  | service (status : Nat) (body : String)
  /-- No answer came over the network. -/
  | network
  /-- A job was not done in time. The milliseconds that went by are taken to fit 64 bits. -/
  | pollTimeout (jobId : String) (elapsed : Nat)
  | jobFailed (jobId reason : String)
  | missingResult (jobId : String)
  /-- A message was no JSON of the expected form. -/
  | malformedMessage
  | device (fault : Fault)
  | settings (fault : SettingsFault)
  | localBuild (text : String)
  | mismatch (fault : Mismatch)
  deriving DecidableEq

namespace Failure

/-- The text for people. -/
def message : Failure → String
  | .invalidRange offset bytesPerVector =>
    s!"invalid range: offset {offset} is not a multiple of {bytesPerVector} bytes per vector"
  | .unsupported operation => "unsupported operation: " ++ operation
  | .alreadyExists key => "object already exists: " ++ key
  | .notFound key => "object not found: " ++ key
  | .transfer key cause => "transfer failed for " ++ key ++ ": " ++ cause.message
  | .transferStore key cause => "transfer failed for " ++ key ++ ": " ++ cause.message
  | .transferFault key cause => "transfer failed for " ++ key ++ ": " ++ cause.text
  | .partialTransfer key chunk fault =>
    "partial transfer of " ++ key ++ s!": chunk {chunk} failed: " ++ fault.message
  | .store error => "storage error: " ++ error.message
  | .path error => "storage path error: " ++ error.message
  | .service status body => s!"build service returned {status}: " ++ body
  | .network => "http error: no answer"
  | .pollTimeout jobId elapsed => "job " ++ jobId ++ s!" did not finish within {elapsed}ms"
  | .jobFailed jobId reason => "job " ++ jobId ++ " failed: " ++ reason
  | .missingResult jobId => "job " ++ jobId ++ " completed without a result"
  | .malformedMessage => "json serialization error: unexpected form"
  | .device fault => "io error: " ++ fault.text
  | .settings fault => "config error: " ++ fault.message
  | .localBuild text => "local build failed: " ++ text
  | .mismatch fault => "internal error: " ++ fault.message

/-- The word for counters and logs. -/
def label : Failure → String
  | .invalidRange .. => "invalid_range"
  | .unsupported .. => "unsupported_operation"
  | .alreadyExists .. => "already_exists"
  | .notFound .. => "not_found"
  | .transfer .. | .transferStore .. | .transferFault .. => "transfer"
  | .partialTransfer .. => "partial_transfer"
  | .store .. | .path .. => "storage"
  | .service .. => "service"
  | .network => "http"
  | .pollTimeout .. => "poll_timeout"
  | .jobFailed .. => "job_failed"
  | .missingResult .. => "missing_result"
  | .malformedMessage => "json"
  | .device .. => "io"
  | .settings .. => "config"
  | .localBuild .. => "local_build"
  | .mismatch .. => "internal"

/-- Failures that only wrong use of a stream can cause. -/
def isContractViolation : Failure → Bool
  | .invalidRange .. | .unsupported .. => true
  | _ => false

/-- Whether the failure wraps an error of another layer. -/
def hasCause : Failure → Bool
  | .transfer .. | .transferStore .. | .transferFault .. => true
  | .store .. | .path .. | .network | .malformedMessage | .device .. => true
  | _ => false

end Failure

end GraphOffload
