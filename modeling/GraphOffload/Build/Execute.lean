import GraphOffload.Build.Poll
import GraphOffload.Transfer.Download
import GraphOffload.Transfer.Upload

/-!
# Building a graph

A build stages the corpus, submits a job for it, waits for the job and downloads the graph into the
sink. Whatever fails on the way, the local builder takes over, with the same request and sink; only a
failure of the local builder is a failure of the build.

## Main definitions

* `GraphOffload.Build.stageCorpus` : puts vectors and doc ids into the staging container.
* `GraphOffload.Build.fetchGraph` : downloads a finished graph.
* `GraphOffload.Build.attempt` : the remote build, and where it stopped.
* `GraphOffload.Build.execute` : the build, remote if possible and local if not.
-/

namespace GraphOffload

/-- What is known of a remote build that succeeded. -/
structure BuildReport where
  jobId : String
  graphKey : String
  bytesWritten : Nat
  staged : StagedBlobs
  times : StageTimes

/-- How a graph was built. -/
inductive BuildOutcome
  | remote (report : BuildReport)
  /-- The local builder did it, after the remote build failed in a stage or without one. -/
  | localBuild (fallbackFrom : Option Stage)

/-- Whether a graph was built remotely. -/
def BuildOutcome.isRemote : BuildOutcome → Bool
  | .remote _ => true
  | .localBuild _ => false

namespace Build

/-! ### Staging -/

/-- The keys whose upload succeeded, and what came of the staging. -/
structure Staging where
  uploaded : List String
  result : Except Failure StagedBlobs

/-- What is wrong with a request before anything is staged. -/
def requestFault? (area : StagingArea) (settings : BuildSettings) (request : BuildRequest) :
    Option Failure :=
  if settings.container ≠ area.container then
    some (.settings (.otherContainer settings.container area.container))
  else if request.totalLiveDocs ≠ request.shape.liveCount then
    some (.mismatch (.liveCount request.totalLiveDocs.toNat request.shape.liveCount.toNat))
  else none

/-- Uploads the vectors in parts of whole vectors, and then the ids of their documents. -/
def stageCorpus (area : StagingArea) (settings : BuildSettings) (request : BuildRequest) :
    Program Staging := do
  if let some failure := requestFault? area settings request then
    return ⟨[], .error failure⟩
  let stagedAt ← Call.wallClock.ask
  let started ← Call.now.ask
  let name ← Call.freshName.ask
  let keys := StagedKeys.ofName settings.keyPrefix name request.field.name request.buildUnit
  let aligned := area.alignedTo request.shape.bytesPerVector
  match ← (Upload.vectors aligned keys.vectorKey request.shape.totalBytes).run with
  | .error failure => return ⟨[], .error failure⟩
  | .ok vectorBytes =>
    match ← Call.readDocIds.ask with
    | .error fault => return ⟨[keys.vectorKey], .error (.device fault)⟩
    | .ok docIds =>
      match ← (Upload.blob keys.docIdKey docIds).run with
      | .error failure => return ⟨[keys.vectorKey], .error failure⟩
      | .ok docIdBytes =>
        let finished ← Call.now.ask
        return ⟨[keys.vectorKey, keys.docIdKey], .ok {
          container := area.container
          vectorKey := keys.vectorKey
          docIdKey := keys.docIdKey
          vectorBytes := .ofNat vectorBytes
          docIdBytes := .ofNat docIdBytes
          duration := .ofMilliseconds (finished - started)
          stagedAt := stagedAt }⟩

/-! ### The finished graph -/

/-- Downloads a finished graph into the sink, if it lies in the container for staging. -/
def fetchGraph (area : StagingArea) (location : GraphLocation) : Attempting Nat :=
  if location.bucketName ≠ "" ∧ location.bucketName ≠ area.container then
    throw (.mismatch (.graphContainer location.bucketName area.container))
  else Download.object area.options location.graphKey

/-! ### The remote build -/

/-- The keys whose upload succeeded, and what came of the remote build; a failure with the stage it
happened in. -/
structure Attempt where
  uploaded : List String
  result : Except (Stage × Failure) BuildReport

/-- Runs one stage: gives its value and its time in milliseconds and counts it, or tells where it
failed. -/
def inStage {α : Type} (stage : Stage) (program : Program (Except Failure α)) :
    Program (Except (Stage × Failure) (α × Nat)) := do
  let started ← Call.now.ask
  match ← program with
  | .error failure => return .error (stage, failure)
  | .ok value =>
    let finished ← Call.now.ask
    (Call.count (.stageTime stage (finished - started))).ask
    return .ok (value, finished - started)

/-- What follows the staging: submits a job, waits for it and downloads its graph. -/
def finish (area : StagingArea) (settings : BuildSettings) (request : BuildRequest)
    (staged : StagedBlobs) (stagingTime : Nat) : ExceptT (Stage × Failure) (Dialogue Call.Reply)
    BuildReport := do
  let job := BuildJob.ofStaged staged request.field request.totalLiveDocs settings.tenant
  let (jobId, submitTime) ← inStage .submitted (Call.submit job).ask
  let (location, pollingTime) ← inStage .polling (Poll.awaitCompletion settings jobId).run
  let (bytesWritten, downloadTime) ← inStage .downloading (fetchGraph area location).run
  return {
    jobId := jobId
    graphKey := location.graphKey
    bytesWritten := bytesWritten
    staged := staged
    times := {
      staging := .ofMilliseconds stagingTime
      submit := .ofMilliseconds submitTime
      polling := .ofMilliseconds pollingTime
      download := .ofMilliseconds downloadTime } }

/-- The remote build, and where it stopped. -/
def attempt (area : StagingArea) (settings : BuildSettings) (request : BuildRequest) :
    Program Attempt := do
  let started ← Call.now.ask
  let staging ← stageCorpus area settings request
  match staging.result with
  | .error failure => return ⟨staging.uploaded, .error (.staging, failure)⟩
  | .ok staged =>
    let finished ← Call.now.ask
    (Call.count (.stageTime .staging (finished - started))).ask
    return ⟨staging.uploaded, ← finish area settings request staged (finished - started)⟩

/-- Deletes staged blobs one after the other, whether or not that succeeds. -/
def cleanUp : List String → Program Unit
  | [] => return
  | key :: keys => do
    let _ ← (BlobStore.delete key).run
    cleanUp keys

/-! ### The whole build -/

/-- Has the graph built locally, after the given stage if a remote build failed. -/
def locally (request : BuildRequest) (fallbackFrom : Option Stage) : Attempting BuildOutcome :=
  (Call.buildLocally request).attempt fun
    | .error failure => .error failure
    | .ok () => .ok (.localBuild fallbackFrom)

/-- Builds a graph into the sink, remotely if possible and locally if not. -/
def execute (area : StagingArea) (settings : BuildSettings) (request : BuildRequest) :
    Attempting BuildOutcome :=
  if (settings.ineligible? request.shape).isSome then do
    .count (.outcome .ineligible)
    locally request none
  else ExceptT.mk do
    let remote ← attempt area settings request
    if settings.cleanup then cleanUp remote.uploaded
    match remote.result with
    | .ok report =>
      (Call.count (.outcome .installed)).ask
      return .ok (.remote report)
    | .error (stage, failure) =>
      (Call.count (.fallback stage failure.label)).ask
      (Call.count (.outcome .fallback)).ask
      (locally request (some stage)).run

end Build

end GraphOffload
