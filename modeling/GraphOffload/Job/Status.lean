import GraphOffload.Json.Decode
import GraphOffload.Text.Segments

/-!
# Status of a job

## Main definitions

* `GraphOffload.JobStatus` : how far the service is with a job.
* `GraphOffload.GraphLocation` : where a finished graph lies.
* `GraphOffload.StatusReply` : what the service says of a job.
-/

namespace GraphOffload

/-! ### Status words -/

/-- How far the service is with a job. -/
inductive JobStatus
  | pending
  | inProgress
  | completed
  | failed
  /-- A word that says nothing to this client; the job counts as running. -/
  | unknown (word : String)
  deriving DecidableEq

namespace JobStatus

/-- The word for a status. -/
def word : JobStatus → String
  | .pending => "pending"
  | .inProgress => "in_progress"
  | .completed => "completed"
  | .failed => "failed"
  | .unknown word => word

/-- The status of a word, in which the case of ASCII letters does not matter. -/
def ofWord (word : String) : JobStatus :=
  let lowered := Text.lower word
  if lowered = "pending" then .pending
  else if lowered = "in_progress" ∨ lowered = "running" then .inProgress
  else if lowered = "completed" then .completed
  else if lowered = "failed" then .failed
  else .unknown word

/-- Whether the job has come to an end. -/
def isTerminal : JobStatus → Bool
  | .completed | .failed => true
  | _ => false

/-- Reads a status word. -/
def decode : Json.Decoder JobStatus := fun depth document =>
  (Json.Decoder.text depth document).map ofWord

end JobStatus

/-! ### Replies -/

/-- Where a finished graph lies. -/
structure GraphLocation where
  bucketName : String
  graphKey : String
  /-- What the service says of the build. -/
  stats : Option Json := none

namespace GraphLocation

/-- The location as part of a message. -/
def members (location : GraphLocation) : List (String × Json) :=
  [("bucketName", .string location.bucketName), ("graphFileLocation", .string location.graphKey)] ++
    (location.stats.map fun stats => ("stats", stats)).toList

/-- The location as a message. -/
def toJson (location : GraphLocation) : Json := .ofMembers location.members

/-- Reads a location. -/
def decode : Json.Decoder GraphLocation := fun depth document => do
  let (depth, fields) ←
    Json.Decoder.fields [["bucketName"], ["graphFileLocation"], ["stats"]] depth document
  match fields with
  | [bucketName, graphKey, stats] =>
    return {
      bucketName := ← Json.Decoder.required Json.Decoder.text depth bucketName
      graphKey := ← Json.Decoder.required Json.Decoder.text depth graphKey
      stats := ← Json.Decoder.optional Json.Decoder.value depth stats }
  | _ => none

end GraphLocation

/-- What the service says of a job. -/
structure StatusReply where
  status : JobStatus
  result : Option GraphLocation := none
  error : Option String := none

namespace StatusReply

/-- The reply of a job whose graph is finished. -/
def completed (bucketName graphKey : String) : StatusReply where
  status := .completed
  result := some { bucketName := bucketName, graphKey := graphKey }

/-- The reply of a job that failed. -/
def failed (reason : String) : StatusReply where
  status := .failed
  error := some reason

/-- The members of a reply in the order of a message; what is absent has no member. -/
def members (reply : StatusReply) : List (String × Json) :=
  [("status", Json.string reply.status.word)] ++
    (reply.result.map fun result => ("result", result.toJson)).toList ++
    (reply.error.map fun error => ("error", Json.string error)).toList

/-- The reply as a message. -/
def toJson (reply : StatusReply) : Json := .ofMembers reply.members

/-- Reads a reply. -/
def decode : Json.Decoder StatusReply := fun depth document => do
  let (depth, fields) ← Json.Decoder.fields [["status"], ["result"], ["error"]] depth document
  match fields with
  | [status, result, error] =>
    return {
      status := ← Json.Decoder.required JobStatus.decode depth status
      result := ← Json.Decoder.optional GraphLocation.decode depth result
      error := ← Json.Decoder.optional Json.Decoder.text depth error }
  | _ => none

end StatusReply

end GraphOffload
