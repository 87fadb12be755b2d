import GraphOffload.Staging.Ulid
import GraphOffload.Time.Span
import GraphOffload.Time.Timestamp

/-!
# Staged blobs

A build puts two blobs into the staging container: the vectors and the ids of their documents. Their
keys hold a fresh name, so that no two attempts share a key.

## Main definitions

* `GraphOffload.StagedKeys` : the keys of one attempt.
* `GraphOffload.StagedBlobs` : what was staged, where and when.
-/

namespace GraphOffload

/-- The keys of one attempt. -/
structure StagedKeys where
  blobName : String
  vectorKey : String
  docIdKey : String
  deriving DecidableEq

namespace StagedKeys

/-- The ending of the keys of vector blobs. -/
def vectorEnding : String := ".knnvec"

/-- The ending of the keys of doc-id blobs. -/
def docIdEnding : String := ".knndid"

/-- The keys of an attempt with a fresh name, for a field of one unit of the index. -/
def ofName (keyPrefix : String) (name : Ulid) (field buildUnit : String) : StagedKeys :=
  let blobName := keyPrefix ++ name.text ++ "_" ++ field ++ "_" ++ buildUnit
  ⟨blobName, blobName ++ vectorEnding, blobName ++ docIdEnding⟩

end StagedKeys

/-- What was staged, where and when. -/
structure StagedBlobs where
  container : String
  vectorKey : String
  docIdKey : String
  vectorBytes : UInt64
  docIdBytes : UInt64
  duration : Span
  stagedAt : Timestamp
  deriving DecidableEq

namespace StagedBlobs

/-- The record as stored. -/
def toJson (blobs : StagedBlobs) : Json :=
  .ofMembers
    [("container", .string blobs.container), ("vector_key", .string blobs.vectorKey),
      ("doc_id_key", .string blobs.docIdKey), ("vector_bytes", .ofNat blobs.vectorBytes.toNat),
      ("doc_id_bytes", .ofNat blobs.docIdBytes.toNat), ("staging_duration", blobs.duration.toJson),
      ("staged_at", blobs.stagedAt.toJson)]

/-- Reads a stored record. -/
def decode : Json.Decoder StagedBlobs := fun depth document => do
  let (depth, fields) ← Json.Decoder.fields
    [["container"], ["vector_key"], ["doc_id_key"], ["vector_bytes"], ["doc_id_bytes"],
      ["staging_duration"], ["staged_at"]] depth document
  match fields with
  | [container, vectorKey, docIdKey, vectorBytes, docIdBytes, duration, stagedAt] =>
    return {
      container := ← Json.Decoder.required Json.Decoder.text depth container
      vectorKey := ← Json.Decoder.required Json.Decoder.text depth vectorKey
      docIdKey := ← Json.Decoder.required Json.Decoder.text depth docIdKey
      vectorBytes := ← Json.Decoder.required Json.Decoder.word64 depth vectorBytes
      docIdBytes := ← Json.Decoder.required Json.Decoder.word64 depth docIdBytes
      duration := ← Json.Decoder.required Span.decode depth duration
      stagedAt := ← Json.Decoder.required Timestamp.decode depth stagedAt }
  | _ => none

end StagedBlobs

end GraphOffload
