import GraphOffload.Field
import GraphOffload.Staging.Blobs

/-!
# Jobs for the build service

## Main definitions

* `GraphOffload.BuildJob` : all that the service needs to build one graph.
* `GraphOffload.BuildJob.ofStaged` : the job for staged blobs.
* `GraphOffload.IndexRequest` : the job as the service is told of it.
* `GraphOffload.decodeJobId` : the id in the service's answer.
-/

namespace GraphOffload

/-- All that the service needs to build one graph. -/
structure BuildJob where
  container : String
  vectorKey : String
  docIdKey : String
  dimension : UInt64
  vectorCount : UInt64
  similarity : String
  elementType : ElementType := .float32
  engine : String
  parameters : Json.Members := []
  tenant : Option String := none

/-- The job for staged blobs of a field, whose elements are 32-bit floats. -/
def BuildJob.ofStaged (blobs : StagedBlobs) (field : VectorField) (vectorCount : UInt64)
    (tenant : Option String) : BuildJob where
  container := blobs.container
  vectorKey := blobs.vectorKey
  docIdKey := blobs.docIdKey
  dimension := field.dimension
  vectorCount := vectorCount
  similarity := field.similarity.name
  engine := field.engine
  parameters := field.parameters
  tenant := tenant

/-- A job as the service is told of it. -/
structure IndexRequest where
  bucketName : String
  objectLocation : String
  docIdLocation : String
  dimensions : UInt64
  vectorCount : UInt64
  similarity : String
  elementType : String
  engine : String
  parameters : Json.Members
  tenant : Option String

/-- What the service is told of a job. -/
def BuildJob.toRequest (job : BuildJob) : IndexRequest where
  bucketName := job.container
  objectLocation := job.vectorKey
  docIdLocation := job.docIdKey
  dimensions := job.dimension
  vectorCount := job.vectorCount
  similarity := job.similarity
  elementType := job.elementType.name
  engine := job.engine
  parameters := job.parameters
  tenant := job.tenant

namespace IndexRequest

/-- The members of a request in the order of a message; without a tenant there is no member for
one. -/
def members (request : IndexRequest) : List (String × Json) :=
  [("bucket_name", .string request.bucketName), ("object_location", .string request.objectLocation),
    ("doc_id_location", .string request.docIdLocation),
    ("dimensions", .ofNat request.dimensions.toNat),
    ("number_of_vectors", .ofNat request.vectorCount.toNat),
    ("space_type", .string request.similarity), ("data_type", .string request.elementType),
    ("engine", .string request.engine), ("index_parameters", .object request.parameters)] ++
    (request.tenant.map fun tenant => ("tenant_id", Json.string tenant)).toList

/-- The request as a message. -/
def toJson (request : IndexRequest) : Json := .ofMembers request.members

/-- Reads a message. -/
def decode : Json.Decoder IndexRequest := fun depth document => do
  let (depth, fields) ← Json.Decoder.fields
    [["bucket_name"], ["object_location"], ["doc_id_location"], ["dimensions"],
      ["number_of_vectors"], ["space_type"], ["data_type"], ["engine"], ["index_parameters"],
      ["tenant_id"]] depth document
  match fields with
  | [bucketName, objectLocation, docIdLocation, dimensions, vectorCount, similarity, elementType,
      engine, parameters, tenant] =>
    return {
      bucketName := ← Json.Decoder.required Json.Decoder.text depth bucketName
      objectLocation := ← Json.Decoder.required Json.Decoder.text depth objectLocation
      docIdLocation := ← Json.Decoder.required Json.Decoder.text depth docIdLocation
      dimensions := ← Json.Decoder.required Json.Decoder.word64 depth dimensions
      vectorCount := ← Json.Decoder.required Json.Decoder.word64 depth vectorCount
      similarity := ← Json.Decoder.required Json.Decoder.text depth similarity
      elementType := ← Json.Decoder.required Json.Decoder.text depth elementType
      engine := ← Json.Decoder.required Json.Decoder.text depth engine
      parameters := ← Json.Decoder.required Json.Decoder.members depth parameters
      tenant := ← Json.Decoder.optional Json.Decoder.text depth tenant }
  | _ => none

end IndexRequest

/-- Reads the id of a job from the service's answer, which may call it by three names. -/
def decodeJobId : Json.Decoder String := fun depth document => do
  let (depth, fields) ←
    Json.Decoder.fields [["job_id", "jobId", "indexCreationRequestId"]] depth document
  match fields with
  | [id] => Json.Decoder.required Json.Decoder.text depth id
  | _ => none

end GraphOffload
