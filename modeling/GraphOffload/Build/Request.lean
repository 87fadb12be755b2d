import GraphOffload.Corpus.Cursor
import GraphOffload.Failure
import GraphOffload.Text.Quoted

/-!
# Requests for graphs

## Main definitions

* `GraphOffload.BuildRequest` : one graph to build.
* `GraphOffload.BuildRequest.describe` : the text by which a request is known in logs.
* `GraphOffload.BuildRequest.noLocalBuilder` : the failure of a host that cannot build graphs itself.
-/

namespace GraphOffload

/-- One graph to build: for a field of one unit of the index, from a corpus of the given shape. -/
structure BuildRequest where
  field : VectorField
  buildUnit : String
  shape : CorpusShape
  /-- How many documents the graph is to have. -/
  totalLiveDocs : UInt64

/-- The text by which a request is known in logs. -/
def BuildRequest.describe (request : BuildRequest) : String :=
  "BuildRequest \x7b field: " ++ Text.quoted request.field.name ++ ", build_unit: " ++
    Text.quoted request.buildUnit ++ ", total_live_docs: " ++ toString request.totalLiveDocs.toNat ++
    " \x7d"

/-- The failure of a host without a local builder. -/
def BuildRequest.noLocalBuilder (request : BuildRequest) : Failure :=
  .localBuild ("no local builder for field " ++ request.field.name ++ " in " ++ request.buildUnit)

end GraphOffload
