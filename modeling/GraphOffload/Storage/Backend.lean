import GraphOffload.Settings.Sections
import GraphOffload.Storage.StoreError
import GraphOffload.Text.Segments
import GraphOffload.Url.Percent

/-!
# Kinds of stores

## Main definitions

* `GraphOffload.Backend` : a store of one of the known kinds.
* `GraphOffload.Backend.ofSettings` : the store that settings name.
* `GraphOffload.Backend.text` : what the store calls itself.
-/

namespace GraphOffload

/-- A store of one of the known kinds. -/
inductive Backend
  | memory
  /-- A directory, by the segments of its absolute path. -/
  | disk (root : List String)
  | amazon (bucket : String)
  | google (bucket : String)
  deriving DecidableEq

namespace Backend

/-- The segments of the absolute path that a path means in a directory, without those that go nowhere
or back. -/
def resolve (directory : List String) (path : String) : List String :=
  let step (held : List (List Char)) (segment : List Char) : List (List Char) :=
    if segment = [] ∨ segment = ['.'] then held
    else if segment = ['.', '.'] then held.dropLast
    else held ++ [segment]
  let start := if path.toList.head? = some '/' then [] else directory.map String.toList
  ((Text.split '/' path.toList).foldl step start).map String.ofList

/-- What is said of a directory that has no name. -/
def namelessRoot : Failure :=
  .store (.generic "LocalFileSystem"
    ("Unable to canonicalize filesystem root : " ++ Fault.noFile.text))

/-- What is said of a store whose account is not known. -/
def noAccount : Failure := .store (.generic "MicrosoftAzure" "Account must be specified")

/-- The store that settings name, for a program that runs in a directory. -/
def ofSettings (directory : List String) (settings : StorageSettings) : Except Failure Backend :=
  if settings.backend = "s3" then .ok (amazon settings.bucket)
  else if settings.backend = "gcs" then .ok (google settings.bucket)
  else if settings.backend = "azure" then .error noAccount
  else if settings.backend = "local" then
    match settings.localPath with
    | none => .error (.settings .noLocalPath)
    | some path => if path.isEmpty then .error namelessRoot else .ok (disk (resolve directory path))
  else if settings.backend = "memory" then .ok memory
  else .error (.settings (.unknownBackend settings.backend))

/-- The address of a directory. -/
def address (root : List String) : String :=
  let segment (text : String) : List Char := '/' :: Percent.encode Percent.inSegment text.toList
  "file://" ++ String.ofList (root.flatMap segment)

/-- What the store calls itself. -/
def text : Backend → String
  | memory => "InMemory"
  | disk root => "LocalFileSystem(" ++ address root ++ ")"
  | amazon bucket => "AmazonS3(" ++ bucket ++ ")"
  | google bucket => "GoogleCloudStorage(" ++ bucket ++ ")"

/-- Where an object lies on disk. -/
def fileOf (root : List String) (path : ObjectPath) : String :=
  "/".intercalate (root ++ path.segments)

end Backend

end GraphOffload
