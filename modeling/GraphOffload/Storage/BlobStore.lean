import GraphOffload.Attempting

/-!
# Objects by key

The calls on a store by the keys of its objects, which may have no path.

## Main definitions

* `GraphOffload.BlobStore.head`, `GraphOffload.BlobStore.put`, `GraphOffload.BlobStore.get`,
  `GraphOffload.BlobStore.getRange`, `GraphOffload.BlobStore.delete`, `GraphOffload.BlobStore.list` : the
  calls.
* `GraphOffload.BlobStore.contains` : whether there is an object.
-/

namespace GraphOffload.BlobStore

/-- The path of a key. -/
def pathOf (key : String) : Attempting ObjectPath :=
  .ofExcept ((ObjectPath.parse key).mapError Failure.path)

/-- The failure that an error of the store means for a key. -/
def failureOf (key : String) : StoreError → Failure
  | .notFound .. => .notFound key
  | .alreadyExists .. => .alreadyExists key
  | error => .store error

/-- The size of an object. -/
def head (key : String) : Attempting UInt64 := do
  let path ← pathOf key
  (Call.head path).attempt (·.mapError (failureOf key))

/-- Puts an object under a key, in place of the one that was there. -/
def put (key : String) (data : Bytes) : Attempting Unit := do
  let path ← pathOf key
  (Call.put path data).attempt (·.mapError (failureOf key))

/-- The bytes of an object. -/
def get (key : String) : Attempting Bytes := do
  let path ← pathOf key
  (Call.get path).attempt (·.mapError (failureOf key))

/-- The bytes of an object from `start` up to `finish`. -/
def getRange (key : String) (start finish : Nat) : Attempting Bytes := do
  let path ← pathOf key
  (Call.beginRange path start finish).attempt .ok
  (Call.endRange path start finish).attempt (·.mapError (failureOf key))

/-- Deletes the object under a key. -/
def delete (key : String) : Attempting Unit := do
  let path ← pathOf key
  (Call.delete path).attempt (·.mapError (failureOf key))

/-- The paths of the objects below a key, as texts. -/
def list (key : String) : Attempting (List String) := do
  let path ← pathOf key
  (Call.list path).attempt fun
    | .error error => .error (.store error)
    | .ok paths => .ok (paths.map ObjectPath.text)

/-- Whether there is an object under a key. -/
def contains (key : String) : Attempting Bool :=
  (head key).caught fun
    | .ok _ => pure (.ok true)
    | .error (.notFound _) => pure (.ok false)
    | .error failure => pure (.error failure)

end GraphOffload.BlobStore
