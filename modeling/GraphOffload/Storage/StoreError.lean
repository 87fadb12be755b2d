/-!
# Errors of an object store

## Main definitions

* `GraphOffload.StoreError` : why a call on a store failed.
* `GraphOffload.RangeFault` : why a store that keeps objects in memory refuses a byte range.
-/

namespace GraphOffload

/-- Why a call on a store failed. -/
inductive StoreError
  | notFound (location cause : String)
  | alreadyExists (location cause : String)
  | precondition (location cause : String)
  | generic (store cause : String)
  deriving DecidableEq

/-- The text of a store's error. -/
def StoreError.message : StoreError → String
  | .notFound location cause => "Object at location " ++ location ++ " not found: " ++ cause
  | .alreadyExists location cause =>
    "Object at location " ++ location ++ " already exists: " ++ cause
  | .precondition location cause =>
    "Request precondition failure for path " ++ location ++ ": " ++ cause
  | .generic store cause => "Generic " ++ store ++ " error: " ++ cause

/-- Why a byte range is refused. -/
inductive RangeFault
  /-- The range ends where it starts, or before. -/
  | empty (start finish : Nat)
  /-- The range starts at or past the end of the object. -/
  | pastEnd (start size : Nat)
  deriving DecidableEq

/-- The text of a refused range. -/
def RangeFault.message : RangeFault → String
  | .empty start finish => s!"Range started at {start} and ended at {finish}"
  | .pastEnd start size =>
    s!"Wanted range starting at {start}, but object was only {size} bytes long"

/-- The store error of a refused range. -/
def RangeFault.toStoreError (fault : RangeFault) : StoreError :=
  .generic "InMemory" ("Invalid range: " ++ fault.message)

end GraphOffload
