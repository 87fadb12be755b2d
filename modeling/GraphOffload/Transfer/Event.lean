/-!
# Progress of transfers

## Main definitions

* `GraphOffload.TransferEvent` : what the listener of a transfer is told.
-/

namespace GraphOffload

/-- What the listener of a transfer is told. -/
inductive TransferEvent
  /-- The transfer of so many bytes begins. -/
  | started (key : String) (total : Nat)
  /-- So many bytes of the object were moved so far. -/
  | progress (key : String) (moved total : Nat)
  | complete (key : String) (total : Nat)
  deriving DecidableEq

end GraphOffload
