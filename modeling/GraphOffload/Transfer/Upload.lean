import GraphOffload.Storage.BlobStore

/-!
# Uploads

An upload puts a new object into the store: in one piece, or in parts of which several are under way
at once. In both cases the object appears whole or not at all.

## Main definitions

* `GraphOffload.StagingArea` : the container for uploads, and how it is used.
* `GraphOffload.Upload.vectors` : uploads bytes that are read part by part.
* `GraphOffload.Upload.blob` : uploads bytes that are at hand.
-/

namespace GraphOffload

/-- The container for uploads, and how it is used. -/
structure StagingArea where
  container : String
  /-- Whether objects are uploaded in parts. -/
  multipart : Bool
  options : TransferOptions

/-- The same container with parts of whole records. -/
def StagingArea.alignedTo (area : StagingArea) (unit : UInt64) : StagingArea :=
  { area with options := area.options.alignedTo unit }

namespace Upload

/-- Fails if there is an object under the key already. -/
def ensureAbsent (key : String) : Attempting Unit :=
  (BlobStore.contains key).caught fun
    | .error failure => pure (.error (.transfer key failure))
    | .ok true => pure (.error (.alreadyExists key))
    | .ok false => pure (.ok ())

/-- Puts an object in one piece and gives its length. -/
def putWhole (key : String) (data : Bytes) : Attempting Nat := do
  let path ← BlobStore.pathOf key
  (Call.put path data).attempt fun
    | .error error => .error (.transferStore key error)
    | .ok () => .ok data.length

/-! ### Parts -/

/-- Begins to read parts, each in the background: a reader goes on until it ends, even if the upload
fails before it comes to wait for the part. -/
def beginReads (key : String) : List Part → Attempting Unit
  | [] => pure ()
  | part :: rest => do
    (Call.beginRead key part).attempt .ok
    beginReads key rest

/-- The parts that are being sent, and how many bytes of the object were acknowledged. -/
structure Flight where
  underway : List Part := []
  sent : Nat := 0

/-- Waits for one of the parts that are being sent, whichever comes first. -/
def acknowledge (key : String) (total : Nat) (flight : Flight) : Attempting Flight :=
  match flight.underway with
  | [] => pure flight
  | oldest :: others => do
    let index ← (Call.choose others.length).attempt .ok
    let part := (oldest :: others)[index]
    (Call.endPart part).attempt (·.mapError (.transferStore key))
    let sent := flight.sent + part.length.toNat
    .notify (.progress key sent total)
    return ⟨(oldest :: others).eraseIdx index, sent⟩

/-- Waits for the given number of parts. -/
def acknowledgeAll (key : String) (total : Nat) : Nat → Flight → Attempting Nat
  | 0, flight => return flight.sent
  | count + 1, flight => do acknowledgeAll key total count (← acknowledge key total flight)

/-- Sends parts in their order, while the parts ahead are being read. As soon as as many parts are
being sent as may be, one of them is waited for, and another one is begun to be read. -/
def sendParts (key : String) (total atOnce : Nat) :
    List Part → List Part → Flight → Attempting Nat
  | [], _, flight => acknowledgeAll key total flight.underway.length flight
  | part :: parts, ahead, flight => do
    let data ← (Call.endRead key part).attempt id
    (Call.beginPart part data.val).attempt .ok
    let flight := { flight with underway := flight.underway ++ [part] }
    let flight ← if atOnce ≤ flight.underway.length then acknowledge key total flight else pure flight
    beginReads key (ahead.take 1)
    sendParts key total atOnce parts (ahead.drop 1) flight

/-- Makes up for a failure by aborting the open upload; the failure stays what it was. -/
def orAbort {α : Type} (program : Attempting α) : Attempting α :=
  program.caught fun
    | .ok value => pure (.ok value)
    | .error failure => do
      let _ ← Call.abortUpload.ask
      return .error failure

/-- Uploads in parts and gives the number of bytes. -/
def inParts (options : TransferOptions) (key : String) (total : UInt64) : Attempting Nat := do
  let path ← BlobStore.pathOf key
  (Call.openUpload path).attempt (·.mapError (.transferStore key))
  let parts := Part.plan total options.partSize
  orAbort do
    beginReads key (parts.take options.atOnce)
    let sent ← sendParts key total.toNat options.atOnce parts (parts.drop options.atOnce) {}
    Call.completeUpload.attempt (·.mapError (.transferStore key))
    return sent

/-- Uploads in one piece and gives the number of bytes. -/
def inOnePiece (key : String) (total : UInt64) : Attempting Nat := do
  let whole : Part := ⟨0, 0, total⟩
  (Call.beginRead key whole).attempt .ok
  let data ← (Call.endRead key whole).attempt id
  putWhole key data.val

/-! ### Whole uploads -/

/-- Does an upload under a key that holds no object yet, tells the listener and counts the bytes. -/
def whole (key : String) (total : Nat) (send : Attempting Nat) : Attempting Nat := do
  ensureAbsent key
  .notify (.started key total)
  let sent ← send
  .count (.moved .upload sent)
  .notify (.complete key sent)
  return sent

/-- Uploads bytes that are read part by part, and gives their number. -/
def vectors (area : StagingArea) (key : String) (total : UInt64) : Attempting Nat :=
  whole key total.toNat <|
    if area.multipart ∧ 0 < total then inParts area.options key total else inOnePiece key total

/-- Uploads bytes that are at hand, and gives their number. -/
def blob (key : String) (data : Bytes) : Attempting Nat :=
  whole key data.length (putWhole key data)

end Upload

end GraphOffload
