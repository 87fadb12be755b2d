import GraphOffload.Storage.BlobStore

/-!
# Downloads

A download fetches an object in chunks, several of them at once, and hands it to the sink when every
chunk has arrived.

## Main definitions

* `GraphOffload.Download.assemble` : the chunks in order, if each arrived once.
* `GraphOffload.Download.writeInOrder` : writes chunks to the sink.
* `GraphOffload.Download.object` : downloads an object into the sink.
-/

namespace GraphOffload.Download

/-! ### Chunks in order -/

/-- The first chunk in the order of arrival that is not among the expected ones or came before. -/
def firstMisplaced? (count : Nat) (earlier : List Nat) : List (Nat × Bytes) → Option (Nat × ChunkFault)
  | [] => none
  | (index, _) :: rest =>
    if count ≤ index then some (index, .outOfRange count)
    else if index ∈ earlier then some (index, .repeated)
    else firstMisplaced? count (index :: earlier) rest

/-- The chunks in order, if each of the expected ones arrived once and nothing else did; else the
chunk that is wrong. -/
def assemble (count : Nat) (chunks : List (Nat × Bytes)) : Except (Nat × ChunkFault) (List Bytes) :=
  match firstMisplaced? count [] chunks with
  | some fault => .error fault
  | none => (List.range count).mapM fun index =>
    match chunks.lookup index with
    | some data => .ok data
    | none => .error (index, .missing)

/-! ### Writing -/

/-- Writes bytes to the sink until it has taken all of them. -/
def writeAll (data : Bytes) : Attempting Unit :=
  if _ : data = [] then pure () else ExceptT.mk do
    match ← (Call.write data).ask with
    | .error fault => return .error (.device fault)
    | .ok taken =>
      if _ : taken.val = 0 then return .error (.device Fault.nothingWritten)
      else (writeAll (data.drop taken.val)).run
termination_by data.length
decreasing_by
  have := List.length_pos_iff.mpr ‹data ≠ []›
  simp only [List.length_drop]
  omega

/-- Writes byte strings one after the other and gives the number of bytes. -/
def writeEach : List Bytes → Attempting Nat
  | [] => return 0
  | data :: rest => do
    writeAll data
    return data.length + (← writeEach rest)

/-- Writes the chunks of the object under a key to the sink in their order and flushes it, if each of
the expected chunks is there once; gives the number of bytes. -/
def writeInOrder (key : String) (chunks : List (Nat × Bytes)) (count : Nat) : Attempting Nat := do
  let ordered ← .ofExcept <|
    (assemble count chunks).mapError fun fault => Failure.partialTransfer key fault.1 fault.2
  let written ← writeEach ordered
  Call.flush.attempt (·.mapError .device)
  return written

/-! ### Fetching -/

/-- What is said of a chunk that was fetched. -/
def checkChunk (key : String) (chunk : Chunk) : Except StoreError Bytes → Except Failure Bytes
  | .error error =>
    .error (.partialTransfer key chunk.index (.failed (BlobStore.failureOf key error).message))
  | .ok data =>
    if data.length = chunk.length then .ok data
    else .error (.partialTransfer key chunk.index (.short data.length chunk.length))

/-- How far the fetching of chunks is. -/
structure Fetching where
  underway : List Chunk := []
  waiting : List Chunk
  /-- The chunks that arrived, the last one first. -/
  arrived : List (Nat × Bytes) := []
  moved : Nat := 0

/-- The chunk that comes next, as far as the store says: one that is under way, or, as long as fewer
than `atOnce` are, the first of those that wait. -/
def step (key : String) (path : ObjectPath) (total atOnce : Nat) (fetching : Fetching) :
    Attempting Fetching := do
  let next := if fetching.underway.length < atOnce then fetching.waiting.head? else none
  let ways := fetching.underway.length + next.toList.length
  let index ← (Call.choose (ways - 1)).attempt .ok
  match fetching.underway[index.val]?, next with
  | some chunk, _ =>
    let data ← (Call.endRange path chunk.start.toNat chunk.finish.toNat).attempt (checkChunk key chunk)
    let moved := fetching.moved + data.length
    .notify (.progress key moved total)
    return { fetching with
      underway := fetching.underway.eraseIdx index
      arrived := (chunk.index, data) :: fetching.arrived
      moved := moved }
  | none, some chunk =>
    (Call.beginRange path chunk.start.toNat chunk.finish.toNat).attempt .ok
    return { fetching with
      underway := fetching.underway ++ [chunk]
      waiting := fetching.waiting.tail }
  | none, none => return fetching

/-- Takes the given number of steps, and gives the chunks in the order of their arrival. -/
def fetch (key : String) (path : ObjectPath) (total atOnce : Nat) :
    Nat → Fetching → Attempting (List (Nat × Bytes))
  | 0, fetching => return fetching.arrived.reverse
  | steps + 1, fetching => do
    fetch key path total atOnce steps (← step key path total atOnce fetching)

/-- Fetches all chunks; each takes two steps, one to begin it and one to end it. -/
def fetchAll (key : String) (path : ObjectPath) (total atOnce : Nat) (chunks : List Chunk) :
    Attempting (List (Nat × Bytes)) :=
  fetch key path total atOnce (2 * chunks.length) { waiting := chunks }

/-- Downloads the object under a key into the sink, and gives the number of bytes. -/
def object (options : TransferOptions) (key : String) : Attempting Nat := do
  let size ← BlobStore.head key
  let path ← BlobStore.pathOf key
  let chunks := Chunk.plan size options.chunkSize
  .notify (.started key size.toNat)
  let arrived ← fetchAll key path size.toNat options.atOnce chunks
  let written ← writeInOrder key arrived chunks.length
  .count (.moved .download written)
  .notify (.complete key written)
  return written

end GraphOffload.Download
