import GraphOffload.Number.Word64

/-!
# Plans of transfers

An upload is cut into parts and a download into chunks, all of one size but the last. All sizes are
64-bit words, as the plan is computed in them.

## Main definitions

* `GraphOffload.Part`, `GraphOffload.Chunk` : one piece of an upload, and of a download.
* `GraphOffload.Part.plan`, `GraphOffload.Chunk.plan` : the pieces of a whole.
* `GraphOffload.TransferOptions` : the sizes, and how many pieces may be under way at once.
* `GraphOffload.TransferOptions.alignedTo` : options whose parts hold whole records.
-/

namespace GraphOffload

/-- One piece of an upload. -/
structure Part where
  index : Nat
  offset : UInt64
  length : UInt64
  deriving DecidableEq

/-- One piece of a download: the bytes from `start` up to `finish`, which is left out. -/
structure Chunk where
  index : Nat
  start : UInt64
  finish : UInt64
  deriving DecidableEq

/-- How many bytes a chunk is to bring; none if its ends are the wrong way round. -/
def Chunk.length (chunk : Chunk) : Nat :=
  chunk.finish.toNat - chunk.start.toNat

/-- The parts of a whole, one after the other; the last one holds what is left. -/
def Part.plan (total partSize : UInt64) : List Part :=
  let size := max partSize 1
  (List.range (Word64.ceilDiv total size).toNat).map fun index =>
    let offset := UInt64.ofNat index * size
    ⟨index, offset, min size (total - offset)⟩

/-- The chunks of an object, one after the other; the last one ends where the object does. -/
def Chunk.plan (size chunkSize : UInt64) : List Chunk :=
  let step := max chunkSize 1
  (List.range (Word64.ceilDiv size step).toNat).map fun index =>
    let start := UInt64.ofNat index * step
    ⟨index, start, min (start + step) size⟩

/-- The sizes of parts and chunks, and how many of them may be under way at once. -/
structure TransferOptions where
  partSize : UInt64
  chunkSize : UInt64
  concurrency : UInt64
  deriving DecidableEq

namespace TransferOptions

/-- How many pieces may be under way at once, at least one. -/
def atOnce (options : TransferOptions) : Nat :=
  max options.concurrency.toNat 1

/-- Options whose part size is a multiple of `unit` bytes: the largest one that is not above the
part size, or `unit` itself if it is larger. A unit of no bytes counts as one byte. -/
def alignedTo (options : TransferOptions) (unit : UInt64) : TransferOptions :=
  let unit := max unit 1
  { options with partSize := max (options.partSize / unit) 1 * unit }

end TransferOptions

end GraphOffload
