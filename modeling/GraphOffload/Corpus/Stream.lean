import GraphOffload.Corpus.Cursor
import GraphOffload.Failure
import GraphOffload.Transfer.Plan

/-!
# Vectors as a stream of bytes

The vectors of a corpus, one after the other, each element as four bytes with the lowest first. A
stream covers a range of these bytes that starts at a vector, and holds one vector at a time, so
that several streams over fresh cursors can read the parts of one upload side by side.

## Main definitions

* `GraphOffload.VectorStream` : a cursor, and what is left to read of its current vector and of the
  range.
* `GraphOffload.VectorStream.start` : the stream of a range, over a fresh cursor.
* `GraphOffload.VectorStream.read` : one read, of at most one vector.
* `GraphOffload.VectorStream.readToEnd` : all that is left.
* `GraphOffload.Corpus.readPart` : the bytes of one part of an upload.
-/

namespace GraphOffload

/-- A cursor, and what is left to read of its current vector and of the range. -/
structure VectorStream (σ : Type) where
  cursor : σ
  /-- How many bytes a vector takes. -/
  width : Nat
  /-- The bytes of the current vector that were not read yet. -/
  pending : Bytes := []
  /-- How many bytes of the range were not read yet. -/
  remaining : Nat
  /-- Whether the end of the corpus was seen. -/
  exhausted : Bool := false

/-- A failed opening, with the cursor as it was left, if there was one. -/
structure OpenFailure (σ : Type) where
  failure : Failure
  cursor : Option σ

namespace VectorStream

variable {σ : Type} [Cursor σ]

/-- The length of a range that has no end. -/
def unbounded : Nat := UInt64.size - 1

/-- The stream over a fresh cursor that starts `offset` bytes into the corpus, which has to be the
start of a vector; the vectors before are passed over. -/
def start (cursor : σ) (bytesPerVector offset : UInt64) (length : Option UInt64) :
    Except (OpenFailure σ) (VectorStream σ) :=
  let width := bytesPerVector.toNat
  if width = 0 ∨ offset.toNat % width ≠ 0 then
    .error ⟨.invalidRange offset.toNat width, some cursor⟩
  else match Cursor.skip (offset.toNat / width) cursor with
    | (.error fault, cursor) => .error ⟨.device fault, some cursor⟩
    | (.ok exhausted, cursor) => .ok {
        cursor := cursor
        width := width
        remaining := (length.map UInt64.toNat).getD unbounded
        exhausted := exhausted }

/-- What is said of a vector that has not the expected number of bytes. -/
def wrongWidth (length width : Nat) : Fault :=
  ⟨.invalidData,
    s!"vector has {length} elements, stream expects {width} bytes per vector"⟩

/-- Moves to the next document and takes its vector; tells whether there was one. -/
def reload (stream : VectorStream σ) : Except Fault Bool × VectorStream σ :=
  match Cursor.nextDoc stream.cursor with
  | (.error fault, cursor) => (.error fault, { stream with cursor := cursor })
  | (.ok none, cursor) => (.ok false, { stream with cursor := cursor, exhausted := true })
  | (.ok (some _), cursor) =>
    match Cursor.vector cursor with
    | (.error fault, cursor) => (.error fault, { stream with cursor := cursor })
    | (.ok vector, cursor) =>
      if vector.length * 4 = stream.width then
        (.ok true, { stream with cursor := cursor, pending := Bytes.ofWords vector })
      else
        (.error (wrongWidth vector.length stream.width), { stream with cursor := cursor })

/-- Takes up to `limit` bytes of the current vector, and no more than the range has left. -/
def deliver (stream : VectorStream σ) (limit : Nat) : Bytes × VectorStream σ :=
  let count := min (min stream.pending.length limit) stream.remaining
  (stream.pending.take count,
    { stream with
      pending := stream.pending.drop count
      remaining := stream.remaining - count })

/-- One read of at most `limit` bytes; no byte where the range or the corpus ends. -/
def read (stream : VectorStream σ) (limit : Nat) : Except Fault Bytes × VectorStream σ :=
  if limit = 0 ∨ stream.remaining = 0 ∨ stream.exhausted then (.ok [], stream)
  else if stream.pending.isEmpty then
    match stream.reload with
    | (.error fault, stream) => (.error fault, stream)
    | (.ok false, stream) => (.ok [], stream)
    | (.ok true, stream) =>
      let (bytes, stream) := stream.deliver limit
      (.ok bytes, stream)
  else
    let (bytes, stream) := stream.deliver limit
    (.ok bytes, stream)

/-- What a reading to the end brought, and the fault that broke it off, if one did. -/
structure Reading (σ : Type) where
  bytes : Bytes
  fault : Option Fault
  stream : VectorStream σ

/-- Reads until no byte comes, at most `attempts` times. A read that was interrupted is made
again. -/
def readUpTo : Nat → VectorStream σ → Reading σ
  | 0, stream => ⟨[], none, stream⟩
  | attempts + 1, stream =>
    match stream.read stream.width with
    | (.error fault, stream) =>
      if fault.kind = .interrupted then readUpTo attempts stream
      else ⟨[], some fault, stream⟩
    | (.ok [], stream) => ⟨[], none, stream⟩
    | (.ok bytes, stream) =>
      let rest := readUpTo attempts stream
      { rest with bytes := bytes ++ rest.bytes }

/-- Reads all that is left. Every read that brings something shortens the range, so the number of
attempts also leaves room for as many interruptions as a walk may have steps. -/
def readToEnd (stream : VectorStream σ) : Reading σ :=
  readUpTo (stream.remaining + walkLimit) stream

/-- Parts of the stream cannot be passed over. -/
def skipFailure (count : Nat) : Failure :=
  .unsupported s!"skipping {count} bytes of a vector stream"

/-- Where a stream is asked to go. -/
inductive Position
  | start (offset : Nat)
  | finish (offset : Int)
  | current (offset : Int)

/-- The text of a position. -/
def Position.text : Position → String
  | .start offset => s!"Start({offset})"
  | .finish offset => s!"End({offset})"
  | .current offset => s!"Current({offset})"

/-- Streams only move forward. -/
def seekFault (position : Position) : Fault :=
  ⟨.unsupported,
    "vector streams cannot seek (" ++ position.text ++ "); open a new stream at the offset"⟩

end VectorStream

namespace Corpus

variable {σ : Type} [Cursor σ]

/-- The stream of a range of the corpus, whose elements have to be 32-bit floats. -/
def stream (corpus : Corpus σ) (offset : UInt64) (length : Option UInt64) :
    Except (OpenFailure σ) (VectorStream σ) :=
  if corpus.shape.elementType ≠ .float32 then
    .error ⟨.unsupported ("streaming " ++ corpus.shape.elementType.name ++ " vectors"), none⟩
  else match corpus.openCursor with
    | .error fault => .error ⟨.device fault, none⟩
    | .ok cursor => VectorStream.start cursor corpus.shape.bytesPerVector offset length

end Corpus

/-! ### Parts of an upload -/

/-- The bytes of a part, as many as planned. -/
abbrev Part.Data (part : Part) := { bytes : Bytes // bytes.length = part.length.toNat }

/-- What is said of a part that came up short. -/
def Part.shortFault (part : Part) (received : Nat) : Fault :=
  ⟨.unexpectedEnd, s!"part {part.index} produced {received} of " ++ s!"{part.length.toNat} bytes"⟩

/-- The bytes of a part, if as many came as planned. -/
def Part.receive {σ : Type} (key : String) (part : Part) :
    VectorStream.Reading σ → Except Failure part.Data
  | ⟨_, some fault, _⟩ => .error (.transferFault key fault)
  | ⟨bytes, none, _⟩ =>
    if h : bytes.length = part.length.toNat then .ok ⟨bytes, h⟩
    else .error (.transferFault key (part.shortFault bytes.length))

/-- The bytes of a part, from a stream of its own. -/
def Corpus.readPart {σ : Type} [Cursor σ] (corpus : Corpus σ) (key : String) (part : Part) :
    Except Failure part.Data :=
  match corpus.stream part.offset (some part.length) with
  | .error ⟨failure, _⟩ => .error failure
  | .ok stream => part.receive key stream.readToEnd

end GraphOffload
