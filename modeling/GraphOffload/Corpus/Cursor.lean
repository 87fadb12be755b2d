import GraphOffload.Bytes
import GraphOffload.Fault
import GraphOffload.Field

/-!
# Corpora and their cursors

A corpus supplies the live documents of one field, each with its vector. It is read through
cursors, which only move forward: every pass over the documents opens a cursor of its own.

## Main definitions

* `GraphOffload.CorpusShape` : what is known of a corpus before it is read.
* `GraphOffload.Cursor` : the calls on a cursor, each of which may fail and leaves a later state.
* `GraphOffload.Corpus` : a shape, and the cursor that a fresh pass starts with.
* `GraphOffload.Corpus.encodeDocIds` : the ids of all documents, each as four bytes.
* `GraphOffload.Tallied` : a cursor that counts the calls on it.
-/

namespace GraphOffload

/-- The number of a document. -/
abbrev DocId := Int32

/-- A vector: the 32 bits of each element. -/
abbrev Elements := List UInt32

/-! ### Shapes -/

/-- What is known of a corpus before it is read. -/
structure CorpusShape where
  dimension : UInt64
  liveCount : UInt64
  elementType : ElementType := .float32
  deriving DecidableEq

namespace CorpusShape

/-- How many bytes a vector takes, in 64-bit arithmetic. -/
def bytesPerVector (shape : CorpusShape) : UInt64 :=
  shape.dimension * shape.elementType.width

/-- How many bytes all vectors take, in 64-bit arithmetic. -/
def totalBytes (shape : CorpusShape) : UInt64 :=
  shape.liveCount * shape.bytesPerVector

end CorpusShape

/-! ### Cursors -/

/-- The calls on a cursor with states in `σ`. -/
class Cursor (σ : Type) where
  /-- Moves to the next document and gives its id, or `none` past the last one. -/
  nextDoc : σ → Except Fault (Option DocId) × σ
  /-- The vector of the document that the cursor stands on. -/
  vector : σ → Except Fault Elements × σ

/-- A cursor of one of two kinds. -/
instance {σ τ : Type} [Cursor σ] [Cursor τ] : Cursor (σ ⊕ τ) where
  nextDoc
    | .inl cursor => (Cursor.nextDoc cursor).map id .inl
    | .inr cursor => (Cursor.nextDoc cursor).map id .inr
  vector
    | .inl cursor => (Cursor.vector cursor).map id .inl
    | .inr cursor => (Cursor.vector cursor).map id .inr

/-- A corpus whose cursors have states in `σ`. -/
structure Corpus (σ : Type) where
  shape : CorpusShape
  /-- The state of a fresh cursor, or why none can be opened. -/
  openCursor : Except Fault σ

/-- A corpus that is not there. -/
def Corpus.absent {σ : Type} : Corpus σ :=
  ⟨{ dimension := 0, liveCount := 0 }, .error Fault.noFile⟩

/-! ### Walks -/

/-- A bound on the length of every walk, which no corpus that fits a machine reaches. -/
def walkLimit : Nat := UInt64.size

namespace Cursor

variable {σ : Type} [Cursor σ]

/-- The ids of the documents ahead of a cursor, at most `limit` of them. -/
def idsAhead : Nat → σ → Except Fault (List DocId)
  | 0, _ => .ok []
  | limit + 1, cursor =>
    match Cursor.nextDoc cursor with
    | (.error fault, _) => .error fault
    | (.ok none, _) => .ok []
    | (.ok (some id), cursor) => (idsAhead limit cursor).map (id :: ·)

/-- Passes over up to `count` documents without asking for their vectors; also tells whether the
documents ended before. -/
def skip : Nat → σ → Except Fault Bool × σ
  | 0, cursor => (.ok false, cursor)
  | count + 1, cursor =>
    match Cursor.nextDoc cursor with
    | (.error fault, cursor) => (.error fault, cursor)
    | (.ok none, cursor) => (.ok true, cursor)
    | (.ok (some _), cursor) => skip count cursor

end Cursor

/-- The four bytes of a document id. -/
def encodeDocId (id : DocId) : Bytes :=
  Bytes.ofWord id.toUInt32

/-- The ids of all documents of a fresh pass, each as four bytes. -/
def Corpus.encodeDocIds {σ : Type} [Cursor σ] (corpus : Corpus σ) : Except Fault Bytes := do
  let cursor ← corpus.openCursor
  let ids ← Cursor.idsAhead walkLimit cursor
  return ids.flatMap encodeDocId

/-! ### Counting calls -/

/-- A cursor with the number of calls made on it so far, failed ones included. -/
structure Tallied (σ : Type) where
  cursor : σ
  nextCalls : Nat := 0
  vectorCalls : Nat := 0

/-- A call is passed on, and counted. -/
instance {σ : Type} [Cursor σ] : Cursor (Tallied σ) where
  nextDoc tallied :=
    (Cursor.nextDoc tallied.cursor).map id fun cursor =>
      { tallied with cursor := cursor, nextCalls := tallied.nextCalls + 1 }
  vector tallied :=
    (Cursor.vector tallied.cursor).map id fun cursor =>
      { tallied with cursor := cursor, vectorCalls := tallied.vectorCalls + 1 }

/-- The corpus with cursors that count. -/
def Corpus.tallied {σ : Type} (corpus : Corpus σ) : Corpus (Tallied σ) :=
  ⟨corpus.shape, corpus.openCursor.map fun cursor => { cursor := cursor }⟩

end GraphOffload
