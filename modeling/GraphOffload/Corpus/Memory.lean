import GraphOffload.Corpus.Cursor
import GraphOffload.Failure

/-!
# Corpora in memory

## Main definitions

* `GraphOffload.MemoryCorpus` : documents with their vectors, all of one dimension.
* `GraphOffload.MemoryCorpus.ofDocs` : a corpus from ids and vectors, checked.
* `GraphOffload.MemoryCorpus.ofVectors` : a corpus whose ids count from zero.
* `GraphOffload.MemoryCursor` : the documents ahead, and the vector under the cursor.
-/

namespace GraphOffload

/-- Documents with their vectors, all of one dimension. -/
structure MemoryCorpus where
  dimension : UInt64
  docs : List (DocId × Elements)

/-- The first vector whose length is not the dimension, as a mismatch. -/
def firstRagged? (dimension : UInt64) (vectors : List Elements) : Option Mismatch :=
  (vectors.find? fun vector => vector.length ≠ dimension.toNat).map fun vector =>
    .vectorLength vector.length dimension.toNat

namespace MemoryCorpus

/-- A corpus from as many ids as vectors, each vector as long as the dimension. -/
def ofDocs (dimension : UInt64) (ids : List DocId) (vectors : List Elements) :
    Except Failure MemoryCorpus :=
  if ids.length ≠ vectors.length then
    .error (.mismatch (.docIdCount ids.length vectors.length))
  else match firstRagged? dimension vectors with
    | some fault => .error (.mismatch fault)
    | none => .ok ⟨dimension, ids.zip vectors⟩

/-- The corpus of the vectors, with ids that count from zero. -/
def ofVectors (dimension : UInt64) (vectors : List Elements) : Except Failure MemoryCorpus :=
  ofDocs dimension ((List.range vectors.length).map fun n => Int32.ofNat n) vectors

/-- What is known before the corpus is read. -/
def shape (corpus : MemoryCorpus) : CorpusShape :=
  { dimension := corpus.dimension, liveCount := .ofNat corpus.docs.length }

end MemoryCorpus

/-- The documents ahead of a cursor, and the vector of the document that it stands on. -/
structure MemoryCursor where
  ahead : List (DocId × Elements)
  current : Option Elements := none

instance : Cursor MemoryCursor where
  nextDoc cursor :=
    match cursor.ahead with
    | [] => (.ok none, ⟨[], none⟩)
    | (id, vector) :: rest => (.ok (some id), ⟨rest, some vector⟩)
  vector cursor :=
    match cursor.current with
    | some vector => (.ok vector, cursor)
    | none => (.error Fault.notOnDocument, cursor)

/-- The corpus as one that is read through cursors. -/
def MemoryCorpus.toCorpus (corpus : MemoryCorpus) : Corpus MemoryCursor :=
  ⟨corpus.shape, .ok { ahead := corpus.docs }⟩

end GraphOffload
