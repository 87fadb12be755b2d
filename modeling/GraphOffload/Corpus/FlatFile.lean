import GraphOffload.Corpus.Memory
import GraphOffload.Number.Word64

/-!
# Corpora in flat files

A flat file holds a header of two 32-bit words, the number of vectors and their dimension, and then
the vectors one after the other, each element as four bytes with the lowest first. Documents are
numbered in the order of the file.

## Main definitions

* `GraphOffload.FlatFile` : what the header of an accepted file says.
* `GraphOffload.FlatFile.parse` : accepts a file that holds all that its header promises.
* `GraphOffload.FlatFile.write` : the file that a list of vectors leaves, and whether it is complete.
* `GraphOffload.FlatFileCursor` : a reader that passes over vectors nobody asks for.
-/

namespace GraphOffload

/-- What the header of an accepted file says. -/
structure FlatFile where
  /-- The name of the file, for messages. -/
  name : String
  count : UInt64
  dimension : UInt64

namespace FlatFile

/-- How many bytes the header takes. -/
def headerLength : Nat := 8

/-- The largest id of a document, and the most documents that a file may hold. -/
def maxCount : Nat := 2147483647

/-- The id of the document with the given number, if ids reach that far. -/
def docId? (number : Nat) : Option DocId :=
  if number ≤ maxCount then some (Int32.ofNat number) else none

/-- How long a file with the given header has to be, if that fits 64 bits. -/
def expectedLength? (count dimension : UInt64) : Option UInt64 := do
  let elements ← Word64.mul? count dimension
  let bytes ← Word64.mul? elements 4
  Word64.add? bytes 8

/-- Accepts a file that holds all that its header promises. -/
def parse (name : String) (content : Bytes) : Except Failure FlatFile :=
  match Bytes.words (content.take headerLength) with
  | [countWord, dimensionWord] =>
    let count := countWord.toUInt64
    let dimension := dimensionWord.toUInt64
    if dimension = 0 then .error (.mismatch (.zeroDimension name))
    else if maxCount < count.toNat then .error (.mismatch (.tooManyVectors name count.toNat))
    else match expectedLength? count dimension with
      | none => .error (.mismatch (.headerOverflow name count.toNat dimension.toNat))
      | some expected =>
        if content.length < expected.toNat then
          .error (.mismatch (.truncated name expected.toNat content.length))
        else .ok ⟨name, count, dimension⟩
  | _ => .error (.device Fault.shortRead)

/-- The header of a file: both numbers are cut to 32 bits. -/
def header (count dimension : Nat) : Bytes :=
  Bytes.ofWords [.ofNat count, .ofNat dimension]

/-- The file that a list of vectors leaves, and whether it is complete: writing stops before the
first vector that is not as long as the dimension. -/
def write (dimension : UInt64) (vectors : List Elements) : Bytes × Except Failure Unit :=
  let whole := vectors.takeWhile fun vector => vector.length = dimension.toNat
  let content := header vectors.length dimension.toNat ++ whole.flatMap Bytes.ofWords
  match firstRagged? dimension vectors with
  | some fault => (content, .error (.mismatch fault))
  | none => (content, .ok ())

/-- What is known before the vectors are read. -/
def shape (file : FlatFile) : CorpusShape :=
  { dimension := file.dimension, liveCount := file.count }

/-- How many bytes a vector takes in the file. -/
def vectorLength (file : FlatFile) : Nat := 4 * file.dimension.toNat

end FlatFile

/-- A reader over the bytes of a flat file. -/
structure FlatFileCursor where
  content : Bytes
  count : Nat
  vectorLength : Nat
  /-- Where the next byte is read. -/
  position : Nat := FlatFile.headerLength
  /-- The number of the next document. -/
  next : Nat := 0
  /-- Whether the cursor stands on a document. -/
  onDocument : Bool := false
  /-- The vector of the document, once it was read. -/
  loaded : Option Elements := none

namespace FlatFileCursor

/-- The same reader over a file whose bytes have changed. -/
def withContent (cursor : FlatFileCursor) (content : Bytes) : FlatFileCursor :=
  { cursor with content := content }

/-- Reads the vector at the position. A file that ends before is read to its end. -/
def load (cursor : FlatFileCursor) : Except Fault Elements × FlatFileCursor :=
  let bytes := (cursor.content.drop cursor.position).take cursor.vectorLength
  let after := { cursor with position := cursor.position + bytes.length }
  if bytes.length = cursor.vectorLength then
    let vector := Bytes.words bytes
    (.ok vector, { after with loaded := some vector })
  else (.error Fault.shortRead, after)

end FlatFileCursor

instance : Cursor FlatFileCursor where
  nextDoc cursor :=
    let position :=
      if cursor.onDocument ∧ cursor.loaded.isNone then cursor.position + cursor.vectorLength
      else cursor.position
    if cursor.count ≤ cursor.next then
      (.ok none, { cursor with position := position, onDocument := false })
    else match FlatFile.docId? cursor.next with
      | none => (.error Fault.idOutOfRange, { cursor with position := position })
      | some id =>
        (.ok (some id),
          { cursor with
            position := position, next := cursor.next + 1, onDocument := true, loaded := none })
  vector cursor :=
    if cursor.onDocument then
      match cursor.loaded with
      | some vector => (.ok vector, cursor)
      | none => cursor.load
    else (.error Fault.notOnDocument, cursor)

/-- The file as a corpus, read from the bytes that it holds when a pass starts. -/
def FlatFile.toCorpus (file : FlatFile) (content : Bytes) : Corpus FlatFileCursor :=
  ⟨file.shape, .ok {
    content := content
    count := file.count.toNat
    vectorLength := file.vectorLength }⟩

end GraphOffload
