import GraphOffload.Corpus.FlatFile
import GraphOffload.Proofs.Corpus.Lawful
import Mathlib.Algebra.Group.Nat.Defs
import Mathlib.Data.List.TakeWhile

/-!
# Flat files against corpora in memory

A flat file that was written from vectors is, to everyone who reads it through cursors, the corpus of
these vectors in memory. The reader over the file is lazy: it passes over a vector that nobody asked
for only when it moves on, and it must not pass over one that was read already. What both kinds of cursor
have in common is therefore stated of the bytes from the reader's position on, and it is kept by each
single call.

## Main definitions

* `GraphOffload.CursorCall`, `GraphOffload.CursorReply` : the calls on a cursor and their replies.
* `GraphOffload.Cursor.replies` : the replies to calls that are made one after the other.
* `GraphOffload.Cursor.Simulates` : related cursors reply alike and stay related.
* `GraphOffload.Corpus.Alike` : corpora that no sequence of calls on a fresh cursor tells apart.
* `GraphOffload.FlatFileCursor.Mirrors` : a reader stands where a cursor in memory stands.

## Main results

* `GraphOffload.Cursor.Simulates.replies_eq` : a simulation extends to any number of calls.
* `GraphOffload.FlatFile.parse_header` : a file as long as its header promises is accepted.
* `GraphOffload.FlatFileCursor.mirrors_simulates` : every call keeps reader and cursor together.
* `GraphOffload.FlatFile.write_readsLikeMemory` : a written file is alike to the corpus in memory.
* `GraphOffload.FlatFile.yields` : a written file is a lawful corpus.
-/

namespace GraphOffload

/-! ### Calls on cursors -/

/-- The calls on a cursor. -/
inductive CursorCall
  | nextDoc
  | vector

/-- What a call on a cursor replies. -/
inductive CursorReply
  | doc (found : Except Fault (Option DocId))
  | vector (elements : Except Fault Elements)

namespace Cursor

variable {σ τ : Type} [Cursor σ] [Cursor τ]

/-- The reply to a call, and the cursor after it. -/
def reply : CursorCall → σ → CursorReply × σ
  | .nextDoc, cursor => (Cursor.nextDoc cursor).map .doc id
  | .vector, cursor => (Cursor.vector cursor).map .vector id

/-- The replies to calls that are made one after the other, whatever each of them replies. -/
def replies : List CursorCall → σ → List CursorReply
  | [], _ => []
  | call :: calls, cursor => (reply call cursor).1 :: replies calls (reply call cursor).2

/-- Related cursors reply alike to every call and are related after it. -/
structure Simulates (alike : σ → τ → Prop) : Prop where
  nextDoc : ∀ {cursor other}, alike cursor other →
    (Cursor.nextDoc cursor).1 = (Cursor.nextDoc other).1 ∧
      alike (Cursor.nextDoc cursor).2 (Cursor.nextDoc other).2
  vector : ∀ {cursor other}, alike cursor other →
    (Cursor.vector cursor).1 = (Cursor.vector other).1 ∧
      alike (Cursor.vector cursor).2 (Cursor.vector other).2

namespace Simulates

variable {alike : σ → τ → Prop} {cursor : σ} {other : τ}

/-- **Related cursors reply alike to any sequence of calls.** -/
theorem replies_eq (simulates : Simulates alike) (related : alike cursor other)
    (calls : List CursorCall) : replies calls cursor = replies calls other := by
  induction calls generalizing cursor other with
  | nil => rfl
  | cons call calls ih =>
    cases call with
    | nextDoc =>
      obtain ⟨same, later⟩ := simulates.nextDoc related
      simp only [replies, reply, Prod.map_fst, Prod.map_snd, id, same, ih later]
    | vector =>
      obtain ⟨same, later⟩ := simulates.vector related
      simp only [replies, reply, Prod.map_fst, Prod.map_snd, id, same, ih later]

/-- A cursor gives the documents that a related cursor gives. -/
theorem yields (simulates : Simulates alike) (related : alike cursor other)
    {docs : List (DocId × Elements)} (given : Yields docs other) : Yields docs cursor := by
  induction docs generalizing cursor other with
  | nil =>
    obtain ⟨_, none_left⟩ := given
    obtain ⟨same, _⟩ := simulates.nextDoc related
    rw [none_left] at same
    exact ⟨_, Prod.ext same rfl⟩
  | cons doc rest ih =>
    obtain ⟨stands, found, later, after, read, last⟩ := given
    obtain ⟨same_doc, on_doc⟩ := simulates.nextDoc related
    rw [found] at same_doc on_doc
    obtain ⟨same_vector, past⟩ := simulates.vector on_doc
    rw [read] at same_vector past
    exact ⟨_, Prod.ext same_doc rfl, ih on_doc later, _, Prod.ext same_vector rfl, ih past last⟩

end Simulates

end Cursor

namespace Corpus

variable {σ τ : Type} [Cursor σ] [Cursor τ]

/-- The replies of a fresh cursor, if one can be opened. -/
def replies (corpus : Corpus σ) (calls : List CursorCall) : Except Fault (List CursorReply) :=
  corpus.openCursor.map (Cursor.replies calls)

/-- The corpora have one shape, so their vectors are of one dimension and number and take as many
bytes, each and all of them, and no sequence of calls on fresh cursors tells them apart. -/
structure Alike (corpus : Corpus σ) (other : Corpus τ) : Prop where
  shape : corpus.shape = other.shape
  replies : ∀ calls, corpus.replies calls = other.replies calls

end Corpus

/-! ### The corpus in memory -/

/-- Vectors that are all as long as the dimension are not refused. -/
theorem firstRagged?_eq_none {dimension : UInt64} {vectors : List Elements}
    (uniform : ∀ vector ∈ vectors, vector.length = dimension.toNat) :
    firstRagged? dimension vectors = none := by
  have none_ragged : vectors.find? (fun vector => vector.length ≠ dimension.toNat) = none := by
    rw [List.find?_eq_none]
    intro vector mem
    simp [uniform vector mem]
  rw [firstRagged?, none_ragged]
  rfl

/-- Vectors as documents, numbered from zero. -/
def numbered (vectors : List Elements) : List (DocId × Elements) :=
  ((List.range vectors.length).map Int32.ofNat).zip vectors

/-- The ids of numbered vectors count from zero. -/
theorem map_fst_numbered (vectors : List Elements) :
    (numbered vectors).map Prod.fst = (List.range vectors.length).map Int32.ofNat :=
  List.map_fst_zip (by simp)

/-- Numbered vectors are the vectors. -/
theorem map_snd_numbered (vectors : List Elements) : (numbered vectors).map Prod.snd = vectors :=
  List.map_snd_zip (by simp)

/-- There are as many numbered vectors as vectors. -/
@[simp] theorem length_numbered (vectors : List Elements) :
    (numbered vectors).length = vectors.length := by
  rw [← List.length_map Prod.snd, map_snd_numbered]

/-- Numbers add nothing to the bytes of vectors. -/
theorem encodeVectors_numbered (vectors : List Elements) :
    encodeVectors (numbered vectors) = vectors.flatMap Bytes.ofWords := by
  have bytes_eq := List.flatMap_map Prod.snd Bytes.ofWords (numbered vectors)
  rw [map_snd_numbered] at bytes_eq
  exact bytes_eq.symm

/-- A property of all vectors is one of all numbered documents. -/
theorem forall_mem_numbered {vectors : List Elements} {p : Elements → Prop}
    (all : ∀ vector ∈ vectors, p vector) : ∀ doc ∈ numbered vectors, p doc.2 := by
  intro doc mem
  have in_vectors : doc.2 ∈ (numbered vectors).map Prod.snd := List.mem_map_of_mem mem
  rw [map_snd_numbered] at in_vectors
  exact all _ in_vectors

/-- Vectors of one dimension make a corpus in memory, in which they are numbered. -/
theorem MemoryCorpus.ofVectors_eq {dimension : UInt64} {vectors : List Elements}
    (uniform : ∀ vector ∈ vectors, vector.length = dimension.toNat) :
    MemoryCorpus.ofVectors dimension vectors = .ok ⟨dimension, numbered vectors⟩ := by
  have as_many : ¬((List.range vectors.length).map Int32.ofNat).length ≠ vectors.length := by simp
  rw [ofVectors, ofDocs, if_neg as_many, firstRagged?_eq_none uniform]
  rfl

/-! ### Files -/

namespace FlatFile

/-- Vectors that are all as long as the dimension are written to the last one. -/
theorem write_eq {dimension : UInt64} {vectors : List Elements}
    (uniform : ∀ vector ∈ vectors, vector.length = dimension.toNat) :
    write dimension vectors =
      (header vectors.length dimension.toNat ++ vectors.flatMap Bytes.ofWords, .ok ()) := by
  have whole : vectors.takeWhile (fun vector => vector.length = dimension.toNat) = vectors := by
    rw [List.takeWhile_eq_self_iff]
    intro vector mem
    simp [uniform vector mem]
  simp only [write, whole, firstRagged?_eq_none uniform]

/-- Every header has the same length. -/
@[simp] theorem length_header (count dimension : Nat) :
    (header count dimension).length = headerLength := by
  rw [header, Bytes.length_ofWords]
  rfl

/-- A number of vectors that ids can tell apart fits 64 bits. -/
theorem toNat_count {count : Nat} (countable : count ≤ maxCount) :
    (UInt64.ofNat count).toNat = count := by
  rw [maxCount] at countable
  rw [UInt64.toNat_ofNat']
  omega

/-- The length that a header promises is computed without overflow. -/
theorem expectedLength?_eq (count dimension : UInt64)
    (fits : headerLength + 4 * dimension.toNat * count.toNat < UInt64.size) :
    ∃ expected, expectedLength? count dimension = some expected ∧
      expected.toNat = headerLength + 4 * dimension.toNat * count.toNat := by
  have elements_eq : 4 * dimension.toNat * count.toNat = count.toNat * dimension.toNat * 4 := by
    rw [Nat.mul_assoc, Nat.mul_comm, Nat.mul_comm dimension.toNat]
  rw [headerLength, elements_eq] at fits ⊢
  have elements : Word64.mul? count dimension = some (count * dimension) := if_pos (by omega)
  have elements_toNat := Word64.mul?_eq_some elements
  have bytes : Word64.mul? (count * dimension) 4 = some (count * dimension * 4) :=
    if_pos (by rw [elements_toNat]; change _ * 4 < _; omega)
  have bytes_toNat : (count * dimension * 4).toNat = count.toNat * dimension.toNat * 4 := by
    rw [Word64.mul?_eq_some bytes, elements_toNat]
    rfl
  have whole : Word64.add? (count * dimension * 4) 8 = some (count * dimension * 4 + 8) :=
    if_pos (by rw [bytes_toNat]; change _ + 8 < _; omega)
  refine ⟨count * dimension * 4 + 8, ?_, ?_⟩
  · simp only [expectedLength?, bind, Option.bind, elements, bytes, whole]
  · rw [Word64.add?_eq_some whole, bytes_toNat, Nat.add_comm]
    rfl

/-- **A file is accepted when all that its header promises follows the header**, and what the header
says are the two numbers that it was made of.

**Proof sketch.** The two words of the header are the numbers it was made of, as these fit 32 bits; the
length to be expected fits 64 bits (`expectedLength?_eq`). So every check is passed. -/
theorem parse_header {count dimension : Nat} (positive : 0 < dimension) (small : dimension < 2 ^ 32)
    (countable : count ≤ maxCount) (fits : headerLength + 4 * dimension * count < 2 ^ 64)
    {body : Bytes} (enough : 4 * dimension * count ≤ body.length) (name : String) :
    parse name (header count dimension ++ body) = .ok ⟨name, .ofNat count, .ofNat dimension⟩ := by
  have words_eq : Bytes.words ((header count dimension ++ body).take headerLength) =
      [.ofNat count, .ofNat dimension] := by
    rw [← length_header count dimension, List.take_left, header, Bytes.words_ofWords]
  have count_eq : (UInt32.ofNat count).toUInt64 = .ofNat count := by
    rw [maxCount] at countable
    rw [← UInt64.toNat_inj, UInt32.toNat_toUInt64, UInt32.toNat_ofNat', UInt64.toNat_ofNat']
    omega
  have dimension_eq : (UInt32.ofNat dimension).toUInt64 = .ofNat dimension := by
    rw [← UInt64.toNat_inj, UInt32.toNat_toUInt64, UInt32.toNat_ofNat', UInt64.toNat_ofNat']
    omega
  have count_toNat := toNat_count countable
  have dimension_toNat : (UInt64.ofNat dimension).toNat = dimension := by
    rw [UInt64.toNat_ofNat']
    omega
  have nonzero : ¬UInt64.ofNat dimension = 0 := by
    rw [← UInt64.toNat_inj, dimension_toNat]
    exact Nat.ne_of_gt positive
  have numberable : ¬maxCount < count := Nat.not_lt.mpr countable
  obtain ⟨expected, computed, expected_eq⟩ :=
    expectedLength?_eq (.ofNat count) (.ofNat dimension)
      (by rw [count_toNat, dimension_toNat]; exact fits)
  rw [count_toNat, dimension_toNat] at expected_eq
  have long_enough : ¬(header count dimension ++ body).length < expected.toNat := by
    rw [List.length_append, length_header, expected_eq]
    omega
  simp only [parse, words_eq, count_eq, dimension_eq, count_toNat, if_neg nonzero, if_neg numberable,
    computed, if_neg long_enough]

end FlatFile

/-! ### Reader and cursor -/

namespace FlatFileCursor

/-- How a reader stands, against the vector under a cursor in memory: `rest` is what lies ahead of
the reader once it is past that vector. -/
inductive Stands (reader : FlatFileCursor) (rest : Bytes) : Option Elements → Prop
  | offDocument (off : reader.onDocument = false)
      (bytes : reader.content.drop reader.position = rest) : Stands reader rest none
  | unread {vector : Elements} (on : reader.onDocument = true) (unloaded : reader.loaded = none)
      (width : 4 * vector.length = reader.vectorLength)
      (bytes : reader.content.drop reader.position = Bytes.ofWords vector ++ rest) :
      Stands reader rest (some vector)
  | read {vector : Elements} (on : reader.onDocument = true) (loaded : reader.loaded = some vector)
      (bytes : reader.content.drop reader.position = rest) : Stands reader rest (some vector)

/-- A reader stands where a cursor in memory stands: what lies ahead of the reader are the vectors of
the documents ahead of the cursor, then the bytes `extra` that no reader gets to. -/
structure Mirrors (extra : Bytes) (reader : FlatFileCursor) (cursor : MemoryCursor) : Prop where
  ids : cursor.ahead.map Prod.fst =
    (List.range' reader.next cursor.ahead.length).map Int32.ofNat
  uniform : ∀ doc ∈ cursor.ahead, 4 * doc.2.length = reader.vectorLength
  count : reader.next + cursor.ahead.length = reader.count
  countable : reader.count ≤ FlatFile.maxCount
  stands : reader.Stands (encodeVectors cursor.ahead ++ extra) cursor.current

variable {reader : FlatFileCursor} {cursor : MemoryCursor} {rest extra : Bytes}

/-- Moving on leaves the rest ahead: a vector is passed over exactly if it was not read. -/
theorem Stands.drop_passed {current : Option Elements} (stands : reader.Stands rest current) :
    reader.content.drop (if reader.onDocument ∧ reader.loaded.isNone
      then reader.position + reader.vectorLength else reader.position) = rest := by
  cases stands with
  | offDocument off bytes => rw [if_neg (by simp [off]), bytes]
  | unread on unloaded width bytes =>
    rw [if_pos (by simp [on, unloaded]), ← List.drop_drop, bytes, ← width, ← Bytes.length_ofWords,
      List.drop_left]
  | read on loaded bytes => rw [if_neg (by simp [loaded]), bytes]

/-- Reading the vector at the position gives the vector that is written there, and moves past it. -/
theorem load_eq {vector : Elements} (width : 4 * vector.length = reader.vectorLength)
    (bytes : reader.content.drop reader.position = Bytes.ofWords vector ++ rest) :
    reader.load = (.ok vector, { reader with
      position := reader.position + reader.vectorLength, loaded := some vector }) := by
  have length_eq : (Bytes.ofWords vector).length = reader.vectorLength := by
    rw [Bytes.length_ofWords, width]
  have taken : (reader.content.drop reader.position).take reader.vectorLength =
      Bytes.ofWords vector := by
    rw [bytes, ← length_eq, List.take_left]
  rw [load, taken]
  simp only [length_eq, if_true, Bytes.words_ofWords]

/-- Moving to the next document keeps reader and cursor together.

**Proof sketch.** By whether a document is left. Past the end both stay; else the reader numbers it,
which is its id, and stands before its bytes. -/
theorem Mirrors.nextDoc (mirrors : Mirrors extra reader cursor) :
    (Cursor.nextDoc reader).1 = (Cursor.nextDoc cursor).1 ∧
      Mirrors extra (Cursor.nextDoc reader).2 (Cursor.nextDoc cursor).2 := by
  obtain ⟨ids, uniform, count, countable, stands⟩ := mirrors
  have passed := stands.drop_passed
  obtain ⟨ahead, current⟩ := cursor
  cases ahead with
  | nil =>
    have past_end : reader.count ≤ reader.next := by
      rw [← count]
      exact Nat.le_refl _
    simp only [Cursor.nextDoc, if_pos past_end, true_and]
    exact ⟨ids, uniform, count, countable, .offDocument rfl passed⟩
  | cons doc ahead =>
    obtain ⟨id, vector⟩ := doc
    have before_end : ¬reader.count ≤ reader.next := by
      rw [← count, List.length_cons]
      omega
    rw [List.map_cons, List.length_cons, List.range'_succ, List.map_cons] at ids
    obtain ⟨first_id, other_ids⟩ := List.cons.inj ids
    obtain ⟨width, others⟩ := List.forall_mem_cons.mp uniform
    rw [encodeVectors_cons, List.append_assoc] at passed
    have identified : FlatFile.docId? reader.next = some (Int32.ofNat reader.next) :=
      if_pos (by omega)
    simp only [Cursor.nextDoc, if_neg before_end, identified]
    have count_after : reader.next + 1 + ahead.length = reader.count := by
      rw [← count, List.length_cons]
      omega
    exact ⟨by rw [show id = Int32.ofNat reader.next from first_id], other_ids, others, count_after,
      countable, .unread rfl rfl width passed⟩

/-- Asking for the vector keeps reader and cursor together, the first time and every other. -/
theorem Mirrors.vector (mirrors : Mirrors extra reader cursor) :
    (Cursor.vector reader).1 = (Cursor.vector cursor).1 ∧
      Mirrors extra (Cursor.vector reader).2 (Cursor.vector cursor).2 := by
  have ⟨ids, uniform, count, countable, stands⟩ := mirrors
  obtain ⟨ahead, current⟩ := cursor
  cases stands with
  | offDocument off bytes =>
    simp only [Cursor.vector, off, Bool.false_eq_true, if_false, true_and]
    exact mirrors
  | unread on unloaded width bytes =>
    have past : reader.content.drop (reader.position + reader.vectorLength) =
        encodeVectors ahead ++ extra := by
      rw [← List.drop_drop, bytes, ← width, ← Bytes.length_ofWords, List.drop_left]
    rw [show Cursor.vector reader = reader.load by simp only [Cursor.vector, on, if_true, unloaded],
      load_eq width bytes]
    exact ⟨rfl, ids, uniform, count, countable, .read on rfl past⟩
  | read on loaded bytes =>
    simp only [Cursor.vector, on, if_true, loaded, true_and]
    exact mirrors

/-- **Every call keeps reader and cursor together.** -/
theorem mirrors_simulates (extra : Bytes) : Cursor.Simulates (Mirrors extra) :=
  ⟨Mirrors.nextDoc, Mirrors.vector⟩

end FlatFileCursor

/-! ### Written files -/

namespace FlatFile

variable {dimension : UInt64} {vectors : List Elements}

/-- The file that was written from vectors is accepted, whatever bytes follow it. -/
theorem parse_written (positive : 0 < dimension.toNat) (small : dimension.toNat < 2 ^ 32)
    (countable : vectors.length ≤ maxCount)
    (uniform : ∀ vector ∈ vectors, vector.length = dimension.toNat)
    (fits : headerLength + 4 * dimension.toNat * vectors.length < 2 ^ 64)
    (extra : Bytes) (name : String) :
    parse name ((write dimension vectors).1 ++ extra) =
      .ok ⟨name, .ofNat vectors.length, dimension⟩ := by
  have body_length : (vectors.flatMap Bytes.ofWords).length =
      4 * dimension.toNat * vectors.length := by
    have width : ∀ doc ∈ numbered vectors, 4 * doc.2.length = 4 * dimension.toNat := by
      intro doc mem
      rw [forall_mem_numbered uniform doc mem]
    rw [← encodeVectors_numbered, length_encodeVectors width, length_numbered, Nat.mul_comm]
  have enough : 4 * dimension.toNat * vectors.length ≤
      (vectors.flatMap Bytes.ofWords ++ extra).length := by
    rw [List.length_append, body_length]
    exact Nat.le_add_right _ _
  rw [write_eq uniform, List.append_assoc,
    parse_header positive small countable fits enough name, UInt64.ofNat_toNat]

/-- A fresh reader of a written file stands where a fresh cursor in memory stands. -/
theorem mirrors_written (countable : vectors.length ≤ maxCount)
    (uniform : ∀ vector ∈ vectors, vector.length = dimension.toNat)
    (extra : Bytes) (name : String) :
    ∃ reader, ((⟨name, .ofNat vectors.length, dimension⟩ : FlatFile).toCorpus
        ((write dimension vectors).1 ++ extra)).openCursor = .ok reader ∧
      FlatFileCursor.Mirrors extra reader { ahead := numbered vectors } := by
  refine ⟨_, rfl, ?_, ?_, ?_, ?_, .offDocument rfl ?_⟩
  · rw [map_fst_numbered, length_numbered, List.range_eq_range']
  · intro doc mem
    rw [forall_mem_numbered uniform doc mem]
    rfl
  · change 0 + (numbered vectors).length = (UInt64.ofNat vectors.length).toNat
    rw [toNat_count countable, length_numbered, Nat.zero_add]
  · exact (toNat_count countable).trans_le countable
  · rw [write_eq uniform, List.append_assoc, ← length_header vectors.length dimension.toNat,
      List.drop_left, encodeVectors_numbered]

/-- **A flat file is alike to the corpus of its vectors in memory.** Vectors of one positive dimension
below `2 ^ 32`, no more of them than ids can tell apart and no more bytes than 64 bits can count, are
written to the last one, and the file is accepted, whatever bytes follow it. File and corpus in memory
then have one shape, and whatever calls are made on a fresh cursor of each, in any order, a document or
a vector asked for at the wrong time included, the same call gets the same reply from both.

**Proof sketch.** The reader of the file and the cursor in memory are kept together by every single call
(`FlatFileCursor.mirrors_simulates`); the header gives the reader the right number and width of the
vectors (`parse_header`), so both are together at the start. -/
theorem write_readsLikeMemory (positive : 0 < dimension.toNat) (small : dimension.toNat < 2 ^ 32)
    (countable : vectors.length ≤ maxCount)
    (uniform : ∀ vector ∈ vectors, vector.length = dimension.toNat)
    (fits : headerLength + 4 * dimension.toNat * vectors.length < 2 ^ 64)
    (extra : Bytes) (name : String) :
    ∃ content file memory, write dimension vectors = (content, .ok ()) ∧
      parse name (content ++ extra) = .ok file ∧
      MemoryCorpus.ofVectors dimension vectors = .ok memory ∧
      (file.toCorpus (content ++ extra)).Alike memory.toCorpus := by
  obtain ⟨reader, opened, mirrors⟩ := mirrors_written countable uniform extra name
  refine ⟨(write dimension vectors).1, _, _, ?_,
    parse_written positive small countable uniform fits extra name,
    MemoryCorpus.ofVectors_eq uniform, ?_, ?_⟩
  · rw [write_eq uniform]
  · change shape _ = MemoryCorpus.shape _
    rw [shape, MemoryCorpus.shape, length_numbered]
  · intro calls
    have same := (FlatFileCursor.mirrors_simulates extra).replies_eq mirrors calls
    rw [Corpus.replies, opened]
    exact congrArg Except.ok same

/-- Two vectors, one of them with the bits of a number that is none, and three bytes after them. -/
theorem write_readsLikeMemory_two_vectors :
    let vectors : List Elements := [[0x7fc00001], [0x3f800000]]
    (0 < (1 : UInt64).toNat ∧ (1 : UInt64).toNat < 2 ^ 32 ∧ vectors.length ≤ maxCount ∧
      (∀ vector ∈ vectors, vector.length = (1 : UInt64).toNat) ∧
      headerLength + 4 * (1 : UInt64).toNat * vectors.length < 2 ^ 64) ∧
    ∃ content file memory, write 1 vectors = (content, .ok ()) ∧
      parse "vectors.bin" (content ++ [1, 2, 3]) = .ok file ∧
      MemoryCorpus.ofVectors 1 vectors = .ok memory ∧
      (file.toCorpus (content ++ [1, 2, 3])).Alike memory.toCorpus :=
  ⟨by decide, write_readsLikeMemory (by decide) (by decide) (by decide) (by decide) (by decide) _ _⟩

/-- **A written file is a lawful corpus**: its cursors give the numbered vectors, and its shape
describes them. All that holds of lawful corpora holds of it. -/
theorem yields (positive : 0 < dimension.toNat) (countable : vectors.length ≤ maxCount)
    (uniform : ∀ vector ∈ vectors, vector.length = dimension.toNat)
    (fits : headerLength + 4 * dimension.toNat * vectors.length < 2 ^ 64)
    (extra : Bytes) (name : String) :
    ∃ reader, ((⟨name, .ofNat vectors.length, dimension⟩ : FlatFile).toCorpus
        ((write dimension vectors).1 ++ extra)).openCursor = .ok reader ∧
      Cursor.Yields (numbered vectors) reader ∧
      (⟨name, .ofNat vectors.length, dimension⟩ : FlatFile).shape.Describes (numbered vectors) := by
  obtain ⟨reader, opened, mirrors⟩ := mirrors_written countable uniform extra name
  refine ⟨reader, opened, (FlatFileCursor.mirrors_simulates extra).yields mirrors
    (MemoryCursor.yields _ _), rfl, ?_, forall_mem_numbered uniform, positive, ?_⟩
  · rw [length_numbered, shape, toNat_count countable]
  · rw [length_numbered, shape]
    exact Nat.lt_of_le_of_lt (Nat.le_add_left _ _) fits

end FlatFile

end GraphOffload
