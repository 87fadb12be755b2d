import GraphOffload.Corpus.Memory

/-!
# Lawful corpora

Every pass over a lawful corpus meets the same documents in the same order, whether or not it asks for
their vectors on the way. What a pass gives is then a matter of the documents alone, and so are the
bytes that are staged of them.

## Main definitions

* `GraphOffload.encodeVectors`, `GraphOffload.encodeIds` : the bytes of documents in their order.
* `GraphOffload.Cursor.Yields` : the documents ahead of a cursor.
* `GraphOffload.CorpusShape.Describes` : documents are as the shape of their corpus says.

## Main results

* `GraphOffload.Cursor.skip_of_yields` : passing over documents leaves those after them.
* `GraphOffload.Corpus.encodeDocIds_of_yields` : the ids of a pass are those of the documents.
* `GraphOffload.CorpusShape.toNat_totalBytes` : the size of all vectors is computed without
  overflow.
* `GraphOffload.MemoryCursor.yields` : a cursor in memory gives the documents that it was made of.
-/

namespace GraphOffload

/-! ### Documents as bytes -/

/-- The vectors of documents one after the other, each element as four bytes. -/
def encodeVectors (docs : List (DocId × Elements)) : Bytes := docs.flatMap fun doc => Bytes.ofWords doc.2

/-- The ids of documents one after the other, each as four bytes. -/
def encodeIds (docs : List (DocId × Elements)) : Bytes := docs.flatMap fun doc => encodeDocId doc.1

variable {docs : List (DocId × Elements)}

/-- No vectors have no bytes. -/
@[simp] theorem encodeVectors_nil : encodeVectors [] = [] := rfl

/-- The bytes of the first vector come first. -/
@[simp] theorem encodeVectors_cons (doc : DocId × Elements) (rest : List (DocId × Elements)) :
    encodeVectors (doc :: rest) = Bytes.ofWords doc.2 ++ encodeVectors rest := rfl

/-- Every id takes four bytes. -/
theorem length_encodeIds (docs : List (DocId × Elements)) :
    (encodeIds docs).length = 4 * docs.length := by
  induction docs with
  | nil => rfl
  | cons doc rest ih =>
    have four : (encodeDocId doc.1).length = 4 := Bytes.length_ofWord _
    rw [encodeIds, List.flatMap_cons, List.length_append, four, ← encodeIds, ih, List.length_cons]
    omega

/-- Vectors of one width take as many bytes as there are vectors, times the width. -/
theorem length_encodeVectors {width : Nat} (uniform : ∀ doc ∈ docs, 4 * doc.2.length = width) :
    (encodeVectors docs).length = docs.length * width := by
  induction docs with
  | nil => simp
  | cons doc rest ih =>
    obtain ⟨first, others⟩ := List.forall_mem_cons.mp uniform
    rw [encodeVectors_cons, List.length_append, Bytes.length_ofWords, first, ih others, List.length_cons,
      Nat.succ_mul, Nat.add_comm]

/-- Without the bytes of the first vectors, those of the others are left. -/
theorem drop_encodeVectors {width : Nat} (uniform : ∀ doc ∈ docs, 4 * doc.2.length = width)
    (count : Nat) :
    (encodeVectors docs).drop (count * width) = encodeVectors (docs.drop count) := by
  induction count generalizing docs with
  | zero => simp
  | succ count ih =>
    cases docs with
    | nil => simp
    | cons doc rest =>
      obtain ⟨first, others⟩ := List.forall_mem_cons.mp uniform
      have length_eq : (Bytes.ofWords doc.2).length = width := by rw [Bytes.length_ofWords, first]
      rw [encodeVectors_cons, List.drop_succ_cons, ← ih others, Nat.succ_mul, Nat.add_comm,
        ← List.drop_drop, ← length_eq, List.drop_left]

/-- The first bytes of vectors of one width are the vectors of the first documents. -/
theorem take_encodeVectors {width : Nat} (uniform : ∀ doc ∈ docs, 4 * doc.2.length = width)
    (count : Nat) :
    (encodeVectors docs).take (count * width) = encodeVectors (docs.take count) := by
  induction count generalizing docs with
  | zero => simp
  | succ count ih =>
    cases docs with
    | nil => simp
    | cons doc rest =>
      obtain ⟨first, others⟩ := List.forall_mem_cons.mp uniform
      have length_eq : (Bytes.ofWords doc.2).length = width := by rw [Bytes.length_ofWords, first]
      rw [encodeVectors_cons, List.take_succ_cons, encodeVectors_cons, ← ih others, Nat.succ_mul,
        Nat.add_comm, ← length_eq, List.take_length_add_append]

/-! ### Passes -/

namespace Cursor

variable {σ : Type} [Cursor σ] {cursor : σ}

/-- A cursor gives the documents one after the other, and then none; the vector of each can be asked
for, once, before the cursor moves on. -/
def Yields : List (DocId × Elements) → σ → Prop
  | [], cursor => ∃ after, Cursor.nextDoc cursor = (.ok none, after)
  | (id, elements) :: rest, cursor => ∃ stands, Cursor.nextDoc cursor = (.ok (some id), stands) ∧
    Yields rest stands ∧ ∃ after, Cursor.vector stands = (.ok elements, after) ∧ Yields rest after

/-- Passing over documents leaves those after them; there may be fewer. -/
theorem skip_of_yields (yields : Yields docs cursor) (count : Nat) :
    ∃ after, skip count cursor = (.ok (decide (docs.length < count)), after) ∧
      (count ≤ docs.length → Yields (docs.drop count) after) := by
  induction count generalizing docs cursor with
  | zero => exact ⟨cursor, rfl, fun _ => yields⟩
  | succ count ih =>
    cases docs with
    | nil =>
      obtain ⟨after, none_left⟩ := yields
      exact ⟨after, by simp [skip, none_left], fun h => by simp at h⟩
    | cons doc rest =>
      obtain ⟨stands, found, later, _⟩ := yields
      obtain ⟨after, skipped, left⟩ := ih later
      refine ⟨after, ?_, fun h => left (Nat.le_of_succ_le_succ h)⟩
      simp [skip, found, skipped]

/-- The ids ahead of a cursor are those of the documents. -/
theorem idsAhead_of_yields (yields : Yields docs cursor) {limit : Nat} (enough : docs.length ≤ limit) :
    idsAhead limit cursor = .ok (docs.map Prod.fst) := by
  induction docs generalizing cursor limit with
  | nil =>
    obtain ⟨after, none_left⟩ := yields
    cases limit with
    | zero => rfl
    | succ limit => simp [idsAhead, none_left]
  | cons doc rest ih =>
    obtain ⟨stands, found, later, _⟩ := yields
    cases limit with
    | zero => simp at enough
    | succ limit =>
      have others := ih later (Nat.le_of_succ_le_succ enough)
      simp [idsAhead, found, others, Except.map]

end Cursor

/-- The ids of a pass are those of the documents. -/
theorem Corpus.encodeDocIds_of_yields {σ : Type} [Cursor σ] {cursor : σ} (shape : CorpusShape)
    (yields : Cursor.Yields docs cursor) (fits : docs.length ≤ walkLimit) :
    Corpus.encodeDocIds ⟨shape, .ok cursor⟩ = .ok (encodeIds docs) := by
  have ids := Cursor.idsAhead_of_yields yields fits
  change (Cursor.idsAhead walkLimit cursor).bind _ = _
  rw [ids]
  simp [Except.bind, pure, Except.pure, encodeIds, List.flatMap_map]

/-! ### Shapes -/

namespace CorpusShape

section

variable {shape : CorpusShape}

/-- How many bytes a vector takes is computed without overflow if the size of all vectors is, and if
there is one. -/
theorem toNat_bytesPerVector (float32 : shape.elementType = .float32)
    (fits : 4 * shape.dimension.toNat * shape.liveCount.toNat < UInt64.size)
    (some_live : 0 < shape.liveCount.toNat) :
    shape.bytesPerVector.toNat = 4 * shape.dimension.toNat := by
  have least : 4 * shape.dimension.toNat * 1 ≤ 4 * shape.dimension.toNat * shape.liveCount.toNat :=
    Nat.mul_le_mul_left _ some_live
  have size_eq : UInt64.size = 18446744073709551616 := rfl
  have four : (4 : UInt64).toNat = 4 := rfl
  rw [bytesPerVector, float32, ElementType.width, UInt64.toNat_mul, four]
  omega

/-- **The size of all vectors is computed without overflow**, if it fits 64 bits. -/
theorem toNat_totalBytes (float32 : shape.elementType = .float32)
    (fits : 4 * shape.dimension.toNat * shape.liveCount.toNat < UInt64.size) :
    shape.totalBytes.toNat = 4 * shape.dimension.toNat * shape.liveCount.toNat := by
  rw [totalBytes, UInt64.toNat_mul]
  rcases Nat.eq_zero_or_pos shape.liveCount.toNat with none_live | some_live
  · simp [none_live]
  · rw [toNat_bytesPerVector float32 fits some_live, Nat.mul_comm shape.liveCount.toNat]
    exact Nat.mod_eq_of_lt fits

end

/-- Documents are as the shape of their corpus says: their vectors are of 32-bit floats, of one
dimension, and their bytes can be counted in 64 bits. -/
structure Describes (shape : CorpusShape) (docs : List (DocId × Elements)) : Prop where
  float32 : shape.elementType = .float32
  liveCount : shape.liveCount.toNat = docs.length
  dimension : ∀ doc ∈ docs, doc.2.length = shape.dimension.toNat
  positive : 0 < shape.dimension.toNat
  fits : 4 * shape.dimension.toNat * docs.length < UInt64.size

namespace Describes

variable {shape : CorpusShape}

/-- How many bytes a vector takes is computed without overflow, if there is one. -/
theorem toNat_bytesPerVector (describes : shape.Describes docs) (some_doc : docs ≠ []) :
    shape.bytesPerVector.toNat = 4 * shape.dimension.toNat := by
  have live_eq := describes.liveCount
  refine CorpusShape.toNat_bytesPerVector describes.float32 (live_eq ▸ describes.fits) ?_
  rw [live_eq]
  exact List.length_pos_iff.mpr some_doc

/-- The size of all vectors is computed without overflow. -/
theorem toNat_totalBytes (describes : shape.Describes docs) :
    shape.totalBytes.toNat = 4 * shape.dimension.toNat * docs.length := by
  have live_eq := describes.liveCount
  rw [CorpusShape.toNat_totalBytes describes.float32 (live_eq ▸ describes.fits), live_eq]

/-- Every vector takes as many bytes as the shape says. -/
theorem uniform (describes : shape.Describes docs) :
    ∀ doc ∈ docs, 4 * doc.2.length = shape.bytesPerVector.toNat := by
  intro doc mem
  rw [describes.dimension doc mem, describes.toNat_bytesPerVector (List.ne_nil_of_mem mem)]

/-- So do all vectors. -/
theorem length_encodeVectors (describes : shape.Describes docs) :
    (encodeVectors docs).length = shape.totalBytes.toNat := by
  have same_width : ∀ doc ∈ docs, 4 * doc.2.length = 4 * shape.dimension.toNat := fun doc mem => by
    rw [describes.dimension doc mem]
  rw [GraphOffload.length_encodeVectors same_width, describes.toNat_totalBytes, Nat.mul_comm]

/-- There are few enough documents for a pass. -/
theorem length_le_walkLimit (describes : shape.Describes docs) : docs.length ≤ walkLimit := by
  rw [← describes.liveCount]
  exact Nat.le_of_lt shape.liveCount.toNat_lt

end Describes

end CorpusShape

/-! ### In memory -/

/-- A cursor in memory gives the documents that it was made of. -/
theorem MemoryCursor.yields (docs : List (DocId × Elements)) (current : Option Elements) :
    Cursor.Yields docs (⟨docs, current⟩ : MemoryCursor) := by
  induction docs generalizing current with
  | nil => exact ⟨_, rfl⟩
  | cons doc rest ih => exact ⟨⟨rest, some doc.2⟩, rfl, ih _, _, rfl, ih _⟩

end GraphOffload
