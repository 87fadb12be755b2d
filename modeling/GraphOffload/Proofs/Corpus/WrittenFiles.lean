import GraphOffload.Proofs.Corpus.Acceptance

/-!
# What written flat files are taken for

The header of a flat file has 32 bits for each of its two numbers, and numbers that need more are cut.
A file that was written to its end is therefore taken for what was written only if both numbers fit the
header. A write that comes upon a vector of the wrong length leaves the header and the vectors before it;
the header promises all vectors, so that such a file is never accepted.

## Main definitions

* `GraphOffload.FlatFile.ReadsBack` : a file is taken for the vectors that were written to it.
* `GraphOffload.FlatFile.Representable` : the numbers that a header can hold and that are accepted.
* `GraphOffload.FlatFile.BreaksOff` : a write that stops before a vector of the wrong length.

## Main results

* `GraphOffload.FlatFile.readsBack_iff` : what was written is read back exactly if its header can hold it.
* `GraphOffload.FlatFile.write_ragged` : a write that failed leaves a file that is refused.
-/

namespace GraphOffload

namespace FlatFile

variable {dimension : UInt64} {vectors whole rest : List Elements} {vector : Elements}

/-! ### Headers -/

/-- A header holds the two numbers that it was made of, each without what 32 bits do not hold. -/
theorem header_holds (count dimension : Nat) (body : Bytes) :
    headerCount (header count dimension ++ body) = count % 2 ^ 32 ∧
      headerDimension (header count dimension ++ body) = dimension % 2 ^ 32 := by
  have headed : 8 ≤ (header count dimension ++ body).length := by
    rw [List.length_append, length_header, headerLength]
    omega
  have words_eq : Bytes.words ((header count dimension ++ body).take headerLength) =
      [.ofNat count, .ofNat dimension] := by
    rw [← length_header count dimension, List.take_left, header, Bytes.words_ofWords]
  obtain ⟨countWord, dimensionWord, same, count_eq, dimension_eq⟩ := words_header headed
  rw [words_eq] at same
  obtain ⟨rfl, rfl⟩ : UInt32.ofNat count = countWord ∧ UInt32.ofNat dimension = dimensionWord := by
    simpa using same
  rw [← count_eq, ← dimension_eq, UInt32.toNat_ofNat', UInt32.toNat_ofNat']
  exact ⟨rfl, rfl⟩

/-- A file of vectors of one dimension is as long as its header and all elements. -/
theorem length_written (uniform : ∀ vector ∈ whole, vector.length = dimension.toNat) (count : Nat) :
    (header count dimension.toNat ++ whole.flatMap Bytes.ofWords).length =
      8 + 4 * dimension.toNat * whole.length := by
  have width : ∀ doc ∈ numbered whole, 4 * doc.2.length = 4 * dimension.toNat := by
    intro doc mem
    rw [forall_mem_numbered uniform doc mem]
  rw [List.length_append, length_header, ← encodeVectors_numbered, length_encodeVectors width,
    length_numbered, Nat.mul_comm, headerLength]

/-- The length that the header of an accepted file promises fits 64 bits. -/
theorem promise_fits {name : String} {content : Bytes} {file : FlatFile}
    (parsed : parse name content = .ok file) :
    8 + 4 * file.count.toNat * file.dimension.toNat < 2 ^ 64 := by
  obtain ⟨count, dimension, expected, _, _, _, computed, _, rfl⟩ := checked_of_parse parsed
  exact toNat_of_expectedLength? computed ▸ expected.toNat_lt

/-! ### Writing -/

/-- A write that stops before a vector of the wrong length: it fails, and leaves a header for all
vectors, eight bytes long, and the vectors before the wrong one. -/
structure BreaksOff (dimension : UInt64) (vectors whole : List Elements) (vector : Elements)
    (rest : List Elements) : Prop where
  vectors_eq : vectors = whole ++ vector :: rest
  uniform : ∀ vector ∈ whole, vector.length = dimension.toNat
  ragged : vector.length ≠ dimension.toNat
  write_eq : write dimension vectors =
    (header vectors.length dimension.toNat ++ whole.flatMap Bytes.ofWords,
      .error (.mismatch (.vectorLength vector.length dimension.toNat)))
  header_length : (header vectors.length dimension.toNat).length = 8

/-- A write stops before the first vector of the wrong length. -/
theorem exists_breaksOff (ragged : ∃ vector ∈ vectors, vector.length ≠ dimension.toNat) :
    ∃ whole vector rest, BreaksOff dimension vectors whole vector rest := by
  have found : (vectors.find? fun vector => vector.length ≠ dimension.toNat).isSome := by
    rw [List.find?_isSome]
    obtain ⟨vector, mem, wrong⟩ := ragged
    exact ⟨vector, mem, by simpa using wrong⟩
  obtain ⟨vector, first_eq⟩ := Option.isSome_iff_exists.mp found
  obtain ⟨wrong, whole, rest, vectors_eq, before⟩ := List.find?_eq_some_iff_append.mp first_eq
  have uniform : ∀ vector ∈ whole, vector.length = dimension.toNat := by
    intro vector mem
    simpa using before vector mem
  have wrong' : vector.length ≠ dimension.toNat := by simpa using wrong
  have kept : vectors.takeWhile (fun vector => vector.length = dimension.toNat) = whole := by
    rw [vectors_eq, List.takeWhile_append_of_pos (by simpa using uniform), List.takeWhile_cons_of_neg
      (by simpa using wrong'), List.append_nil]
  refine ⟨whole, vector, rest, vectors_eq, uniform, wrong', ?_, length_header _ _⟩
  simp only [write, kept, firstRagged?, first_eq, Option.map_some]

/-- A file is written to its end exactly if all vectors are as long as the dimension. -/
theorem write_ok_iff :
    (write dimension vectors).2 = .ok () ↔ ∀ vector ∈ vectors, vector.length = dimension.toNat := by
  constructor
  · intro written vector mem
    by_contra ragged
    obtain ⟨_, _, _, breaks⟩ := exists_breaksOff ⟨vector, mem, ragged⟩
    rw [breaks.write_eq] at written
    cases written
  · intro uniform
    rw [write_eq uniform]

/-! ### Complete files -/

/-- A file is taken for the vectors that were written to it: it is accepted with their dimension and
their number, and a fresh cursor replies to any calls as one over these vectors does. -/
def ReadsBack (name : String) (dimension : UInt64) (vectors : List Elements) (content : Bytes) : Prop :=
  ∃ file, parse name content = .ok file ∧ file.shape.dimension = dimension ∧
    file.shape.liveCount.toNat = vectors.length ∧
    ∀ calls, (file.toCorpus content).replies calls = .ok (pass vectors 0 calls)

/-- The numbers that a header can hold and that are accepted: a dimension of 32 bits that is not zero, no
more vectors than ids can tell apart, and no more bytes than 64 bits can count. -/
structure Representable (dimension count : Nat) : Prop where
  positive : 0 < dimension
  narrow : dimension < 2 ^ 32
  countable : count ≤ 2147483647
  fits : 8 + 4 * dimension * count < 2 ^ 64

/-- Vectors that a header can hold are read back. -/
theorem readsBack_of_representable (name : String)
    (uniform : ∀ vector ∈ vectors, vector.length = dimension.toNat)
    (representable : Representable dimension.toNat vectors.length) :
    ReadsBack name dimension vectors (write dimension vectors).1 := by
  obtain ⟨positive, narrow, countable, fits⟩ := representable
  have accepted := parse_written positive narrow countable uniform fits [] name
  obtain ⟨reader, opened, mirrors⟩ := mirrors_written countable uniform [] name
  rw [List.append_nil] at accepted opened
  refine ⟨_, accepted, rfl, toNat_count countable, fun calls => ?_⟩
  have same := (FlatFileCursor.mirrors_simulates []).replies_eq mirrors calls
  rw [Corpus.replies, opened]
  exact congrArg Except.ok (same.trans (replies_numbered vectors 0 calls))

/-- **What was written is read back exactly if the header can hold it.** A file that was written to its
end is accepted with the dimension and the number of its vectors if both fit the header and are accepted;
otherwise it is refused, or taken for something else. -/
theorem readsBack_iff (written : (write dimension vectors).2 = .ok ()) (name : String) :
    ReadsBack name dimension vectors (write dimension vectors).1 ↔
      Representable dimension.toNat vectors.length := by
  have uniform := write_ok_iff.mp written
  refine ⟨?_, readsBack_of_representable name uniform⟩
  rintro ⟨file, accepted, dimension_eq, count_eq, _⟩
  obtain ⟨count_held, dimension_held, _, positive, countable, _⟩ := parse_eq_ok accepted
  have fits := promise_fits accepted
  have dimension_eq' : file.dimension.toNat = dimension.toNat := congrArg UInt64.toNat dimension_eq
  have count_eq' : file.count.toNat = vectors.length := count_eq
  rw [count_eq', dimension_eq', Nat.mul_right_comm] at fits
  rw [← dimension_held, dimension_eq'] at positive
  rw [← count_held, count_eq'] at countable
  refine ⟨Nat.pos_of_ne_zero positive, ?_, countable, fits⟩
  rw [write_eq uniform, (header_holds _ _ _).2, dimension_eq'] at dimension_held
  rw [dimension_held]
  exact Nat.mod_lt _ (by decide)

/-- Three vectors of two elements are read back. -/
theorem readsBack_three_vectors :
    let vectors : List Elements := [[1, 2], [3, 4], [0x7fc00001, 6]]
    (write 2 vectors).2 = .ok () ∧ ReadsBack "vectors.bin" 2 vectors (write 2 vectors).1 := by
  intro vectors
  have written : (write 2 vectors).2 = .ok () := by rfl
  exact ⟨written, (readsBack_iff written "vectors.bin").mpr ⟨by decide, by decide, by decide, by decide⟩⟩

/-- **A dimension of more than 32 bits is cut when it is written.** Files without vectors are written
to their end for any dimension; one for the dimension `2 ^ 32 + 1` is then taken for one of dimension
one, and one for the dimension `2 ^ 32` is refused. -/
theorem not_readsBack_wide_dimension :
    (write 4294967297 []).2 = .ok () ∧
      parse "wide.bin" (write 4294967297 []).1 = .ok ⟨"wide.bin", 0, 1⟩ ∧
      ¬ ReadsBack "wide.bin" 4294967297 [] (write 4294967297 []).1 ∧
      (write 4294967296 []).2 = .ok () ∧
      parse "wide.bin" (write 4294967296 []).1 = .error (.mismatch (.zeroDimension "wide.bin")) := by
  have accepted : parse "wide.bin" (write 4294967297 []).1 = .ok ⟨"wide.bin", 0, 1⟩ := by rfl
  refine ⟨rfl, accepted, ?_, rfl, rfl⟩
  rintro ⟨file, parsed, dimension_eq, _⟩
  rw [accepted] at parsed
  obtain rfl := Except.ok.inj parsed
  exact absurd dimension_eq (by decide)

/-! ### Incomplete files -/

/-- The vectors before a wrong one are fewer than the header promises. -/
theorem BreaksOff.refused (breaks : BreaksOff dimension vectors whole vector rest)
    (narrow : dimension.toNat < 2 ^ 32) (few : vectors.length < 2 ^ 32) (name : String) :
    ∃ failure, parse name (write dimension vectors).1 = .error failure := by
  cases accepted : parse name (write dimension vectors).1 with
  | error failure => exact ⟨failure, rfl⟩
  | ok file =>
    obtain ⟨_, _, _, positive, _, enough⟩ := parse_eq_ok accepted
    rw [breaks.write_eq] at positive enough
    obtain ⟨count_held, dimension_held⟩ :=
      header_holds vectors.length dimension.toNat (whole.flatMap Bytes.ofWords)
    rw [Nat.mod_eq_of_lt few] at count_held
    rw [Nat.mod_eq_of_lt narrow] at dimension_held
    rw [dimension_held] at positive
    rw [count_held, dimension_held, length_written breaks.uniform, Nat.mul_right_comm] at enough
    have shorter : whole.length < vectors.length := by
      rw [breaks.vectors_eq, List.length_append, List.length_cons]
      omega
    have less : 4 * dimension.toNat * whole.length < 4 * dimension.toNat * vectors.length :=
      Nat.mul_lt_mul_of_pos_left shorter (by omega)
    omega

/-- **A write that failed leaves a file that is refused.** If a vector is not as long as the dimension,
the write fails, the file is the header and the vectors before the first such one, and it is accepted
under no name.

**Proof sketch.** The file is shorter than its header promises by at least the bytes of one vector,
unless vectors have no bytes, and then the dimension of zero is refused. -/
theorem write_ragged (narrow : dimension.toNat < 2 ^ 32) (few : vectors.length < 2 ^ 32)
    (ragged : ∃ vector ∈ vectors, vector.length ≠ dimension.toNat) :
    ∃ whole vector rest, BreaksOff dimension vectors whole vector rest ∧
      ∀ name, ∃ failure, parse name (write dimension vectors).1 = .error failure := by
  obtain ⟨whole, vector, rest, breaks⟩ := exists_breaksOff ragged
  exact ⟨whole, vector, rest, breaks, breaks.refused narrow few⟩

/-- The last of three vectors is too long. -/
theorem write_ragged_last_vector :
    let vectors : List Elements := [[1, 2], [3, 4], [5, 6, 7]]
    ((2 : UInt64).toNat < 2 ^ 32 ∧ vectors.length < 2 ^ 32 ∧
      ∃ vector ∈ vectors, vector.length ≠ (2 : UInt64).toNat) ∧
    ∃ whole vector rest, BreaksOff 2 vectors whole vector rest ∧
      ∀ name, ∃ failure, parse name (write 2 vectors).1 = .error failure :=
  ⟨by decide, write_ragged (by decide) (by decide) (by decide)⟩

end FlatFile

end GraphOffload
