import GraphOffload.Build.Eligibility
import GraphOffload.Proofs.Corpus.FlatFiles
import GraphOffload.Proofs.Transfer.Planning

/-!
# Which flat files are accepted

The header of a flat file holds two numbers that anyone may have written there. What they promise is
computed in 64-bit words, and may be more than a word can hold. Still exactly those files are accepted
that hold what their header promises over the natural numbers, and for them nothing that is computed
later leaves 64 bits.

## Main definitions

* `GraphOffload.Bytes.littleEndian` : the number that bytes stand for.
* `GraphOffload.FlatFile.WellFormed` : a file that holds what its header promises.
* `GraphOffload.FlatFile.pass` : what calls on a fresh cursor reply, one after the other.
* `GraphOffload.FlatFile.Exact` : what is computed of a file is what it is over the natural numbers.

## Main results

* `GraphOffload.FlatFile.parse_eq_ok` : what an accepted file is taken for.
* `GraphOffload.FlatFile.replies_of_whole` : what a cursor on an accepted file replies.
* `GraphOffload.FlatFile.parse_accepts` : exactly the well-formed files are accepted, and all that is
  computed of them is exact.
-/

namespace GraphOffload

/-! ### Bytes as numbers -/

namespace Bytes

/-- The number that bytes stand for, the lowest first. -/
def littleEndian (bytes : Bytes) : Nat :=
  bytes.foldr (fun byte rest => byte.toNat + 256 * rest) 0

/-- A word is the number that its four bytes stand for. -/
theorem toNat_toWord (b₀ b₁ b₂ b₃ : UInt8) :
    (toWord b₀ b₁ b₂ b₃).toNat = littleEndian [b₀, b₁, b₂, b₃] := by
  have h₀ := b₀.toNat_lt
  have h₁ := b₁.toNat_lt
  have h₂ := b₂.toNat_lt
  have h₃ := b₃.toNat_lt
  simp only [toWord, littleEndian, List.foldr_cons, List.foldr_nil, UInt32.toNat_ofNat']
  omega

/-- Every four bytes are a word. -/
theorem length_words (bytes : Bytes) : (words bytes).length = bytes.length / 4 := by
  induction bytes using words.induct with
  | case1 b₀ b₁ b₂ b₃ rest ih =>
    simp only [words, List.length_cons, ih]
    omega
  | case2 bytes short =>
    have few : bytes.length < 4 := by
      by_contra many
      rcases bytes with _ | ⟨b₀, _ | ⟨b₁, _ | ⟨b₂, _ | ⟨b₃, rest⟩⟩⟩⟩
      all_goals simp only [List.length_cons, List.length_nil] at many
      all_goals first | omega | exact short b₀ b₁ b₂ b₃ rest rfl
    rw [words, List.length_nil, Nat.div_eq_of_lt few]
    exact short

/-- Four bytes are those of the word that they make. -/
theorem ofWord_toWord (b₀ b₁ b₂ b₃ : UInt8) : ofWord (toWord b₀ b₁ b₂ b₃) = [b₀, b₁, b₂, b₃] := by
  have h₀ := b₀.toNat_lt
  have h₁ := b₁.toNat_lt
  have h₂ := b₂.toNat_lt
  have h₃ := b₃.toNat_lt
  simp only [ofWord, toNat_toWord, littleEndian, List.foldr_cons, List.foldr_nil, List.cons.injEq,
    and_true, ← UInt8.toNat_inj, UInt8.toNat_ofNat']
  omega

/-- Writing what was read gives the bytes back, if they are whole words. -/
theorem ofWords_words {bytes : Bytes} (whole : 4 ∣ bytes.length) : ofWords (words bytes) = bytes := by
  induction bytes using words.induct with
  | case1 b₀ b₁ b₂ b₃ rest ih =>
    simp only [List.length_cons] at whole
    rw [words, ofWords_cons, ofWord_toWord, ih (by omega)]
    rfl
  | case2 bytes short =>
    have none_read : (words bytes).length = 0 := by
      rw [words]
      · rfl
      · exact short
    rw [length_words] at none_read
    obtain rfl : bytes = [] := List.length_eq_zero_iff.mp (by omega)
    rfl

end Bytes

/-! ### Eligibility -/

/-- The first reason against a remote build of as many vectors of 32-bit floats, over the natural
numbers. -/
def BuildSettings.verdict? (settings : BuildSettings) (count dimension : Nat) : Option Ineligible :=
  if !settings.enabled then some .disabled
  else if settings.container.isEmpty then some .noContainer
  else if count = 0 ∨ count < settings.minLiveVectors.toNat then
    some (.fewVectors count (max settings.minLiveVectors.toNat 1))
  else if 4 * count * dimension < settings.sizeThreshold.toNat then
    some (.fewBytes (4 * count * dimension) settings.sizeThreshold.toNat)
  else none

/-- A shape whose size is exact is judged as over the natural numbers. -/
theorem BuildSettings.ineligible?_eq (settings : BuildSettings) {shape : CorpusShape}
    (float32 : shape.elementType = .float32)
    (exact_size : shape.totalBytes.toNat = 4 * shape.liveCount.toNat * shape.dimension.toNat) :
    settings.ineligible? shape = settings.verdict? shape.liveCount.toNat shape.dimension.toNat := by
  have none_live : shape.liveCount = 0 ↔ shape.liveCount.toNat = 0 := by
    rw [← UInt64.toNat_inj, UInt64.toNat_zero]
  have least : (max settings.minLiveVectors 1).toNat = max settings.minLiveVectors.toNat 1 :=
    Word64.toNat_max _ _
  simp only [ineligible?, verdict?, float32, ne_eq, not_true, if_false, none_live,
    UInt64.lt_iff_toNat_lt, least, exact_size]

namespace FlatFile

variable {content : Bytes} {name : String} {file : FlatFile}

/-! ### Well-formed files -/

/-- The number of vectors that the header of a file promises. -/
def headerCount (content : Bytes) : Nat := Bytes.littleEndian (content.take 4)

/-- The dimension that the header of a file promises. -/
def headerDimension (content : Bytes) : Nat := Bytes.littleEndian ((content.drop 4).take 4)

/-- The file has a header and holds what it promises: vectors of a dimension that is not zero, no more
of them than ids can tell apart. -/
structure WellFormed (content : Bytes) : Prop where
  headed : 8 ≤ content.length
  positive : headerDimension content ≠ 0
  countable : headerCount content ≤ 2147483647
  whole : 8 + 4 * headerCount content * headerDimension content ≤ content.length

/-- The header of a file is the two words that it promises, if it is there. -/
theorem words_header (headed : 8 ≤ content.length) :
    ∃ count dimension : UInt32, Bytes.words (content.take headerLength) = [count, dimension] ∧
      count.toNat = headerCount content ∧ dimension.toNat = headerDimension content := by
  match content, headed with
  | b₀ :: b₁ :: b₂ :: b₃ :: b₄ :: b₅ :: b₆ :: b₇ :: rest, _ =>
    exact ⟨_, _, rfl, Bytes.toNat_toWord _ _ _ _, Bytes.toNat_toWord _ _ _ _⟩

/-- A checked length is the length over the natural numbers. -/
theorem toNat_of_expectedLength? {count dimension expected : UInt64}
    (computed : expectedLength? count dimension = some expected) :
    expected.toNat = 8 + 4 * count.toNat * dimension.toNat := by
  simp only [expectedLength?, Option.bind_eq_bind, Option.bind_eq_some_iff] at computed
  obtain ⟨elements, elements_eq, bytes, bytes_eq, whole_eq⟩ := computed
  have four : (4 : UInt64).toNat = 4 := rfl
  have eight : (8 : UInt64).toNat = 8 := rfl
  rw [Word64.add?_eq_some whole_eq, Word64.mul?_eq_some bytes_eq, Word64.mul?_eq_some elements_eq, four,
    eight, Nat.mul_assoc 4, Nat.mul_comm 4, Nat.add_comm]

/-- All checks are passed by an accepted file.

**Proof sketch.** The checks in their order: each one refuses the file or leaves the others to be
passed. -/
theorem checked_of_parse (parsed : parse name content = .ok file) :
    ∃ (count dimension : UInt32) (expected : UInt64),
      Bytes.words (content.take headerLength) = [count, dimension] ∧ dimension.toUInt64 ≠ 0 ∧
      count.toUInt64.toNat ≤ maxCount ∧
      expectedLength? count.toUInt64 dimension.toUInt64 = some expected ∧
      expected.toNat ≤ content.length ∧ file = ⟨name, count.toUInt64, dimension.toUInt64⟩ := by
  unfold parse at parsed
  split at parsed
  case h_2 => cases parsed
  case h_1 count dimension words_eq =>
    dsimp only at parsed
    split at parsed
    case isTrue => cases parsed
    case isFalse nonzero =>
      split at parsed
      case isTrue => cases parsed
      case isFalse countable =>
        split at parsed
        case h_1 => cases parsed
        case h_2 expected computed =>
          split at parsed
          case isTrue => cases parsed
          case isFalse long_enough =>
            exact ⟨count, dimension, expected, words_eq, nonzero, Nat.not_lt.mp countable, computed,
              Nat.not_lt.mp long_enough, (Except.ok.inj parsed).symm⟩

/-- **What an accepted file is taken for** are the numbers of its header, and it is well-formed. -/
theorem parse_eq_ok (parsed : parse name content = .ok file) :
    file.count.toNat = headerCount content ∧ file.dimension.toNat = headerDimension content ∧
      WellFormed content := by
  obtain ⟨count, dimension, expected, words_eq, nonzero, countable, computed, long_enough, rfl⟩ :=
    checked_of_parse parsed
  have headed : 8 ≤ content.length := by
    have two := congrArg List.length words_eq
    rw [Bytes.length_words, List.length_take, headerLength, List.length_cons, List.length_singleton] at two
    omega
  obtain ⟨count', dimension', words_eq', count_eq, dimension_eq⟩ := words_header headed
  obtain ⟨rfl, rfl⟩ : count = count' ∧ dimension = dimension' := by
    simpa using words_eq.symm.trans words_eq'
  have expected_eq := toNat_of_expectedLength? computed
  simp only [UInt32.toNat_toUInt64, count_eq, dimension_eq] at countable expected_eq ⊢
  refine ⟨trivial, trivial, headed, fun zero => nonzero ?_, countable, by omega⟩
  rw [← UInt64.toNat_inj, UInt32.toNat_toUInt64, dimension_eq, zero, UInt64.toNat_zero]

/-- **A well-formed file is accepted**, if its length fits 64 bits.

**Proof sketch.** It is as long as its header promises, so that what the header promises fits 64 bits
too, and the checked length is computed. -/
theorem exists_parse (name : String) (well : WellFormed content) (fits : content.length < UInt64.size) :
    ∃ file, parse name content = .ok file := by
  obtain ⟨headed, positive, countable, whole⟩ := well
  obtain ⟨count, dimension, words_eq, count_eq, dimension_eq⟩ := words_header headed
  have reordered : 4 * dimension.toUInt64.toNat * count.toUInt64.toNat =
      4 * headerCount content * headerDimension content := by
    rw [UInt32.toNat_toUInt64, UInt32.toNat_toUInt64, count_eq, dimension_eq, Nat.mul_right_comm]
  obtain ⟨expected, computed, expected_eq⟩ :=
    expectedLength?_eq count.toUInt64 dimension.toUInt64 (by
      rw [reordered, headerLength]
      omega)
  rw [reordered, headerLength] at expected_eq
  have nonzero : ¬ dimension.toUInt64 = 0 := by
    rw [← UInt64.toNat_inj, UInt32.toNat_toUInt64, dimension_eq]
    exact positive
  have numberable : ¬ maxCount < count.toUInt64.toNat := by
    rw [UInt32.toNat_toUInt64, count_eq]
    exact Nat.not_lt.mpr countable
  have long_enough : ¬ content.length < expected.toNat := by omega
  refine ⟨⟨name, count.toUInt64, dimension.toUInt64⟩, ?_⟩
  simp only [parse, words_eq, if_neg nonzero, if_neg numberable, computed, if_neg long_enough]

/-! ### Cursors -/

/-- The vectors that lie one after the other in a body, each of `width` bytes. -/
def vectorsIn (width : Nat) : Nat → Bytes → List Elements
  | 0, _ => []
  | count + 1, body => Bytes.words (body.take width) :: vectorsIn width count (body.drop width)

/-- As many vectors are read as are asked for. -/
@[simp] theorem length_vectorsIn (width count : Nat) (body : Bytes) :
    (vectorsIn width count body).length = count := by
  induction count generalizing body with
  | zero => rfl
  | succ count ih => rw [vectorsIn, List.length_cons, ih]

/-- The vectors are of one dimension, and their bytes are those of the body.

**Proof sketch.** Induction on the number of vectors: the first is one width of bytes, and the rest of
the body is long enough for the others. -/
theorem vectorsIn_spec (dimension : Nat) {count : Nat} {body : Bytes}
    (enough : count * (4 * dimension) ≤ body.length) :
    (∀ vector ∈ vectorsIn (4 * dimension) count body, vector.length = dimension) ∧
      (vectorsIn (4 * dimension) count body).flatMap Bytes.ofWords =
        body.take (count * (4 * dimension)) := by
  induction count generalizing body with
  | zero => simp [vectorsIn]
  | succ count ih =>
    rw [Nat.succ_mul] at enough
    have enough' : count * (4 * dimension) ≤ (body.drop (4 * dimension)).length := by
      rw [List.length_drop]
      omega
    obtain ⟨widths, bytes_eq⟩ := ih enough'
    have length_eq : (body.take (4 * dimension)).length = 4 * dimension := by
      rw [List.length_take]
      omega
    refine ⟨?_, ?_⟩
    · rw [vectorsIn]
      refine List.forall_mem_cons.mpr ⟨?_, widths⟩
      rw [Bytes.length_words, length_eq]
      omega
    · have words_only : 4 ∣ (body.take (4 * dimension)).length := by
        rw [length_eq]
        exact Nat.dvd_mul_right 4 dimension
      have split : (count + 1) * (4 * dimension) = 4 * dimension + count * (4 * dimension) := by
        rw [Nat.add_mul, Nat.one_mul, Nat.add_comm]
      rw [vectorsIn, List.flatMap_cons, bytes_eq, Bytes.ofWords_words words_only, split, List.take_add]

/-- The vector of the document that a cursor stands on when `met` documents were asked for, if it stands
on one. -/
def standing? (vectors : List Elements) : Nat → Option Elements
  | 0 => none
  | met + 1 => vectors[met]?

/-- What calls on a cursor reply, one after the other, when `met` documents were asked for before: the
documents are numbered from zero, and the vector of the one that the cursor stands on can be asked for
any number of times. -/
def pass (vectors : List Elements) : Nat → List CursorCall → List CursorReply
  | _, [] => []
  | met, .nextDoc :: calls =>
    .doc (.ok (if met < vectors.length then some (Int32.ofNat met) else none)) ::
      pass vectors (met + 1) calls
  | met, .vector :: calls =>
    .vector (match standing? vectors met with
      | some vector => .ok vector
      | none => .error Fault.notOnDocument) :: pass vectors met calls

/-- A cursor in memory replies in this way. -/
theorem replies_numbered (vectors : List Elements) (met : Nat) (calls : List CursorCall) :
    Cursor.replies calls
        (⟨(numbered vectors).drop met, standing? vectors met⟩ : MemoryCursor) =
      pass vectors met calls := by
  induction calls generalizing met with
  | nil => rfl
  | cons call calls ih =>
    cases call with
    | vector =>
      rw [pass, ← ih met, Cursor.replies, Cursor.reply]
      cases standing? vectors met <;> rfl
    | nextDoc =>
      rw [pass, ← ih (met + 1), Cursor.replies, Cursor.reply]
      by_cases below : met < vectors.length
      · have here : (numbered vectors).drop met =
            (Int32.ofNat met, vectors[met]) :: (numbered vectors).drop (met + 1) := by
          rw [List.drop_eq_getElem_cons (by rwa [length_numbered])]
          simp [numbered]
        simp [here, Cursor.nextDoc, below, standing?]
      · have past : (numbered vectors).drop met = [] :=
          List.drop_eq_nil_of_le (by rw [length_numbered]; omega)
        have past' : (numbered vectors).drop (met + 1) = [] :=
          List.drop_eq_nil_of_le (by rw [length_numbered]; omega)
        simp [past, past', Cursor.nextDoc, below, standing?]

/-- **A cursor on an accepted file gives all documents**, numbered from zero, whichever vectors are
read on the way.

**Proof sketch.** The body of the file holds as many vectors as its header promises, so that a fresh
reader stands where a cursor in memory on these vectors stands. -/
theorem replies_of_whole (countable : file.count.toNat ≤ maxCount)
    (whole : 8 + file.count.toNat * (4 * file.dimension.toNat) ≤ content.length)
    (calls : List CursorCall) :
    (file.toCorpus content).replies calls =
      .ok (pass (vectorsIn (4 * file.dimension.toNat) file.count.toNat (content.drop 8)) 0 calls) := by
  have enough : file.count.toNat * (4 * file.dimension.toNat) ≤ (content.drop 8).length := by
    rw [List.length_drop]
    omega
  obtain ⟨widths, bytes_eq⟩ := vectorsIn_spec file.dimension.toNat enough
  let vectors := vectorsIn (4 * file.dimension.toNat) file.count.toNat (content.drop 8)
  let reader : FlatFileCursor :=
    { content := content, count := file.count.toNat, vectorLength := file.vectorLength }
  let extra := (content.drop 8).drop (file.count.toNat * (4 * file.dimension.toNat))
  have mirrors : FlatFileCursor.Mirrors extra reader { ahead := numbered vectors } := by
    refine ⟨?_, ?_, ?_, countable, .offDocument rfl ?_⟩
    · rw [map_fst_numbered, length_numbered, List.range_eq_range']
    · intro doc mem
      rw [forall_mem_numbered widths doc mem]
      rfl
    · change 0 + (numbered vectors).length = file.count.toNat
      rw [length_numbered, length_vectorsIn, Nat.zero_add]
    · rw [encodeVectors_numbered, bytes_eq, List.take_append_drop]
      rfl
  have same := (FlatFileCursor.mirrors_simulates extra).replies_eq mirrors calls
  exact congrArg Except.ok (same.trans (replies_numbered vectors 0 calls))

/-! ### Accepted files -/

/-- What is computed of an accepted file is what it is over the natural numbers: the sizes, the verdict
on whether the file is built remotely, and the plan of its upload with parts of whole vectors. Cursors
give all its documents, numbered from zero, whichever vectors are read on the way. -/
structure Exact (content : Bytes) (file : FlatFile) : Prop where
  liveCount : file.shape.liveCount.toNat = headerCount content
  dimension : file.shape.dimension.toNat = headerDimension content
  bytesPerVector : file.shape.bytesPerVector.toNat = 4 * headerDimension content
  totalBytes : file.shape.totalBytes.toNat = 4 * headerCount content * headerDimension content
  verdict : ∀ settings : BuildSettings,
    settings.ineligible? file.shape = settings.verdict? (headerCount content) (headerDimension content)
  passes : ∃ vectors : List Elements, vectors.length = headerCount content ∧
    (∀ vector ∈ vectors, vector.length = headerDimension content) ∧
    vectors.flatMap Bytes.ofWords =
      (content.drop 8).take (4 * headerCount content * headerDimension content) ∧
    ∀ calls, (file.toCorpus content).replies calls = .ok (pass vectors 0 calls)
  ids : ∀ index < headerCount content, (Int32.ofNat index).toInt = index
  plans : ∀ options : TransferOptions,
    let aligned := options.alignedTo file.shape.bytesPerVector
    let total := 4 * headerCount content * headerDimension content
    let size := max (options.partSize.toNat / (4 * headerDimension content)) 1 *
      (4 * headerDimension content)
    options.alignedTo? file.shape.bytesPerVector = some aligned ∧
      Part.plan? file.shape.totalBytes aligned.partSize =
        some (Part.plan file.shape.totalBytes aligned.partSize) ∧
      (Part.plan file.shape.totalBytes aligned.partSize).map Part.extent =
        cut total size (cutCount total size)

/-- All that is computed of an accepted file is exact.

**Proof sketch.** The sizes that were checked are below the length of the file (`parse_eq_ok`), so that
no product wraps: counts, widths and totals are those of the header. The vectors follow by
`vectorsIn_spec`, the plan by `Part.extents_plan`. -/
theorem exact_of_parse (parsed : parse name content = .ok file) (fits : content.length < UInt64.size) :
    Exact content file := by
  obtain ⟨count_eq, dimension_eq, headed, positive, countable, whole⟩ := parse_eq_ok parsed
  have small : headerDimension content < 4294967296 := by
    obtain ⟨_, dimension, _, _, same⟩ := words_header headed
    exact same ▸ dimension.toNat_lt
  have four : (4 : UInt64).toNat = 4 := rfl
  have size_eq : UInt64.size = 18446744073709551616 := rfl
  have width_eq : file.shape.bytesPerVector.toNat = 4 * headerDimension content := by
    change (file.dimension * 4).toNat = _
    rw [UInt64.toNat_mul, dimension_eq, four]
    omega
  have reordered : 4 * headerDimension content * headerCount content =
      4 * headerCount content * headerDimension content := Nat.mul_right_comm _ _ _
  -- the file is as long as its header says, and its length fits a word
  have fits' : 4 * file.shape.dimension.toNat * file.shape.liveCount.toNat < UInt64.size := by
    change 4 * file.dimension.toNat * file.count.toNat < _
    rw [count_eq, dimension_eq, reordered]
    omega
  have total_eq : file.shape.totalBytes.toNat = 4 * headerCount content * headerDimension content := by
    rw [CorpusShape.toNat_totalBytes rfl fits', ← reordered, ← count_eq, ← dimension_eq]
    rfl
  have some_width : 0 < file.shape.bytesPerVector.toNat := by omega
  constructor
  case liveCount => exact count_eq
  case dimension => exact dimension_eq
  case bytesPerVector => exact width_eq
  case totalBytes => exact total_eq
  case verdict =>
    intro settings
    rw [settings.ineligible?_eq rfl, ← count_eq, ← dimension_eq]
    · rfl
    · rw [total_eq, ← count_eq, ← dimension_eq]
      rfl
  case passes =>
    have product : file.count.toNat * (4 * file.dimension.toNat) =
        4 * headerCount content * headerDimension content := by
      rw [count_eq, dimension_eq, Nat.mul_left_comm, Nat.mul_assoc]
    have enough : file.count.toNat * (4 * file.dimension.toNat) ≤ (content.drop 8).length := by
      rw [product, List.length_drop]
      omega
    obtain ⟨widths, bytes_eq⟩ := vectorsIn_spec file.dimension.toNat enough
    refine ⟨_, ?_, fun vector mem => ?_, ?_, replies_of_whole ?_ ?_⟩
    · rw [length_vectorsIn, count_eq]
    · rw [widths vector mem, dimension_eq]
    · rw [bytes_eq, product]
    · rw [count_eq]
      exact countable
    · omega
  case ids =>
    intro index below
    exact Int32.toInt_ofNat_of_lt (by omega)
  case plans =>
    intro options
    refine ⟨options.alignedTo?_eq some_width, Part.plan?_eq _ _, ?_⟩
    have aligned_eq := options.toNat_partSize_alignedTo some_width
    rw [width_eq] at aligned_eq
    have at_least : 1 ≤ (options.alignedTo file.shape.bytesPerVector).partSize.toNat := by
      rw [aligned_eq]
      exact Nat.mul_pos (by omega) (by omega)
    rw [Part.extents_plan, Nat.max_eq_left at_least, total_eq, aligned_eq]

/-- **Exactly the well-formed files are accepted, and all that is computed of them is exact**, if the
length of the file fits 64 bits. -/
theorem parse_accepts (name : String) (fits : content.length < UInt64.size) :
    ((∃ file, parse name content = .ok file) ↔ WellFormed content) ∧
      ∀ file, parse name content = .ok file → Exact content file := by
  refine ⟨⟨?_, fun well => exists_parse name well fits⟩, fun file parsed => exact_of_parse parsed fits⟩
  rintro ⟨file, parsed⟩
  exact (parse_eq_ok parsed).2.2

/-- A file of two vectors of one element, and three bytes after them. -/
def twoVectors : Bytes := [2, 0, 0, 0, 1, 0, 0, 0, 0, 0, 128, 63, 1, 0, 192, 127, 9, 9, 9]

/-- The file is accepted. -/
theorem parse_accepts_two_vectors :
    twoVectors.length < UInt64.size ∧
      ((∃ file, parse "two" twoVectors = .ok file) ↔ WellFormed twoVectors) ∧
      ∃ file, parse "two" twoVectors = .ok file ∧ Exact twoVectors file := by
  have fits : twoVectors.length < UInt64.size := by decide
  obtain ⟨accepts, exacts⟩ := parse_accepts "two" fits
  obtain ⟨file, parsed⟩ := accepts.mpr ⟨by decide, by decide, by decide, by decide⟩
  exact ⟨fits, accepts, file, parsed, exacts file parsed⟩

end FlatFile

end GraphOffload
