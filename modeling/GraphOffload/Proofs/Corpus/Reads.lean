import GraphOffload.Proofs.Corpus.Streams

/-!
# Reads of any size

A stream is read with buffers of any size, and the next buffer may be smaller than a vector or larger
than the whole corpus. Whatever the sizes are, the reads hand out the range of the stream from its
front, byte by byte and without gap, so that ranges which follow one another are together the bytes of
the corpus.

## Main definitions

* `GraphOffload.Bytes.range` : the bytes that a range covers.
* `GraphOffload.VectorStream.reads` : reads with buffers of given sizes.
* `GraphOffload.VectorStream.Left` : what is left of the range of a stream.
* `GraphOffload.VectorStream.Serves` : what the reads of a stream bring, whatever their sizes.
* `GraphOffload.VectorStream.DrainsTo` : all that a stream brought before a read that brought nothing.
* `GraphOffload.VectorStream.Brings` : the same, for a stream over a fresh cursor.
* `GraphOffload.VectorStream.ServesRanges` : what the streams over the documents of a corpus bring.

## Main results

* `GraphOffload.VectorStream.read_of_left` : one read hands out the front of what is left.
* `GraphOffload.VectorStream.serves_of_left` : so do all reads together.
* `GraphOffload.VectorStream.start_serves` : a stream is opened at the start of a vector and nowhere
  else, and then serves its range.
-/

namespace GraphOffload

/-! ### Ranges -/

namespace Bytes

/-- The bytes that a range covers: from `offset` on as many as it asks for, or all of them if it does
not say how many, and in either case no more than there are. -/
def range (bytes : Bytes) (offset : UInt64) (length : Option UInt64) : Bytes :=
  let first := min offset.toNat bytes.length
  let last := match length with
    | some length => min (offset.toNat + length.toNat) bytes.length
    | none => bytes.length
  bytes.slice (first, last - first)

/-- A range that does not say how long it is covers all that 64 bits can count. -/
theorem range_eq {bytes : Bytes} (fits : bytes.length < UInt64.size) (offset : UInt64)
    (length : Option UInt64) :
    bytes.range offset length =
      (bytes.drop offset.toNat).take ((length.map UInt64.toNat).getD VectorStream.unbounded) := by
  have inside : bytes.length ≤ VectorStream.unbounded := Nat.le_sub_one_of_lt fits
  have first_eq : bytes.drop (min offset.toNat bytes.length) = bytes.drop offset.toNat := by
    rcases Nat.le_total offset.toNat bytes.length with within | past
    · rw [Nat.min_eq_left within]
    · rw [Nat.min_eq_right past, List.drop_length, List.drop_eq_nil_of_le past]
  cases length with
  | none =>
    simp only [range, slice, first_eq, Option.map_none, Option.getD_none]
    rw [List.take_eq_take_iff, List.length_drop]
    omega
  | some length =>
    simp only [range, slice, first_eq, Option.map_some, Option.getD_some]
    rw [List.take_eq_take_iff, List.length_drop]
    omega

end Bytes

namespace VectorStream

variable {σ : Type} [Cursor σ] {docs : List (DocId × Elements)} {stream : VectorStream σ}
  {bytes : Bytes}

/-! ### One read -/

/-- Reads with buffers of the given sizes, one after the other: what each of them brings, and the
stream after the last one. -/
def reads : List Nat → VectorStream σ → List (Except Fault Bytes) × VectorStream σ
  | [], stream => ([], stream)
  | limit :: limits, stream =>
    let (reply, stream) := stream.read limit
    let (replies, stream) := reads limits stream
    (reply :: replies, stream)

/-- No read brings more than its buffer holds. -/
theorem length_le_of_read {limit : Nat} {got : Bytes} {after : VectorStream σ}
    (read_eq : stream.read limit = (.ok got, after)) : got.length ≤ limit := by
  have delivered (stream : VectorStream σ) : (stream.deliver limit).1.length ≤ limit := by
    simp only [deliver, List.length_take]
    omega
  unfold read at read_eq
  split at read_eq
  · obtain rfl := Except.ok.inj (Prod.mk.inj read_eq).1
    exact Nat.zero_le limit
  · split at read_eq
    · split at read_eq
      · cases read_eq
      · obtain rfl := Except.ok.inj (Prod.mk.inj read_eq).1
        exact Nat.zero_le limit
      · obtain rfl := Except.ok.inj (Prod.mk.inj read_eq).1
        exact delivered _
    · obtain rfl := Except.ok.inj (Prod.mk.inj read_eq).1
      exact delivered _

/-- What is left of the range of a stream: of the bytes ahead as many as the range has left. -/
def Left (stream : VectorStream σ) (bytes : Bytes) : Prop :=
  0 < stream.width ∧ ∃ ahead, stream.Ahead ahead ∧ bytes = ahead.take stream.remaining

/-- **One read hands out the front of what is left.** It brings nothing only if its buffer is empty or
nothing is left. -/
theorem read_of_left (left : stream.Left bytes) (limit : Nat) :
    ∃ got rest after, stream.read limit = (.ok got, after) ∧ bytes = got ++ rest ∧ after.Left rest ∧
      got.length ≤ limit ∧ (got = [] ↔ limit = 0 ∨ bytes = []) := by
  obtain ⟨positive, ahead, is_ahead, rfl⟩ := left
  obtain ⟨got, after, read_eq, takes⟩ := read_of_ahead is_ahead positive limit
  obtain ⟨rest, rfl, rest_ahead⟩ := takes.front
  have fits := length_le_of_read read_eq
  have split : (got ++ rest).take stream.remaining = got ++ rest.take after.remaining := by
    rw [← takes.counted, List.take_length_add_append]
  refine ⟨got, rest.take after.remaining, after, read_eq, split,
    ⟨takes.width_eq ▸ positive, rest, rest_ahead, rfl⟩, fits, fun nothing => ?_, fun idle => ?_⟩
  · rcases takes.none_left nothing with empty | used_up | ended
    · exact .inl empty
    · exact .inr (by rw [used_up, List.take_zero])
    · exact .inr (by rw [ended, List.take_nil])
  · rcases idle with rfl | ended
    · exact List.length_eq_zero_iff.mp (Nat.le_zero.mp fits)
    · exact (List.append_eq_nil_iff.mp (split.symm.trans ended)).1

/-! ### Many reads -/

/-- What the reads of a stream bring, whatever their sizes. -/
structure Serves (stream : VectorStream σ) (range : Bytes) : Prop where
  /-- No read fails, and all together bring the front of the range. -/
  front : ∀ limits, ∃ pieces : List Bytes,
    (stream.reads limits).1 = pieces.map .ok ∧ pieces.flatten <+: range
  /-- No read brings more than its buffer holds. -/
  fits : ∀ limits limit (pieces : List Bytes) (piece : Bytes),
    (stream.reads (limits ++ [limit])).1 = (pieces ++ [piece]).map .ok → piece.length ≤ limit
  /-- Until the whole range was delivered a read brings something, if its buffer has room. -/
  advances : ∀ limits limit (pieces : List Bytes) (piece : Bytes),
    (stream.reads (limits ++ [limit])).1 = (pieces ++ [piece]).map .ok → 0 < limit →
      pieces.flatten ≠ range → piece ≠ []
  /-- When it was delivered no read brings anything. -/
  ends : ∀ limits limit (pieces : List Bytes) (piece : Bytes),
    (stream.reads (limits ++ [limit])).1 = (pieces ++ [piece]).map .ok →
      pieces.flatten = range → piece = []

/-- Many reads hand out the front of what is left, and leave the rest. -/
theorem reads_of_left (left : stream.Left bytes) (limits : List Nat) :
    ∃ (pieces : List Bytes) (rest : Bytes) (after : VectorStream σ),
      stream.reads limits = (pieces.map .ok, after) ∧
      bytes = pieces.flatten ++ rest ∧ after.Left rest := by
  induction limits generalizing stream bytes with
  | nil => exact ⟨[], bytes, stream, rfl, rfl, left⟩
  | cons limit limits ih =>
    obtain ⟨got, rest, next, read_eq, rfl, left', _⟩ := read_of_left left limit
    obtain ⟨pieces, rest', after, reads_eq, rfl, left''⟩ := ih left'
    refine ⟨got :: pieces, rest', after, ?_, by simp, left''⟩
    simp [reads, read_eq, reads_eq]

/-- Reads go on where those before them have stopped. -/
theorem reads_append (front back : List Nat) (stream : VectorStream σ) :
    stream.reads (front ++ back) =
      ((stream.reads front).1 ++ ((stream.reads front).2.reads back).1,
        ((stream.reads front).2.reads back).2) := by
  induction front generalizing stream with
  | nil => rfl
  | cons limit front ih => simp [reads, ih]

/-- The last of many reads hands out the front of what those before it left. -/
theorem last_of_left (left : stream.Left bytes) {limits : List Nat} {limit : Nat} {pieces : List Bytes}
    {piece : Bytes} (reads_eq : (stream.reads (limits ++ [limit])).1 = (pieces ++ [piece]).map .ok) :
    ∃ rest, bytes = pieces.flatten ++ rest ∧ piece.length ≤ limit ∧
      (piece = [] ↔ limit = 0 ∨ rest = []) := by
  obtain ⟨pieces', rest, after, front_eq, rfl, left'⟩ := reads_of_left left limits
  obtain ⟨got, _, last, read_eq, _, _, fits, empty_iff⟩ := read_of_left left' limit
  have replies_eq : (stream.reads (limits ++ [limit])).1 = (pieces' ++ [got]).map .ok := by
    simp [reads_append, front_eq, reads, read_eq]
  have same : pieces' ++ [got] = pieces ++ [piece] :=
    List.map_injective_iff.mpr (fun _ _ => Except.ok.inj) (replies_eq.symm.trans reads_eq)
  obtain ⟨rfl, rfl⟩ := List.append_singleton_inj.mp same
  exact ⟨rest, rfl, fits, empty_iff⟩

/-- **A stream serves what is left of its range.** -/
theorem serves_of_left (left : stream.Left bytes) : stream.Serves bytes where
  front limits := by
    obtain ⟨pieces, rest, after, reads_eq, rfl, _⟩ := reads_of_left left limits
    exact ⟨pieces, by rw [reads_eq], List.prefix_append _ _⟩
  fits _ _ _ _ reads_eq := by
    obtain ⟨_, _, fits, _⟩ := last_of_left left reads_eq
    exact fits
  advances _ _ _ _ reads_eq room undelivered nothing := by
    obtain ⟨rest, rfl, _, empty_iff⟩ := last_of_left left reads_eq
    rcases empty_iff.mp nothing with empty | rfl
    · omega
    · exact undelivered (List.append_nil _).symm
  ends _ _ _ _ reads_eq delivered := by
    obtain ⟨rest, split, _, empty_iff⟩ := last_of_left left reads_eq
    exact empty_iff.mpr (.inr (List.append_right_eq_self.mp (split.symm.trans delivered.symm)))

/-- All that a stream brought, in reads of any sizes, before a read that had room and brought
nothing. -/
def DrainsTo (stream : VectorStream σ) (bytes : Bytes) : Prop :=
  ∃ (limits : List Nat) (limit : Nat) (pieces : List Bytes), 0 < limit ∧
    (stream.reads (limits ++ [limit])).1 = (pieces ++ [[]]).map .ok ∧ pieces.flatten = bytes

/-- A stream drains to its range and to nothing else. -/
theorem Serves.eq_of_drainsTo {range : Bytes} (serves : stream.Serves range)
    (drains : stream.DrainsTo bytes) : bytes = range := by
  obtain ⟨limits, limit, pieces, room, reads_eq, rfl⟩ := drains
  by_contra undelivered
  exact serves.advances limits limit pieces [] reads_eq room undelivered rfl

/-- A stream can be drained.

**Proof sketch.** Induction on the number of bytes left; a read with room for one byte takes one. -/
theorem drainsTo_of_left (left : stream.Left bytes) : stream.DrainsTo bytes := by
  induction length : bytes.length using Nat.strong_induction_on generalizing stream bytes with
  | _ count ih =>
    obtain ⟨got, rest, after, read_eq, rfl, left', _, empty_iff⟩ := read_of_left left 1
    by_cases nothing : got = []
    · have ended : got ++ rest = [] := (empty_iff.mp nothing).resolve_left Nat.one_ne_zero
      refine ⟨[], 1, [], Nat.one_pos, ?_, ended.symm⟩
      simp [reads, read_eq, nothing]
    · have fewer : rest.length < count := by
        have := List.length_pos_iff.mpr nothing
        rw [← length, List.length_append]
        omega
      obtain ⟨limits, limit, pieces, room, reads_eq, rfl⟩ := ih _ fewer left' rfl
      refine ⟨1 :: limits, limit, got :: pieces, room, ?_, rfl⟩
      simp [reads, read_eq, reads_eq]

/-! ### Ranges of a corpus -/

/-- A stream that starts at a vector has its range left. -/
theorem left_of_start {cursor : σ} {bytesPerVector : UInt64} (yields : Cursor.Yields docs cursor)
    (uniform : ∀ doc ∈ docs, 4 * doc.2.length = bytesPerVector.toNat)
    (positive : 0 < bytesPerVector.toNat) (fits : (encodeVectors docs).length < UInt64.size)
    {offset : UInt64} (aligned : bytesPerVector.toNat ∣ offset.toNat) (length : Option UInt64) :
    ∃ stream, start cursor bytesPerVector offset length = .ok stream ∧
      stream.Left ((encodeVectors docs).range offset length) := by
  obtain ⟨stream, started, ahead, width_pos, remaining_eq⟩ :=
    start_of_yields yields uniform positive aligned length
  exact ⟨stream, started, width_pos, _, ahead, by rw [Bytes.range_eq fits, remaining_eq]⟩

variable (σ) in
/-- What a stream over a fresh cursor brought until it brought nothing more. -/
def Brings (docs : List (DocId × Elements)) (bytesPerVector offset : UInt64) (length : Option UInt64)
    (bytes : Bytes) : Prop :=
  ∃ cursor : σ, Cursor.Yields docs cursor ∧
    ∃ stream, start cursor bytesPerVector offset length = .ok stream ∧ stream.DrainsTo bytes

variable (σ) in
/-- What the streams over the documents of a corpus bring. -/
structure ServesRanges (docs : List (DocId × Elements)) (bytesPerVector : UInt64) : Prop where
  /-- Every stream that starts at a vector serves its range, and is drained by it. -/
  range : ∀ cursor : σ, Cursor.Yields docs cursor →
    ∀ (offset : UInt64) (length : Option UInt64), bytesPerVector.toNat ∣ offset.toNat →
      ∃ stream, start cursor bytesPerVector offset length = .ok stream ∧
        stream.Serves ((encodeVectors docs).range offset length) ∧
        stream.DrainsTo ((encodeVectors docs).range offset length)
  /-- What streams of their own bring from each place to the next is what one stream brings. -/
  partition : ∀ places : List UInt64, places.Pairwise (· ≤ ·) → places.head? = some 0 →
    places.getLast?.map UInt64.toNat = some (encodeVectors docs).length →
    (∀ place ∈ places, bytesPerVector.toNat ∣ place.toNat) →
      ∀ pieces whole,
        List.Forall₂ (fun (extent : UInt64 × UInt64) piece =>
          Brings σ docs bytesPerVector extent.1 (some (extent.2 - extent.1)) piece)
          (places.zip places.tail) pieces →
        Brings σ docs bytesPerVector 0 none whole → pieces.flatten = whole

/-- A stream over a fresh cursor brings its range and nothing else. -/
theorem Brings.eq_range {bytesPerVector offset : UInt64} {length : Option UInt64}
    (brings : Brings σ docs bytesPerVector offset length bytes)
    (uniform : ∀ doc ∈ docs, 4 * doc.2.length = bytesPerVector.toNat)
    (positive : 0 < bytesPerVector.toNat) (fits : (encodeVectors docs).length < UInt64.size)
    (aligned : bytesPerVector.toNat ∣ offset.toNat) :
    bytes = (encodeVectors docs).range offset length := by
  obtain ⟨cursor, yields, stream, started, drains⟩ := brings
  obtain ⟨stream', started', left⟩ := left_of_start yields uniform positive fits aligned length
  obtain rfl : stream = stream' := Except.ok.inj (started.symm.trans started')
  exact (serves_of_left left).eq_of_drainsTo drains

/-- What streams bring from each place to the next, the last of which is the end of the corpus, is
what follows the first place.

**Proof sketch.** Induction on the places: the range up to the second place, and what follows it. -/
theorem flatten_of_brings {bytesPerVector : UInt64} {place : UInt64} {places : List UInt64}
    {pieces : List Bytes} (uniform : ∀ doc ∈ docs, 4 * doc.2.length = bytesPerVector.toNat)
    (positive : 0 < bytesPerVector.toNat) (fits : (encodeVectors docs).length < UInt64.size)
    (increasing : (place :: places).Pairwise (· ≤ ·))
    (ends : (place :: places).getLast?.map UInt64.toNat = some (encodeVectors docs).length)
    (aligned : ∀ at_vector ∈ place :: places, bytesPerVector.toNat ∣ at_vector.toNat)
    (brings : List.Forall₂ (fun (extent : UInt64 × UInt64) piece =>
      Brings σ docs bytesPerVector extent.1 (some (extent.2 - extent.1)) piece)
      ((place :: places).zip places) pieces) :
    pieces.flatten = (encodeVectors docs).drop place.toNat := by
  induction places generalizing place pieces with
  | nil =>
    have at_end : place.toNat = (encodeVectors docs).length := by simpa using ends
    cases brings
    rw [at_end, List.drop_length, List.flatten_nil]
  | cons next places ih =>
    obtain ⟨least, increasing⟩ := List.pairwise_cons.mp increasing
    obtain ⟨place_aligned, aligned⟩ := List.forall_mem_cons.mp aligned
    rw [List.getLast?_cons_cons] at ends
    cases brings with
    | @cons _ piece _ pieces first others =>
      have ordered : place ≤ next := least next List.mem_cons_self
      have width_eq : (next - place).toNat = next.toNat - place.toNat :=
        UInt64.toNat_sub_of_le _ _ ordered
      have forward : place.toNat + (next.toNat - place.toNat) = next.toNat :=
        Nat.add_sub_cancel' (UInt64.le_iff_toNat_le.mp ordered)
      have piece_eq := first.eq_range uniform positive fits place_aligned
      rw [Bytes.range_eq fits, Option.map_some, Option.getD_some, width_eq] at piece_eq
      have later : (encodeVectors docs).drop next.toNat =
          ((encodeVectors docs).drop place.toNat).drop (next.toNat - place.toNat) := by
        rw [List.drop_drop, forward]
      rw [List.flatten_cons, ih increasing ends aligned others, piece_eq, later,
        List.take_append_drop]

/-- **A stream is opened at the start of a vector and nowhere else, and then serves its range.** Its
reads bring the bytes of the range in their order, whatever the sizes of their buffers are, and ranges
that follow one another are together what one stream brings.

**Proof sketch.** What is left of a range shrinks from the front with each read. A place that is not
the start of a vector is refused before the cursor is moved. -/
theorem start_serves :
    (∀ (cursor : σ) (bytesPerVector offset : UInt64) (length : Option UInt64),
      bytesPerVector = 0 ∨ ¬ bytesPerVector.toNat ∣ offset.toNat →
        start cursor bytesPerVector offset length =
          .error ⟨.invalidRange offset.toNat bytesPerVector.toNat, some cursor⟩) ∧
    (∀ (docs : List (DocId × Elements)) (dimension : Nat) (bytesPerVector : UInt64),
      0 < dimension → bytesPerVector.toNat = 4 * dimension →
      (∀ doc ∈ docs, doc.2.length = dimension) → 4 * dimension * docs.length < UInt64.size →
        ServesRanges σ docs bytesPerVector) ∧
    ∀ (corpus : Corpus σ) (cursor : σ), corpus.shape.elementType = .float32 →
      corpus.openCursor = .ok cursor → ∀ (offset : UInt64) (length : Option UInt64),
        corpus.stream offset length = start cursor corpus.shape.bytesPerVector offset length := by
  refine ⟨fun cursor bytesPerVector offset length refused => ?_,
    fun docs dimension bytesPerVector dimension_pos width_eq same_dimension small => ?_,
    fun corpus cursor float32 opened offset length => by simp [Corpus.stream, float32, opened]⟩
  · have invalid : bytesPerVector.toNat = 0 ∨ offset.toNat % bytesPerVector.toNat ≠ 0 := by
      rcases refused with rfl | misplaced
      · exact .inl rfl
      · exact .inr fun even => misplaced (Nat.dvd_of_mod_eq_zero even)
    simp only [start, if_pos invalid]
  · have positive : 0 < bytesPerVector.toNat := by omega
    have uniform : ∀ doc ∈ docs, 4 * doc.2.length = bytesPerVector.toNat := by
      intro doc mem
      rw [same_dimension doc mem, width_eq]
    have length_eq : (encodeVectors docs).length = 4 * dimension * docs.length := by
      rw [length_encodeVectors uniform, width_eq, Nat.mul_comm]
    have fits : (encodeVectors docs).length < UInt64.size := length_eq ▸ small
    constructor
    · intro cursor yields offset length aligned
      obtain ⟨stream, started, left⟩ := left_of_start yields uniform positive fits aligned length
      exact ⟨stream, started, serves_of_left left, drainsTo_of_left left⟩
    · intro places increasing starts ends aligned pieces whole brings brings_whole
      cases places with
      | nil => simp at starts
      | cons place places =>
        obtain rfl : place = 0 := by simpa using starts
        have whole_eq := brings_whole.eq_range uniform positive fits (Nat.dvd_zero _)
        have inside : (encodeVectors docs).length ≤ unbounded := Nat.le_sub_one_of_lt fits
        rw [flatten_of_brings uniform positive fits increasing ends aligned brings, whole_eq,
          Bytes.range_eq fits, Option.map_none, Option.getD_none,
          List.take_of_length_le (by rw [List.length_drop]; omega)]

/-- Two vectors of one element each, read in memory. -/
theorem start_serves_two_vectors :
    start (⟨[], none⟩ : MemoryCursor) 4 6 none = .error ⟨.invalidRange 6 4, some ⟨[], none⟩⟩ ∧
    ServesRanges MemoryCursor [(0, [1]), (1, [2])] 4 ∧
    (Corpus.mk { dimension := 1, liveCount := 2 } (.ok (⟨[], none⟩ : MemoryCursor))).stream 0 none =
      start ⟨[], none⟩ 4 0 none :=
  ⟨start_serves.1 _ 4 6 none (.inr (by decide)),
    start_serves.2.1 [(0, [1]), (1, [2])] 1 4 (by decide) (by decide) (by decide) (by decide),
    start_serves.2.2 _ _ rfl rfl 0 none⟩

end VectorStream

end GraphOffload
