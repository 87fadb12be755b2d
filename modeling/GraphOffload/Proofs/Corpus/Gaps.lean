import GraphOffload.Proofs.Corpus.Streams

/-!
# Streams over documents that cannot all be read

The vectors of some documents may be lost for good: whenever one of them is asked for there is the same
fault, and the cursor goes on as if it had been read. A stream over such documents brings what lies
before the first gap, and if its range goes on it fails there.

## Main definitions

* `GraphOffload.Record` : a document with its vector, or with the fault that stands in its place.
* `GraphOffload.Record.readable`, `GraphOffload.Record.gap?` : the documents before the first gap, and the
  fault at the gap.
* `GraphOffload.Cursor.Recites` : the records ahead of a cursor.
* `GraphOffload.VectorStream.Loads` : a read delivers from a vector, the rest of what was ahead stays.
* `GraphOffload.Corpus.Lossy` : a corpus of which some vectors are lost.

## Main results

* `GraphOffload.VectorStream.read_of_recites` : what one read comes to.
* `GraphOffload.VectorStream.readUpTo_of_recites` : all reads together bring what the range covers before
  the first gap, and fail there if it goes on.
* `GraphOffload.Corpus.Lossy.readPart_of_gap` : a part whose range goes over a gap cannot be read.
* `GraphOffload.Corpus.Lossy.exists_fault_of_readPart` : a part that starts at a vector fails only with
  the fault of a gap, or because it comes up short.
-/

namespace GraphOffload

/-- A document with its vector, or with the fault that stands in its place. -/
abbrev Record := DocId × Except Fault Elements

namespace Record

/-- The documents before the first gap. -/
def readable : List Record → List (DocId × Elements)
  | [] => []
  | (_, .error _) :: _ => []
  | (id, .ok vector) :: rest => (id, vector) :: readable rest

/-- The fault at the first gap, if there is one. -/
def gap? : List Record → Option Fault
  | [] => none
  | (_, .error fault) :: _ => some fault
  | (_, .ok _) :: rest => gap? rest

variable {records : List Record}

/-- What lies before the first gap are records. -/
theorem mem_of_mem_readable {doc : DocId × Elements} (mem : doc ∈ readable records) :
    (doc.1, .ok doc.2) ∈ records := by
  induction records with
  | nil => exact nomatch mem
  | cons record rest ih =>
    obtain ⟨id, fault | vector⟩ := record
    · exact nomatch mem
    · rcases List.mem_cons.mp mem with rfl | later
      · exact List.mem_cons_self
      · exact List.mem_cons_of_mem _ (ih later)

/-- The fault at the first gap is that of a record. -/
theorem exists_mem_of_gap? {fault : Fault} (at_gap : gap? records = some fault) :
    ∃ id, (id, .error fault) ∈ records := by
  induction records with
  | nil => exact nomatch at_gap
  | cons record rest ih =>
    obtain ⟨id, other | vector⟩ := record
    · obtain rfl := Option.some.inj at_gap
      exact ⟨id, List.mem_cons_self⟩
    · obtain ⟨id', mem⟩ := ih at_gap
      exact ⟨id', List.mem_cons_of_mem _ mem⟩

/-- No more documents lie before the first gap than before any other. -/
theorem gap_of_getElem? {number : Nat} {id : DocId} {fault : Fault}
    (lost : records[number]? = some (id, .error fault)) :
    (readable records).length ≤ number ∧ ∃ first, gap? records = some first := by
  induction records generalizing number with
  | nil => exact nomatch lost
  | cons record rest ih =>
    obtain ⟨id', other | vector⟩ := record
    · exact ⟨Nat.zero_le _, other, rfl⟩
    · cases number with
      | zero => simp at lost
      | succ number =>
        obtain ⟨few, first⟩ := ih lost
        exact ⟨Nat.succ_le_succ few, first⟩

end Record

variable {σ : Type} [Cursor σ] {records : List Record}

/-! ### Cursors -/

namespace Cursor

/-- A cursor gives the documents of records one after the other, and then none. Asked for the vector of
a document, once, it replies as the record says; it goes on in the same way, asked or not. -/
def Recites : List Record → σ → Prop
  | [], cursor => ∃ after, Cursor.nextDoc cursor = (.ok none, after)
  | (id, record) :: rest, cursor => ∃ stands, Cursor.nextDoc cursor = (.ok (some id), stands) ∧
    Recites rest stands ∧ ∃ after, Cursor.vector stands = (record, after) ∧ Recites rest after

/-- Passing over documents leaves those after them, gaps or not; there may be fewer. -/
theorem skip_of_recites {cursor : σ} (recites : Recites records cursor) (count : Nat) :
    ∃ after, skip count cursor = (.ok (decide (records.length < count)), after) ∧
      (count ≤ records.length → Recites (records.drop count) after) := by
  induction count generalizing records cursor with
  | zero => exact ⟨cursor, rfl, fun _ => recites⟩
  | succ count ih =>
    cases records with
    | nil =>
      obtain ⟨after, none_left⟩ := recites
      exact ⟨after, by simp [skip, none_left], fun h => by simp at h⟩
    | cons record rest =>
      obtain ⟨stands, found, later, _⟩ := recites
      obtain ⟨after, skipped, left⟩ := ih later
      refine ⟨after, ?_, fun h => left (Nat.le_of_succ_le_succ h)⟩
      simp [skip, found, skipped]

end Cursor

/-! ### Streams -/

namespace VectorStream

variable {stream : VectorStream σ}

/-- Taking the next vector ends the stream behind the last document, fails at a gap, and brings the vector
of a record otherwise. -/
theorem reload_of_recites (recites : Cursor.Recites records stream.cursor)
    (uniform : ∀ doc ∈ Record.readable records, 4 * doc.2.length = stream.width) :
    (records = [] ∧ ∃ cursor,
      stream.reload = (.ok false, { stream with cursor := cursor, exhausted := true })) ∨
    (∃ id fault rest cursor, records = (id, .error fault) :: rest ∧
      stream.reload = (.error fault, { stream with cursor := cursor })) ∨
    ∃ id vector rest cursor, records = (id, .ok vector) :: rest ∧ Cursor.Recites rest cursor ∧
      stream.reload = (.ok true, { stream with cursor := cursor, pending := Bytes.ofWords vector }) := by
  rcases records with _ | ⟨⟨id, fault | vector⟩, rest⟩
  · obtain ⟨after, none_left⟩ := recites
    exact .inl ⟨rfl, after, by simp only [reload, none_left]⟩
  · obtain ⟨stands, found, _, after, lost, _⟩ := recites
    exact .inr (.inl ⟨id, fault, rest, after, rfl, by simp only [reload, found, lost]⟩)
  · obtain ⟨stands, found, _, after, got, later⟩ := recites
    have width_eq : vector.length * 4 = stream.width := by
      rw [← uniform (id, vector) List.mem_cons_self, Nat.mul_comm]
    exact .inr (.inr ⟨id, vector, rest, after, rfl, later,
      by simp only [reload, found, got, width_eq, if_true]⟩)

omit [Cursor σ] in
/-- What is delivered of the current vector is its front, and as much is taken from the range. -/
theorem deliver_spec (some_pending : stream.pending ≠ []) (room : 0 < stream.remaining) {limit : Nat}
    (wanted : 0 < limit) :
    (stream.deliver limit).1 ≠ [] ∧
      stream.pending = (stream.deliver limit).1 ++ (stream.deliver limit).2.pending ∧
      stream.remaining = (stream.deliver limit).1.length + (stream.deliver limit).2.remaining := by
  have positive := List.length_pos_iff.mpr some_pending
  refine ⟨fun nothing => ?_, (List.take_append_drop _ _).symm, ?_⟩
  · have := congrArg List.length nothing
    simp only [deliver, List.length_take, List.length_nil] at this
    omega
  · simp only [deliver, List.length_take]
    omega

/-- A reading comes to the front of the bytes ahead, as many as there is room for; if there is room for
more, to the fault behind them. -/
def Reading.Brings (reading : Reading σ) (bytes : Bytes) (fault : Option Fault) (room : Nat) : Prop :=
  reading.bytes = bytes.take room ∧ reading.fault = if bytes.length < room then fault else none

/-- Reading goes on after some bytes of the current vector were delivered: as many are gone from what is
ahead as from the range.

**Proof sketch.** Bytes were delivered (`deliver_spec`), so that reading goes on; what is brought later
is cut off at what is left of the range, which is cutting off all of it at the range. -/
theorem brings_of_deliver {attempts : Nat} {loaded : VectorStream σ} {bytes : Bytes}
    {fault : Option Fault} {limit : Nat}
    (read_eq : stream.read stream.width = (.ok (loaded.deliver limit).1, (loaded.deliver limit).2))
    (some_pending : loaded.pending ≠ []) (room : 0 < loaded.remaining) (wanted : 0 < limit)
    (later : (readUpTo attempts (loaded.deliver limit).2).Brings
      ((loaded.deliver limit).2.pending ++ bytes) fault (loaded.deliver limit).2.remaining) :
    (readUpTo (attempts + 1) stream).Brings (loaded.pending ++ bytes) fault loaded.remaining := by
  obtain ⟨some_got, pending_eq, remaining_eq⟩ := deliver_spec some_pending room wanted
  generalize loaded.deliver limit = delivered at *
  obtain ⟨got, next⟩ := delivered
  obtain ⟨bytes_eq, fault_eq⟩ := later
  cases got with
  | nil => exact absurd rfl some_got
  | cons byte more =>
    have same : (byte :: more ++ (next.pending ++ bytes)).length <
        (byte :: more).length + next.remaining ↔
          (next.pending ++ bytes).length < next.remaining := by
      rw [List.length_append]
      exact Nat.add_lt_add_iff_left
    rw [pending_eq, remaining_eq, List.append_assoc]
    simp only [readUpTo, read_eq]
    refine ⟨?_, ?_⟩
    · rw [bytes_eq, List.take_length_add_append]
    · rw [fault_eq]
      exact if_congr same.symm rfl rfl

/-- A read of a stream delivers from another one that has bytes at hand. Those, and the records left to
that stream, are what was ahead of the first one. -/
structure Loads (stream : VectorStream σ) (records : List Record) (loaded : VectorStream σ)
    (left : List Record) : Prop where
  read_eq : stream.read stream.width =
    (.ok (loaded.deliver stream.width).1, (loaded.deliver stream.width).2)
  some_pending : loaded.pending ≠ []
  remaining_eq : loaded.remaining = stream.remaining
  width_eq : loaded.width = stream.width
  more : loaded.exhausted = false
  recites : Cursor.Recites left loaded.cursor
  uniform : ∀ doc ∈ Record.readable left, 4 * doc.2.length = stream.width
  gap_eq : Record.gap? left = Record.gap? records
  bytes_eq : loaded.pending ++ encodeVectors (Record.readable left) =
    stream.pending ++ encodeVectors (Record.readable records)

/-- One read of a stream that is not over comes to the end of the documents, or to a gap, or delivers bytes
of a vector: of the one at hand, or of the next one.

**Proof sketch.** By whether bytes are at hand. If not, the next record is taken up
(`reload_of_recites`): there is none, or it is a gap, or its vector is at hand then, and has bytes. -/
theorem read_of_recites (more : stream.exhausted = false)
    (recites : Cursor.Recites records stream.cursor)
    (uniform : ∀ doc ∈ Record.readable records, 4 * doc.2.length = stream.width)
    (positive : 0 < stream.width) (room : 0 < stream.remaining) :
    (stream.pending = [] ∧ records = [] ∧ ∃ after, stream.read stream.width = (.ok [], after)) ∨
    (stream.pending = [] ∧ ∃ id fault rest after, records = (id, .error fault) :: rest ∧
      stream.read stream.width = (.error fault, after)) ∨
    ∃ loaded left, stream.Loads records loaded left := by
  have busy : ¬ (stream.width = 0 ∨ stream.remaining = 0 ∨ stream.exhausted) := by
    simp only [more, Bool.false_eq_true, or_false, not_or]
    omega
  by_cases used_up : stream.pending = []
  · have empty : stream.pending.isEmpty = true := List.isEmpty_iff.mpr used_up
    rcases reload_of_recites recites uniform with ⟨rfl, after, ends⟩ |
      ⟨id, fault, rest, after, rfl, fails⟩ | ⟨id, vector, rest, after, rfl, later, takes⟩
    · refine .inl ⟨used_up, rfl, { stream with cursor := after, exhausted := true }, ?_⟩
      rw [read, if_neg busy, if_pos empty, ends]
    · refine .inr (.inl ⟨used_up, id, fault, rest, { stream with cursor := after }, rfl, ?_⟩)
      rw [read, if_neg busy, if_pos empty, fails]
    · obtain ⟨first, others⟩ := List.forall_mem_cons.mp uniform
      have width_eq : 4 * vector.length = stream.width := first
      have some_bytes : Bytes.ofWords vector ≠ [] := by
        rw [← List.length_pos_iff, Bytes.length_ofWords]
        omega
      refine .inr (.inr ⟨{ stream with cursor := after, pending := Bytes.ofWords vector }, rest,
        ?_, some_bytes, rfl, rfl, more, later, others, rfl, ?_⟩)
      · rw [read, if_neg busy, if_pos empty, takes]
      · rw [used_up]
        rfl
  · refine .inr (.inr ⟨stream, records,
      ?_, used_up, rfl, rfl, more, recites, uniform, rfl, rfl⟩)
    rw [read, if_neg busy, if_neg (by simpa using used_up)]

/-- **All reads together bring what the range covers before the first gap**, and fail there if the range
goes on.

**Proof sketch.** Induction on the number of reads. -/
theorem readUpTo_of_recites {attempts : Nat} (more : stream.exhausted = false)
    (recites : Cursor.Recites records stream.cursor)
    (uniform : ∀ doc ∈ Record.readable records, 4 * doc.2.length = stream.width)
    (lasting : ∀ fault, Record.gap? records = some fault → fault.kind ≠ .interrupted)
    (positive : 0 < stream.width) (enough : stream.remaining < attempts) :
    (readUpTo attempts stream).Brings (stream.pending ++ encodeVectors (Record.readable records))
      (Record.gap? records) stream.remaining := by
  induction attempts generalizing stream records with
  | zero => omega
  | succ attempts ih =>
    by_cases no_room : stream.remaining = 0
    · simp [readUpTo, read, no_room, Reading.Brings]
    have room : 0 < stream.remaining := Nat.pos_of_ne_zero no_room
    rcases read_of_recites more recites uniform positive room with
      ⟨used_up, rfl, after, ends⟩ | ⟨used_up, id, fault, rest, after, rfl, fails⟩ | ⟨loaded, left, loads⟩
    · simp [readUpTo, ends, used_up, Reading.Brings, Record.readable, Record.gap?]
    · simp [readUpTo, fails, lasting fault rfl, used_up, Reading.Brings, Record.readable, Record.gap?, room]
    · rw [← loads.bytes_eq, ← loads.gap_eq, ← loads.remaining_eq]
      rw [← loads.gap_eq] at lasting
      rw [← loads.remaining_eq] at room enough
      obtain ⟨some_got, _, taken⟩ := deliver_spec loads.some_pending room positive
      have := List.length_pos_iff.mpr some_got
      have width_eq : (loaded.deliver stream.width).2.width = stream.width := loads.width_eq
      refine brings_of_deliver loads.read_eq loads.some_pending room positive ?_
      exact ih loads.more loads.recites (fun doc mem => (loads.uniform doc mem).trans width_eq.symm) lasting
        (width_eq ▸ positive) (by omega)

end VectorStream

/-! ### Parts -/

namespace Corpus

open Record

/-- A corpus of which some vectors are lost: a fresh cursor gives its records, the vectors that are left
are as wide as its shape says, and a vector that is lost is not to be had by asking again. -/
structure Lossy (shape : CorpusShape) (records : List Record) (cursor : σ) : Prop where
  float32 : shape.elementType = .float32
  positive : 0 < shape.bytesPerVector.toNat
  recites : Cursor.Recites records cursor
  uniform : ∀ id vector, (id, .ok vector) ∈ records → 4 * vector.length = shape.bytesPerVector.toNat
  lasting : ∀ id fault, (id, .error fault) ∈ records → fault.kind ≠ .interrupted

namespace Lossy

variable {shape : CorpusShape} {cursor : σ} {part : Part}

/-- What is read of a part that starts at a vector.

**Proof sketch.** Passing over documents does not ask for their vectors, and so meets no gap. -/
theorem readPart_eq (lossy : Lossy shape records cursor)
    (aligned : shape.bytesPerVector.toNat ∣ part.offset.toNat) (key : String) :
    ∃ reading : VectorStream.Reading σ, Corpus.readPart ⟨shape, .ok cursor⟩ key part =
        part.receive key reading ∧
      reading.Brings
        (encodeVectors (readable (records.drop (part.offset.toNat / shape.bytesPerVector.toNat))))
        (gap? (records.drop (part.offset.toNat / shape.bytesPerVector.toNat))) part.length.toNat := by
  obtain ⟨float32, positive, recites, uniform, lasting⟩ := lossy
  have right : ¬ (shape.bytesPerVector.toNat = 0 ∨
      part.offset.toNat % shape.bytesPerVector.toNat ≠ 0) := by
    rw [Nat.mod_eq_zero_of_dvd aligned]
    omega
  obtain ⟨after, skipped, left⟩ :=
    Cursor.skip_of_recites recites (part.offset.toNat / shape.bytesPerVector.toNat)
  let stream : VectorStream σ := {
    cursor := after
    width := shape.bytesPerVector.toNat
    remaining := part.length.toNat
    exhausted := decide (records.length < part.offset.toNat / shape.bytesPerVector.toNat) }
  have streamed : Corpus.stream ⟨shape, .ok cursor⟩ part.offset (some part.length) = .ok stream := by
    simp [Corpus.stream, float32, VectorStream.start, if_neg right, skipped, stream]
  refine ⟨stream.readToEnd, ?_, ?_⟩
  · rw [readPart, streamed]
  have limit_pos : 0 < walkLimit := Nat.zero_lt_succ _
  by_cases past : records.length < part.offset.toNat / shape.bytesPerVector.toNat
  · have ended : stream.exhausted = true := decide_eq_true past
    obtain ⟨limit, limit_eq⟩ := Nat.exists_eq_add_one.mpr limit_pos
    rw [List.drop_eq_nil_of_le (Nat.le_of_lt past), VectorStream.readToEnd, limit_eq, ← Nat.add_assoc]
    have idles : stream.read stream.width = (.ok [], stream) := by
      rw [VectorStream.read, if_pos (.inr (.inr ended))]
    simp only [VectorStream.readUpTo, idles, readable, gap?, encodeVectors_nil]
    exact ⟨List.take_nil.symm, (ite_self _).symm⟩
  · have goes_on : stream.exhausted = false := decide_eq_false past
    refine VectorStream.readUpTo_of_recites goes_on (left (Nat.not_lt.mp past)) ?_ ?_ positive (by omega)
    · exact fun doc mem => uniform _ _ (List.mem_of_mem_drop (mem_of_mem_readable mem))
    · intro fault at_gap
      obtain ⟨id, mem⟩ := exists_mem_of_gap? at_gap
      exact lasting id fault (List.mem_of_mem_drop mem)

/-- **A part whose range goes over a gap cannot be read**, wherever it starts.

**Proof sketch.** Between the start of the part and the gap there are fewer bytes than the part is to
bring. -/
theorem readPart_of_gap (lossy : Lossy shape records cursor) {number : Nat} {id : DocId} {lost : Fault}
    (gap : records[number]? = some (id, .error lost))
    (before : part.offset.toNat ≤ number * shape.bytesPerVector.toNat)
    (beyond : number * shape.bytesPerVector.toNat < part.offset.toNat + part.length.toNat)
    (key : String) :
    ∃ failure, Corpus.readPart ⟨shape, .ok cursor⟩ key part = .error failure := by
  by_cases aligned : shape.bytesPerVector.toNat ∣ part.offset.toNat
  · obtain ⟨reading, read_eq, _, fault_eq⟩ := lossy.readPart_eq aligned key
    obtain ⟨first, first_eq⟩ := aligned
    rw [Nat.mul_comm] at first_eq
    rw [first_eq, Nat.mul_div_cancel _ lossy.positive] at fault_eq
    rw [first_eq] at before beyond
    have later : first ≤ number := Nat.le_of_mul_le_mul_right before lossy.positive
    have there : (records.drop first)[number - first]? = some (id, .error lost) := by
      rw [List.getElem?_drop, Nat.add_sub_cancel' later, gap]
    obtain ⟨few, fault, at_gap⟩ := gap_of_getElem? there
    have uniform : ∀ doc ∈ readable (records.drop first),
        4 * doc.2.length = shape.bytesPerVector.toNat := fun doc mem =>
      lossy.uniform _ _ (List.mem_of_mem_drop (mem_of_mem_readable mem))
    have short : (encodeVectors (readable (records.drop first))).length < part.length.toNat := by
      have bound := Nat.mul_le_mul_right shape.bytesPerVector.toNat few
      rw [Nat.sub_mul] at bound
      rw [length_encodeVectors uniform]
      omega
    rw [if_pos short, at_gap] at fault_eq
    obtain ⟨bytes, _, stream⟩ := reading
    obtain rfl := fault_eq
    exact ⟨_, read_eq⟩
  · exact ⟨_, readPart_of_misaligned lossy.float32 cursor aligned key⟩

/-- **A part that starts at a vector fails only because vectors are lost**: with the fault of a gap, or
since it comes up short. -/
theorem exists_fault_of_readPart (lossy : Lossy shape records cursor)
    (aligned : shape.bytesPerVector.toNat ∣ part.offset.toNat) {key : String} {failure : Failure}
    (failed : Corpus.readPart ⟨shape, .ok cursor⟩ key part = .error failure) :
    ∃ fault, failure = .transferFault key fault ∧
      ((∃ id, (id, .error fault) ∈ records) ∨ ∃ received, fault = part.shortFault received) := by
  obtain ⟨reading, read_eq, _, fault_eq⟩ := lossy.readPart_eq aligned key
  rw [read_eq] at failed
  obtain ⟨bytes, fault | fault, stream⟩ := reading
  · rw [Part.receive] at failed
    split at failed
    · cases failed
    · cases failed
      exact ⟨_, rfl, .inr ⟨_, rfl⟩⟩
  · cases failed
    dsimp only at fault_eq
    split at fault_eq
    · obtain ⟨id, mem⟩ := exists_mem_of_gap? fault_eq.symm
      exact ⟨fault, rfl, .inl ⟨id, List.mem_of_mem_drop mem⟩⟩
    · cases fault_eq

end Lossy

end Corpus

end GraphOffload
