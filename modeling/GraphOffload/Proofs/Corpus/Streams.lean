import GraphOffload.Corpus.Stream
import GraphOffload.Proofs.Corpus.Lawful
import GraphOffload.Proofs.Transfer.Tiling

/-!
# What a stream of vectors brings

A stream over a lawful corpus brings the bytes of its vectors, from the vector where it starts to
where its range ends or the corpus does. So a part of an upload that starts at a vector is the slice
of all bytes that its extent says, whichever pass it is read in.

## Main definitions

* `GraphOffload.VectorStream.Ahead` : the bytes that a stream would bring if its range had no end.

## Main results

* `GraphOffload.VectorStream.read_of_ahead` : one read takes bytes from the front of what is ahead.
* `GraphOffload.VectorStream.readToEnd_of_ahead` : all reads together take what the range covers.
* `GraphOffload.VectorStream.start_of_yields` : a stream starts where it was asked to.
* `GraphOffload.Corpus.readPart_of_aligned` : a part is the slice of its extent.
* `GraphOffload.Corpus.eq_slice_of_readPart` : so is whatever a part brings, also of a corpus whose
  shape is wrong about the number of its documents.
-/

namespace GraphOffload

variable {σ : Type} [Cursor σ] {docs : List (DocId × Elements)}

namespace VectorStream

variable {stream : VectorStream σ} {bytes : Bytes}

/-- The bytes that a stream would bring if its range had no end: what is left of the current vector,
and the vectors of the documents ahead. -/
inductive Ahead (stream : VectorStream σ) : Bytes → Prop
  | reading {docs : List (DocId × Elements)} (more : stream.exhausted = false)
    (yields : Cursor.Yields docs stream.cursor)
    (uniform : ∀ doc ∈ docs, 4 * doc.2.length = stream.width) :
    Ahead stream (stream.pending ++ encodeVectors docs)
  | ended (seen : stream.exhausted = true) : Ahead stream []

/-! ### Reads -/

/-- What a read gives takes bytes from the front of what is ahead, and as many from the range. It
gives none only if none was asked for or none is left. -/
structure Takes (stream : VectorStream σ) (bytes : Bytes) (limit : Nat) (got : Bytes)
    (after : VectorStream σ) : Prop where
  width_eq : after.width = stream.width
  front : ∃ rest, bytes = got ++ rest ∧ after.Ahead rest
  counted : got.length + after.remaining = stream.remaining
  none_left : got = [] → limit = 0 ∨ stream.remaining = 0 ∨ bytes = []

/-- What is delivered of the current vector is taken from its front. -/
theorem takes_deliver (more : stream.exhausted = false) (yields : Cursor.Yields docs stream.cursor)
    (uniform : ∀ doc ∈ docs, 4 * doc.2.length = stream.width) (some_pending : stream.pending ≠ [])
    (limit : Nat) :
    stream.Takes (stream.pending ++ encodeVectors docs) limit (stream.deliver limit).1
      (stream.deliver limit).2 := by
  have positive := List.length_pos_iff.mpr some_pending
  have split := List.take_append_drop (min (min stream.pending.length limit) stream.remaining)
    stream.pending
  refine ⟨rfl, ⟨_, ?_, .reading more yields uniform⟩, ?_, fun nothing => ?_⟩
  · simp only [deliver]
    rw [← List.append_assoc, split]
  · simp only [deliver, List.length_take]
    omega
  · have := congrArg List.length nothing
    simp only [deliver, List.length_take, List.length_nil] at this
    omega

/-- With no vector at hand, the next one is taken if there is one. -/
theorem reload_of_yields (yields : Cursor.Yields docs stream.cursor)
    (uniform : ∀ doc ∈ docs, 4 * doc.2.length = stream.width) :
    (docs = [] ∧ ∃ cursor,
      stream.reload = (.ok false, { stream with cursor := cursor, exhausted := true })) ∨
    ∃ doc rest cursor, docs = doc :: rest ∧ Cursor.Yields rest cursor ∧
      stream.reload = (.ok true, { stream with cursor := cursor, pending := Bytes.ofWords doc.2 }) := by
  cases docs with
  | nil =>
    obtain ⟨after, none_left⟩ := yields
    exact .inl ⟨rfl, after, by simp [reload, none_left]⟩
  | cons doc rest =>
    obtain ⟨stands, found, _, after, loaded, later⟩ := yields
    have width_eq : doc.2.length * 4 = stream.width := by
      rw [← uniform doc List.mem_cons_self, Nat.mul_comm]
    exact .inr ⟨doc, rest, after, rfl, later, by simp [reload, found, loaded, width_eq]⟩

/-- **One read takes bytes from the front of what is ahead.**

**Proof sketch.** If the current vector is used up the next one is loaded, or the end of the corpus is
seen. A vector is not empty, so that a read that may bring something does. -/
theorem read_of_ahead (ahead : stream.Ahead bytes) (positive : 0 < stream.width) (limit : Nat) :
    ∃ got after, stream.read limit = (.ok got, after) ∧ stream.Takes bytes limit got after := by
  by_cases idle : limit = 0 ∨ stream.remaining = 0 ∨ stream.exhausted
  · refine ⟨[], stream, by rw [read, if_pos idle], rfl, ⟨bytes, rfl, ahead⟩, Nat.zero_add _, fun _ => ?_⟩
    refine idle.imp_right (Or.imp_right fun seen => ?_)
    cases ahead with
    | reading more => simp [more] at seen
    | ended => rfl
  rw [read, if_neg idle]
  simp only [not_or, Bool.not_eq_true] at idle
  cases ahead with
  | ended seen => simp [seen] at idle
  | @reading docs more yields uniform =>
    by_cases used_up : stream.pending = []
    · rw [if_pos (List.isEmpty_iff.mpr used_up)]
      rcases reload_of_yields yields uniform with ⟨rfl, cursor, none_left⟩ |
        ⟨doc, rest, cursor, rfl, later, loaded⟩
      · rw [none_left]
        refine ⟨[], _, rfl, rfl, ⟨[], by simp [used_up], .ended rfl⟩, Nat.zero_add _, fun _ => ?_⟩
        simp [used_up]
      · rw [loaded]
        obtain ⟨first, others⟩ := List.forall_mem_cons.mp uniform
        have some_pending : Bytes.ofWords doc.2 ≠ [] := by
          rw [← List.length_pos_iff, Bytes.length_ofWords]
          omega
        have takes := @takes_deliver _ _ _
          { stream with cursor := cursor, pending := Bytes.ofWords doc.2 }
          more later others some_pending limit
        rw [encodeVectors_cons, used_up, List.nil_append]
        exact ⟨_, _, rfl, takes.width_eq, takes.front, takes.counted, takes.none_left⟩
    · rw [if_neg (by simpa using used_up)]
      exact ⟨_, _, rfl, takes_deliver more yields uniform used_up limit⟩

/-! ### Reading to the end -/

/-- Enough reads together take what the range covers.

**Proof sketch.** Induction on the number of reads: one that brings something shortens the range, and
after one that brings nothing there is nothing left to take. -/
theorem readUpTo_of_ahead {attempts : Nat} (ahead : stream.Ahead bytes) (positive : 0 < stream.width)
    (enough : stream.remaining < attempts) :
    ∃ after, readUpTo attempts stream = ⟨bytes.take stream.remaining, none, after⟩ := by
  induction attempts generalizing stream bytes with
  | zero => omega
  | succ attempts ih =>
    obtain ⟨got, next, read_eq, takes⟩ := read_of_ahead ahead positive stream.width
    obtain ⟨rest, rfl, ahead'⟩ := takes.front
    have counted := takes.counted
    cases got with
    | nil =>
      refine ⟨next, ?_⟩
      simp only [readUpTo, read_eq]
      rcases takes.none_left rfl with no_width | no_range | nothing
      · omega
      · simp [no_range]
      · simp [nothing]
    | cons byte more =>
      simp only [List.length_cons] at counted
      obtain ⟨after, reads_eq⟩ := ih ahead' (takes.width_eq ▸ positive) (by omega)
      refine ⟨after, ?_⟩
      have range_eq : stream.remaining = (byte :: more).length + next.remaining := takes.counted.symm
      simp only [readUpTo, read_eq, reads_eq]
      rw [range_eq, List.take_length_add_append]

/-- **All reads together take what the range covers.** -/
theorem readToEnd_of_ahead (ahead : stream.Ahead bytes) (positive : 0 < stream.width) :
    ∃ after, stream.readToEnd = ⟨bytes.take stream.remaining, none, after⟩ := by
  have limit_pos : 0 < walkLimit := Nat.zero_lt_succ _
  exact readUpTo_of_ahead ahead positive (by omega)

/-! ### Starts -/

/-- **A stream starts where it was asked to**, if that is the start of a vector; past the end of the
corpus nothing is ahead. -/
theorem start_of_yields {cursor : σ} {bytesPerVector offset : UInt64}
    (yields : Cursor.Yields docs cursor)
    (uniform : ∀ doc ∈ docs, 4 * doc.2.length = bytesPerVector.toNat)
    (positive : 0 < bytesPerVector.toNat) (aligned : bytesPerVector.toNat ∣ offset.toNat)
    (length : Option UInt64) :
    ∃ stream, start cursor bytesPerVector offset length = .ok stream ∧
      stream.Ahead ((encodeVectors docs).drop offset.toNat) ∧ 0 < stream.width ∧
      stream.remaining = (length.map UInt64.toNat).getD unbounded := by
  obtain ⟨count, offset_eq⟩ := aligned
  have in_vectors : offset.toNat / bytesPerVector.toNat = count := by
    rw [offset_eq, Nat.mul_div_cancel_left _ positive]
  have right : ¬ (bytesPerVector.toNat = 0 ∨ offset.toNat % bytesPerVector.toNat ≠ 0) := by
    rw [offset_eq, Nat.mul_mod_right]
    omega
  obtain ⟨after, skipped, left⟩ := Cursor.skip_of_yields yields count
  simp only [start, if_neg right, in_vectors, skipped]
  refine ⟨_, rfl, ?_, positive, rfl⟩
  rw [offset_eq, Nat.mul_comm, drop_encodeVectors uniform]
  by_cases past : docs.length < count
  · rw [List.drop_eq_nil_of_le (Nat.le_of_lt past)]
    exact .ended (decide_eq_true past)
  · exact .reading (decide_eq_false past) (left (Nat.not_lt.mp past))
      fun doc mem => uniform doc (List.mem_of_mem_drop mem)

end VectorStream

/-! ### Parts -/

namespace Corpus

variable {shape : CorpusShape} {cursor : σ}

/-- **A part is the slice of its extent**, if it starts at a vector and ends within the vectors. -/
theorem readPart_of_aligned (float32 : shape.elementType = .float32)
    (positive : 0 < shape.bytesPerVector.toNat)
    (uniform : ∀ doc ∈ docs, 4 * doc.2.length = shape.bytesPerVector.toNat)
    (yields : Cursor.Yields docs cursor) {part : Part}
    (aligned : shape.bytesPerVector.toNat ∣ part.offset.toNat)
    (inside : part.offset.toNat + part.length.toNat ≤ (encodeVectors docs).length) (key : String) :
    ∃ data : part.Data, Corpus.readPart ⟨shape, .ok cursor⟩ key part = .ok data ∧
      data.val = Bytes.slice (encodeVectors docs) part.extent := by
  obtain ⟨stream, started, ahead, width_pos, range_eq⟩ :=
    VectorStream.start_of_yields yields uniform positive aligned (some part.length)
  obtain ⟨after, reading⟩ := VectorStream.readToEnd_of_ahead ahead width_pos
  have whole : (((encodeVectors docs).drop part.offset.toNat).take part.length.toNat).length =
      part.length.toNat := by
    rw [List.length_take, List.length_drop]
    omega
  refine ⟨⟨_, whole⟩, ?_, rfl⟩
  have streamed : Corpus.stream ⟨shape, .ok cursor⟩ part.offset (some part.length) = .ok stream := by
    simp [Corpus.stream, float32, started]
  rw [range_eq, Option.map_some, Option.getD_some] at reading
  rw [readPart, streamed]
  dsimp only
  rw [reading]
  exact dif_pos whole

/-- The same for a corpus whose shape is right about its documents. -/
theorem readPart_of_yields (describes : shape.Describes docs) (some_doc : docs ≠ [])
    (yields : Cursor.Yields docs cursor) {part : Part}
    (aligned : shape.bytesPerVector.toNat ∣ part.offset.toNat)
    (inside : part.offset.toNat + part.length.toNat ≤ shape.totalBytes.toNat) (key : String) :
    ∃ data : part.Data, Corpus.readPart ⟨shape, .ok cursor⟩ key part = .ok data ∧
      data.val = Bytes.slice (encodeVectors docs) part.extent := by
  have positive : 0 < shape.bytesPerVector.toNat := by
    have := describes.positive
    rw [describes.toNat_bytesPerVector some_doc]
    omega
  rw [← describes.length_encodeVectors] at inside
  exact readPart_of_aligned describes.float32 positive describes.uniform yields aligned inside key

/-- A part that does not start at a vector is refused. -/
theorem readPart_of_misaligned (float32 : shape.elementType = .float32) (cursor : σ) {part : Part}
    (misaligned : ¬ shape.bytesPerVector.toNat ∣ part.offset.toNat) (key : String) :
    Corpus.readPart ⟨shape, .ok cursor⟩ key part =
      .error (.invalidRange part.offset.toNat shape.bytesPerVector.toNat) := by
  have wrong : shape.bytesPerVector.toNat = 0 ∨ part.offset.toNat % shape.bytesPerVector.toNat ≠ 0 :=
    .inr fun divides => misaligned (Nat.dvd_of_mod_eq_zero divides)
  have float32' : ¬ shape.elementType ≠ .float32 := not_not_intro float32
  rw [readPart, Corpus.stream, if_neg float32']
  dsimp only
  rw [VectorStream.start, if_pos wrong]

/-- **What a part brings is the slice of its extent**, however many documents the shape speaks of: a
stream starts at a vector or not at all, and a part that comes up short is refused.

**Proof sketch.** A part that was read had a stream, so that its offset is at a vector. Such a stream
(`VectorStream.start_of_yields`) brings the slice or what there is of it
(`VectorStream.readToEnd_of_ahead`), and only a whole one is received. -/
theorem eq_slice_of_readPart (uniform : ∀ doc ∈ docs, 4 * doc.2.length = shape.bytesPerVector.toNat)
    (yields : Cursor.Yields docs cursor) {key : String} {part : Part} {data : part.Data}
    (read : Corpus.readPart ⟨shape, .ok cursor⟩ key part = .ok data) :
    0 < shape.bytesPerVector.toNat ∧ data.val = Bytes.slice (encodeVectors docs) part.extent := by
  have float32 : ¬ shape.elementType ≠ .float32 := by
    intro other
    rw [readPart, stream, if_pos other] at read
    exact nomatch read
  have opened (length : Option UInt64) : Corpus.stream ⟨shape, .ok cursor⟩ part.offset length =
      VectorStream.start cursor shape.bytesPerVector part.offset length := if_neg float32
  have right : ¬ (shape.bytesPerVector.toNat = 0 ∨
      part.offset.toNat % shape.bytesPerVector.toNat ≠ 0) := by
    intro wrong
    rw [readPart, opened, VectorStream.start, if_pos wrong] at read
    exact nomatch read
  have positive : 0 < shape.bytesPerVector.toNat := by omega
  have aligned : shape.bytesPerVector.toNat ∣ part.offset.toNat := Nat.dvd_of_mod_eq_zero (by omega)
  obtain ⟨stream, started, ahead, width_pos, range_eq⟩ :=
    VectorStream.start_of_yields yields uniform positive aligned (some part.length)
  obtain ⟨after, reading⟩ := VectorStream.readToEnd_of_ahead ahead width_pos
  rw [range_eq, Option.map_some, Option.getD_some] at reading
  rw [readPart, opened, started] at read
  dsimp only at read
  rw [reading, Part.receive] at read
  refine ⟨positive, ?_⟩
  split at read
  · obtain rfl := Except.ok.inj read
    rfl
  · exact nomatch read

end Corpus

end GraphOffload
