import GraphOffload.Proofs.Corpus.Faltering
import GraphOffload.Proofs.Corpus.FlatFiles
import Mathlib.Algebra.Order.Floor.Div

/-!
# Which calls a stream makes

To have the vector of a document may mean to read it from a disk, and many streams are opened over one
corpus. So a stream is to make no call on its cursor without need: it passes over the documents before
its range without asking for their vectors, takes each vector in its range once, when the first byte of
it is wanted, and never moves past the document that holds the last byte of its range.

The calls are read off a cursor that keeps a log of them. A log, or a count of calls, changes nothing
about what a stream does, as streams know of their cursor only what its calls reply.

## Main definitions

* `GraphOffload.Logged` : a cursor with a log of what the calls on it replied.
* `GraphOffload.Cursor.Respects` : a map between cursors that calls do not tell apart.
* `GraphOffload.VectorStream.Covers` : what some reads cost, and what they brought for it.
* `GraphOffload.VectorStream.Thrifty` : the number of calls that a stream makes.
* `GraphOffload.Corpus.openStream` : opening a stream, where a cursor has to be asked for.

## Main results

* `GraphOffload.VectorStream.reads_map` : a stream does the same over cursors that calls do not tell
  apart.
* `GraphOffload.VectorStream.covers_read`, `GraphOffload.VectorStream.covers_reads` : the calls of one
  read, and of many.
* `GraphOffload.Corpus.stream_thrifty` : a stream makes as many calls as its bytes need, and no more.
-/

namespace GraphOffload

variable {σ τ : Type} [Cursor σ] [Cursor τ] {docs : List (DocId × Elements)}

/-! ### Cursors with a log -/

namespace CursorReply

/-- Whether the call moved the cursor to the next document. -/
def isDoc : CursorReply → Bool
  | .doc _ => true
  | .vector _ => false

/-- Whether the call asked for a vector. -/
def isVector : CursorReply → Bool
  | .doc _ => false
  | .vector _ => true

/-- The calls that pass over so many documents, or over all and find no other one. -/
def passing (docs : List (DocId × Elements)) (count : Nat) : List CursorReply :=
  (docs.take count).map (fun doc => .doc (.ok (some doc.1))) ++
    if docs.length < count then [.doc (.ok none)] else []

/-- The calls that take the vector of each document. -/
def taking (docs : List (DocId × Elements)) : List CursorReply :=
  docs.flatMap fun doc => [.doc (.ok (some doc.1)), .vector (.ok doc.2)]

/-- The call that finds no other document, if the end was hit. -/
def ending (hit : Bool) : List CursorReply :=
  if hit then [.doc (.ok none)] else []

/-- To take no vector needs no call. -/
@[simp] theorem taking_nil : taking [] = [] := rfl

/-- Vectors are taken one after the other. -/
@[simp] theorem taking_append (front back : List (DocId × Elements)) :
    taking (front ++ back) = taking front ++ taking back := List.flatMap_append

/-- Passing over documents asks for no vector. -/
theorem countP_passing (docs : List (DocId × Elements)) (count : Nat) :
    (passing docs count).countP isDoc = min count (docs.length + 1) ∧
      (passing docs count).countP isVector = 0 := by
  have found : ∀ call ∈ (docs.take count).map fun doc => .doc (.ok (some doc.1)),
      isDoc call = true ∧ ¬ isVector call = true := by
    intro call mem
    obtain ⟨doc, _, rfl⟩ := List.mem_map.mp mem
    exact ⟨rfl, Bool.false_ne_true⟩
  have moved := List.countP_eq_length.mpr fun call mem => (found call mem).1
  have unasked := List.countP_eq_zero.mpr fun call mem => (found call mem).2
  rw [List.length_map, List.length_take] at moved
  simp only [passing, List.countP_append, moved, unasked]
  split
  · exact ⟨by simp only [List.countP_singleton, isDoc, if_true]; omega, rfl⟩
  · exact ⟨by simp only [List.countP_nil]; omega, rfl⟩

/-- Each vector that is taken needs two calls. -/
theorem countP_taking (docs : List (DocId × Elements)) :
    (taking docs).countP isDoc = docs.length ∧ (taking docs).countP isVector = docs.length := by
  induction docs with
  | nil => exact ⟨rfl, rfl⟩
  | cons doc rest ih =>
    have first : taking (doc :: rest) =
        [.doc (.ok (some doc.1)), vector (.ok doc.2)] ++ taking rest := rfl
    rw [first, List.countP_append, List.countP_append, ih.1, ih.2, List.length_cons, Nat.add_comm _ 1]
    exact ⟨rfl, rfl⟩

/-- To find the end needs one call for a document, and none for a vector. -/
theorem countP_ending (hit : Bool) :
    (ending hit).countP isDoc = hit.toNat ∧ (ending hit).countP isVector = 0 := by
  cases hit <;> exact ⟨rfl, rfl⟩

end CursorReply

open CursorReply

/-- A cursor with what the calls made on it so far replied, failed ones included. -/
structure Logged (σ : Type) where
  cursor : σ
  calls : List CursorReply := []

/-- A call is passed on, and what it replies is put into the log. -/
instance : Cursor (Logged σ) where
  nextDoc logged :=
    let (reply, cursor) := Cursor.nextDoc logged.cursor
    (reply, ⟨cursor, logged.calls ++ [.doc reply]⟩)
  vector logged :=
    let (reply, cursor) := Cursor.vector logged.cursor
    (reply, ⟨cursor, logged.calls ++ [.vector reply]⟩)

omit [Cursor σ] in
/-- The corpus with cursors that keep a log. -/
def Corpus.logged (corpus : Corpus σ) : Corpus (Logged σ) :=
  ⟨corpus.shape, corpus.openCursor.map fun cursor => { cursor := cursor }⟩

/-- The cursor with the number of calls in its log. -/
def Logged.tally (logged : Logged σ) : Tallied σ :=
  ⟨logged.cursor, logged.calls.countP isDoc, logged.calls.countP isVector⟩

/-! ### Cursors that calls do not tell apart -/

/-- No call tells a cursor from its image. -/
abbrev Cursor.Respects (f : σ → τ) : Prop := Cursor.Simulates fun cursor other => other = f cursor

/-- To forget the log changes no reply. -/
theorem Logged.respects_cursor : Cursor.Respects (Logged.cursor : Logged σ → σ) where
  nextDoc := by
    rintro cursor _ rfl
    exact ⟨rfl, rfl⟩
  vector := by
    rintro cursor _ rfl
    exact ⟨rfl, rfl⟩

/-- Nor does it to keep but the number of calls. -/
theorem Logged.respects_tally : Cursor.Respects (Logged.tally : Logged σ → Tallied σ) where
  nextDoc := by
    rintro cursor _ rfl
    simp [Cursor.nextDoc, tally, isDoc, isVector]
  vector := by
    rintro cursor _ rfl
    simp [Cursor.vector, tally, isDoc, isVector]

namespace Cursor.Respects

variable {f : σ → τ}

/-- The image moves on as the cursor does. -/
theorem nextDoc_eq (respects : Cursor.Respects f) (cursor : σ) :
    Cursor.nextDoc (f cursor) = (Cursor.nextDoc cursor).map id f :=
  Prod.ext (respects.nextDoc rfl).1.symm (respects.nextDoc rfl).2

/-- The image gives the vector that the cursor gives. -/
theorem vector_eq (respects : Cursor.Respects f) (cursor : σ) :
    Cursor.vector (f cursor) = (Cursor.vector cursor).map id f :=
  Prod.ext (respects.vector rfl).1.symm (respects.vector rfl).2

/-- The image passes over documents as the cursor does. -/
theorem skip_eq (respects : Cursor.Respects f) (count : Nat) (cursor : σ) :
    Cursor.skip count (f cursor) = (Cursor.skip count cursor).map id f := by
  induction count generalizing cursor with
  | zero => rfl
  | succ count ih =>
    rw [Cursor.skip, Cursor.skip, nextDoc_eq respects]
    rcases Cursor.nextDoc cursor with ⟨_ | _ | _, after⟩
    · rfl
    · rfl
    · exact ih after

end Cursor.Respects

namespace VectorStream

/-- The stream over another cursor. -/
def map (f : σ → τ) (stream : VectorStream σ) : VectorStream τ :=
  ⟨f stream.cursor, stream.width, stream.pending, stream.remaining, stream.exhausted⟩

variable {f : σ → τ}

/-- A stream over the image takes up the same vectors. -/
theorem reload_map (respects : Cursor.Respects f) (stream : VectorStream σ) :
    (stream.map f).reload = stream.reload.map id (map f) := by
  obtain ⟨cursor, width, pending, remaining, exhausted⟩ := stream
  simp only [reload, map, Cursor.Respects.nextDoc_eq respects]
  rcases Cursor.nextDoc cursor with ⟨_ | _ | _, after⟩
  · rfl
  · rfl
  · simp only [Prod.map, id_eq, Cursor.Respects.vector_eq respects]
    rcases Cursor.vector after with ⟨_ | vector, after⟩
    · rfl
    · by_cases fits : vector.length * 4 = width
      · simp [fits, map]
      · simp [fits, map]

/-- A read does the same over cursors that calls do not tell apart. -/
theorem read_map (respects : Cursor.Respects f) (stream : VectorStream σ) (limit : Nat) :
    (stream.map f).read limit = (stream.read limit).map id (map f) := by
  have same_fields : (stream.map f).remaining = stream.remaining ∧
      (stream.map f).exhausted = stream.exhausted ∧ (stream.map f).pending = stream.pending :=
    ⟨rfl, rfl, rfl⟩
  simp only [read, reload_map respects, same_fields]
  split
  · rfl
  · split
    · rcases stream.reload with ⟨_ | _ | _, after⟩ <;> rfl
    · rfl

/-- **A stream does the same over cursors that calls do not tell apart.** -/
theorem reads_map (respects : Cursor.Respects f) (limits : List Nat) (stream : VectorStream σ) :
    (stream.map f).reads limits = (stream.reads limits).map id (map f) := by
  induction limits generalizing stream with
  | nil => rfl
  | cons limit limits ih =>
    simp only [reads, read_map respects, Prod.map, id_eq, ih]

/-- Where a stream starts, one starts over the image. -/
theorem start_map (respects : Cursor.Respects f) {cursor : σ} {bytesPerVector offset : UInt64}
    {length : Option UInt64} {stream : VectorStream σ}
    (started : start cursor bytesPerVector offset length = .ok stream) :
    start (f cursor) bytesPerVector offset length = .ok (stream.map f) := by
  simp only [start, Cursor.Respects.skip_eq respects] at started ⊢
  split at started
  · cases started
  · rename_i right
    rw [if_neg right]
    rcases passed : Cursor.skip (offset.toNat / bytesPerVector.toNat) cursor with ⟨_ | ended, after⟩
    · rw [passed] at started
      cases started
    · rw [passed] at started
      obtain rfl := Except.ok.inj started
      rfl

/-! ### The calls of reads -/

/-- The documents ahead of a stream: its cursor is before them, or it has seen that there are none. -/
inductive Before (docs : List (DocId × Elements)) (stream : VectorStream (Logged σ)) : Prop
  | facing (more : stream.exhausted = false) (yields : Cursor.Yields docs stream.cursor.cursor)
  | ended (seen : stream.exhausted = true) (none_left : docs = [])

/-- How many of the reads failed. -/
def failures (replies : List (Except Fault Bytes)) : Nat := refusals (fun _ => true) replies

/-- What reads cost and what they brought for it: the vectors of the documents `seen` were taken, each
for its bytes or for a failed read, and the end was seen, if that is new. -/
structure Covers (seen : List (DocId × Elements)) (stream : VectorStream (Logged σ))
    (replies : List (Except Fault Bytes)) (after : VectorStream (Logged σ)) : Prop where
  calls_eq : after.cursor.calls =
    stream.cursor.calls ++ taking seen ++ ending (after.exhausted && !stream.exhausted)
  width_eq : after.width = stream.width
  /-- No byte that was taken is lost. -/
  bytes_eq : (brought replies).length + after.pending.length + failures replies * stream.width =
    stream.pending.length + seen.length * stream.width
  remaining_eq : (brought replies).length + after.remaining = stream.remaining
  /-- No vector is taken before a byte of it is wanted. -/
  pending_lt : after.pending.length < stream.width
  /-- Only vectors of another width are refused. -/
  refused : failures replies ≤ seen.countP fun doc => doc.2.length * 4 ≠ stream.width
  /-- An end that was seen stays seen. -/
  exhausted_of : stream.exhausted = true → after.exhausted = true
  /-- The end is met only by a read that wants bytes and has none at hand. -/
  wanted : after.exhausted = true → stream.exhausted = true ∨ 0 < after.remaining ∧ after.pending = []

variable {stream next after : VectorStream (Logged σ)} {seen left later : List (DocId × Elements)}
  {replies replies' : List (Except Fault Bytes)}

/-- What comes of the next document when nothing is at hand: there is none, its vector is taken, or it
is refused because it is of another width. -/
theorem reload_logged (yields : Cursor.Yields docs stream.cursor.cursor) :
    (docs = [] ∧ ∃ cursor, stream.reload = (.ok false,
      { stream with cursor := ⟨cursor, stream.cursor.calls ++ ending true⟩, exhausted := true })) ∨
    ∃ doc rest cursor, docs = doc :: rest ∧ Cursor.Yields rest cursor ∧
      (doc.2.length * 4 = stream.width ∧ stream.reload = (.ok true,
        { stream with
          cursor := ⟨cursor, stream.cursor.calls ++ taking [doc]⟩, pending := Bytes.ofWords doc.2 }) ∨
      doc.2.length * 4 ≠ stream.width ∧ stream.reload = (.error (wrongWidth doc.2.length stream.width),
        { stream with cursor := ⟨cursor, stream.cursor.calls ++ taking [doc]⟩ })) := by
  cases docs with
  | nil =>
    obtain ⟨cursor, none_left⟩ := yields
    exact .inl ⟨rfl, cursor, by simp [reload, Cursor.nextDoc, none_left, ending]⟩
  | cons doc rest =>
    obtain ⟨stands, found, _, cursor, loaded, yields'⟩ := yields
    refine .inr ⟨doc, rest, cursor, rfl, yields', ?_⟩
    by_cases fits : doc.2.length * 4 = stream.width
    · exact .inl ⟨fits, by simp [reload, Cursor.nextDoc, Cursor.vector, found, loaded, fits, taking]⟩
    · exact .inr ⟨fits, by simp [reload, Cursor.nextDoc, Cursor.vector, found, loaded, fits, taking]⟩

omit [Cursor σ] in
/-- A stream that was not read made no call. -/
theorem covers_nil (pending_lt : stream.pending.length < stream.width) :
    Covers [] stream [] stream where
  calls_eq := by simp [ending]
  width_eq := rfl
  bytes_eq := by simp [brought, failures, refusals]
  remaining_eq := by simp [brought]
  pending_lt := pending_lt
  refused := Nat.zero_le _
  exhausted_of := id
  wanted := .inl

omit [Cursor σ] in
/-- What is delivered was taken before.

**Proof sketch.** To deliver makes no call. The bytes that are brought are gone from those at hand and
from the range, so that each equation stays one. -/
theorem covers_deliver {limit : Nat} (room : limit ≠ 0) (unbounded : stream.remaining ≠ 0)
    (more : stream.exhausted = false) (more' : next.exhausted = false)
    (calls_eq : next.cursor.calls = stream.cursor.calls ++ taking seen)
    (width_eq : next.width = stream.width) (remaining_eq : next.remaining = stream.remaining)
    (bytes_eq : next.pending.length = stream.pending.length + seen.length * stream.width)
    (some_pending : next.pending ≠ []) (pending_le : next.pending.length ≤ stream.width) :
    Covers seen stream [.ok (next.deliver limit).1] (next.deliver limit).2 := by
  have positive := List.length_pos_iff.mpr some_pending
  have got_eq : (brought [.ok (next.deliver limit).1]).length =
      min (min next.pending.length limit) next.remaining := by
    simp [brought, deliver, List.length_take]
  have none_failed : failures [.ok (next.deliver limit).1] = 0 := rfl
  have pending_eq : (next.deliver limit).2.pending.length =
      next.pending.length - min (min next.pending.length limit) next.remaining := List.length_drop
  have remaining_eq' : (next.deliver limit).2.remaining =
      next.remaining - min (min next.pending.length limit) next.remaining := rfl
  refine ⟨?_, width_eq, ?_, ?_, ?_, ?_, ?_, ?_⟩
  · have same_end : (next.deliver limit).2.exhausted = false := more'
    rw [same_end]
    simp only [deliver, calls_eq, Bool.false_and, ending]
    exact (List.append_nil _).symm
  · rw [got_eq, none_failed, pending_eq]
    omega
  · rw [got_eq, remaining_eq']
    omega
  · rw [pending_eq]
    omega
  · rw [none_failed]
    exact Nat.zero_le _
  · rw [more]
    exact Bool.noConfusion
  · intro seen
    exact Bool.noConfusion (seen.symm.trans more')

/-- **The calls of one read**: it takes at most one vector, and none if it can do without.

**Proof sketch.** Only a read that wants bytes and has none at hand moves the cursor. -/
theorem covers_read (before : Before docs stream) (pending_lt : stream.pending.length < stream.width)
    (limit : Nat) :
    ∃ seen left, docs = seen ++ left ∧ seen.length ≤ 1 ∧ Before left (stream.read limit).2 ∧
      Covers seen stream [(stream.read limit).1] (stream.read limit).2 := by
  by_cases idle : limit = 0 ∨ stream.remaining = 0 ∨ stream.exhausted
  · rw [read, if_pos idle]
    have nothing := covers_nil pending_lt
    exact ⟨[], docs, rfl, Nat.zero_le _, before, nothing.calls_eq, rfl, nothing.bytes_eq,
      nothing.remaining_eq, pending_lt, nothing.refused, nothing.exhausted_of, nothing.wanted⟩
  rw [read, if_neg idle]
  simp only [not_or, Bool.not_eq_true] at idle
  obtain ⟨room, some_left, more⟩ := idle
  cases before with
  | ended seen => exact Bool.noConfusion (seen.symm.trans more)
  | facing _ yields =>
    -- only a stream that has nothing at hand moves its cursor
    by_cases used_up : stream.pending = []
    · rw [if_pos (List.isEmpty_iff.mpr used_up)]
      rcases reload_logged yields with ⟨rfl, cursor, none_left⟩ |
        ⟨doc, rest, cursor, rfl, yields', ⟨fits, loaded⟩ | ⟨unfit, refused⟩⟩
      · rw [none_left]
        refine ⟨[], [], rfl, Nat.zero_le _, .ended rfl rfl, ?_, rfl, ?_, ?_, pending_lt, Nat.zero_le _,
          fun _ => rfl, fun _ => .inr ⟨Nat.pos_of_ne_zero some_left, used_up⟩⟩
        · simp [more]
        · simp [brought, failures, refusals]
        · simp [brought]
      · rw [loaded]
        have length_eq : (Bytes.ofWords doc.2).length = stream.width := by
          rw [Bytes.length_ofWords, ← fits, Nat.mul_comm]
        have some_pending : Bytes.ofWords doc.2 ≠ [] := by
          rw [← List.length_pos_iff, length_eq]
          omega
        refine ⟨[doc], rest, rfl, Nat.le_refl _, .facing more yields', ?_⟩
        exact covers_deliver room some_left more more rfl rfl rfl (by simp [used_up, length_eq])
          some_pending (Nat.le_of_eq length_eq)
      · rw [refused]
        refine ⟨[doc], rest, rfl, Nat.le_refl _, .facing more yields', ?_, rfl, ?_, ?_, pending_lt, ?_,
          id, .inl⟩
        · simp [more, ending]
        · simp [brought, failures, refusals, Nat.add_comm]
        · simp [brought]
        · simp [failures, refusals, unfit]
    · rw [if_neg (by simpa using used_up)]
      exact ⟨[], docs, rfl, Nat.zero_le _, .facing more yields,
        covers_deliver room some_left more more (by simp) rfl rfl (by simp) used_up
          (Nat.le_of_lt pending_lt)⟩

/-- What reads cost and brought adds up.

**Proof sketch.** The equations of both are added. If the end was met in the first, nothing is taken in
the second; so it is met only once. -/
theorem Covers.trans (first : Covers seen stream replies next) (before : Before (later ++ left) next)
    (second : Covers later next replies' after) :
    Covers (seen ++ later) stream (replies ++ replies') after := by
  -- when the first reads have met the end, nothing is left for the others to take
  have none_later : next.exhausted = true → later = [] := by
    intro ended
    cases before with
    | facing more => exact Bool.noConfusion (ended.symm.trans more)
    | ended _ none_left => exact (List.append_eq_nil_iff.mp none_left).1
  have brought_eq : (brought (replies ++ replies')).length =
      (brought replies).length + (brought replies').length := by
    simp [brought, List.length_append]
  have failures_eq : failures (replies ++ replies') = failures replies + failures replies' :=
    List.countP_append
  have bytes := first.bytes_eq
  have bytes' := second.bytes_eq
  have remaining := first.remaining_eq
  have remaining' := second.remaining_eq
  have width := first.width_eq
  rw [width] at bytes'
  refine ⟨?_, second.width_eq.trans width, ?_, ?_, width ▸ second.pending_lt, ?_,
    fun seen => second.exhausted_of (first.exhausted_of seen), ?_⟩
  · rw [second.calls_eq, first.calls_eq, taking_append]
    have kept := second.exhausted_of
    have kept' := first.exhausted_of
    cases ended : next.exhausted with
    | false =>
      have more : stream.exhausted = false := by
        by_contra seen
        exact Bool.noConfusion ((kept' (by simpa using seen)).symm.trans ended)
      simp [more, ending]
    | true =>
      rw [none_later ended, kept ended]
      simp [ending]
  · rw [brought_eq, failures_eq, List.length_append, Nat.add_mul, Nat.add_mul]
    omega
  · rw [brought_eq]
    omega
  · have refused' := second.refused
    rw [width] at refused'
    rw [failures_eq, List.countP_append]
    exact Nat.add_le_add first.refused refused'
  · intro ended
    rcases second.wanted ended with ended' | wanted
    · refine (first.wanted ended').imp_right ?_
      rintro ⟨some_left, used_up⟩
      rw [none_later ended', used_up] at bytes'
      simp only [List.length_nil, Nat.zero_mul, Nat.add_zero] at bytes'
      exact ⟨by omega, List.length_eq_zero_iff.mp (by omega)⟩
    · exact .inr wanted

/-- **The calls of many reads**: the vectors of the documents ahead are taken one after the other.

**Proof sketch.** Induction on the reads; each goes on where the one before it left off. -/
theorem covers_reads (before : Before docs stream) (pending_lt : stream.pending.length < stream.width)
    (limits : List Nat) :
    ∃ seen left, docs = seen ++ left ∧ Before left (stream.reads limits).2 ∧
      Covers seen stream (stream.reads limits).1 (stream.reads limits).2 := by
  induction limits generalizing stream docs with
  | nil => exact ⟨[], docs, rfl, before, covers_nil pending_lt⟩
  | cons limit limits ih =>
    obtain ⟨seen, rest, rfl, _, before', covers⟩ := covers_read before pending_lt limit
    have pending_lt' := covers.width_eq ▸ covers.pending_lt
    obtain ⟨later, left, rfl, before'', covers'⟩ := ih before' pending_lt'
    exact ⟨seen ++ later, left, (List.append_assoc _ _ _).symm, before'', covers.trans before' covers'⟩

/-! ### Opened streams -/

/-- The calls that pass over documents, and what lies ahead afterwards. -/
theorem skip_logged {cursor : σ} (yields : Cursor.Yields docs cursor) (calls : List CursorReply)
    (count : Nat) :
    ∃ after, Cursor.skip count (⟨cursor, calls⟩ : Logged σ) =
        (.ok (decide (docs.length < count)), ⟨after, calls ++ passing docs count⟩) ∧
      (count ≤ docs.length → Cursor.Yields (docs.drop count) after) := by
  induction count generalizing docs cursor calls with
  | zero => exact ⟨cursor, by simp [Cursor.skip, passing], fun _ => yields⟩
  | succ count ih =>
    cases docs with
    | nil =>
      obtain ⟨after, none_left⟩ := yields
      exact ⟨after, by simp [Cursor.skip, Cursor.nextDoc, none_left, passing], fun h => by simp at h⟩
    | cons doc rest =>
      obtain ⟨stands, found, yields', _⟩ := yields
      obtain ⟨after, skipped, left⟩ := ih yields' (calls ++ [.doc (.ok (some doc.1))])
      refine ⟨after, ?_, fun h => left (Nat.le_of_succ_le_succ h)⟩
      have one : Cursor.nextDoc (⟨cursor, calls⟩ : Logged σ) =
          (.ok (some doc.1), ⟨stands, calls ++ [.doc (.ok (some doc.1))]⟩) := by
        simp [Cursor.nextDoc, found]
      simp only [Cursor.skip, one, skipped]
      simp [passing]

/-- An opened stream has passed over the documents before its range. -/
theorem start_logged {cursor : σ} {bytesPerVector offset : UInt64}
    (yields : Cursor.Yields docs cursor) (positive : 0 < bytesPerVector.toNat)
    (aligned : bytesPerVector.toNat ∣ offset.toNat) (length : Option UInt64) :
    ∃ stream : VectorStream (Logged σ),
      start (⟨cursor, []⟩ : Logged σ) bytesPerVector offset length = .ok stream ∧
      stream.cursor.calls = passing docs (offset.toNat / bytesPerVector.toNat) ∧
      stream.width = bytesPerVector.toNat ∧ stream.pending = [] ∧
      stream.remaining = (length.map UInt64.toNat).getD unbounded ∧
      Before (docs.drop (offset.toNat / bytesPerVector.toNat)) stream := by
  obtain ⟨after, skipped, left⟩ := skip_logged yields [] (offset.toNat / bytesPerVector.toNat)
  have right : ¬ (bytesPerVector.toNat = 0 ∨ offset.toNat % bytesPerVector.toNat ≠ 0) := by
    rw [Nat.mod_eq_zero_of_dvd aligned]
    omega
  simp only [start, if_neg right, skipped]
  refine ⟨_, rfl, by simp, rfl, rfl, rfl, ?_⟩
  by_cases past : docs.length < offset.toNat / bytesPerVector.toNat
  · exact .ended (decide_eq_true past) (List.drop_eq_nil_of_le (Nat.le_of_lt past))
  · exact .facing (decide_eq_false past) (left (Nat.not_lt.mp past))

/-- A stream over documents of which so many were passed over makes as many calls as its bytes need, and
no more. -/
structure Thrifty (docs : List (DocId × Elements)) (passed : Nat) (stream : VectorStream (Tallied σ)) :
    Prop where
  /-- Opening passes over documents, or over all and finds no other one, and takes no vector. -/
  opening : stream.cursor.nextCalls = min passed (docs.length + 1) ∧ stream.cursor.vectorCalls = 0
  /-- A read makes at most one call of each kind. -/
  one_read : ∀ limits limit,
    let before := (stream.reads limits).2
    let after := (before.read limit).2
    after.cursor.nextCalls ≤ before.cursor.nextCalls + 1 ∧
      after.cursor.vectorCalls ≤ before.cursor.vectorCalls + 1
  /-- A read that wants no byte, or whose stream is at its end, makes none. -/
  idle_read : ∀ limits limit,
    let before := (stream.reads limits).2
    limit = 0 ∨ before.remaining = 0 ∨ before.exhausted = true → (before.read limit).2 = before
  /-- Vectors are taken for the bytes that were brought, or refused for their width; the cursor is moved
  to these, and past the last one only if a read met the end. -/
  all_reads : ∀ limits,
    let replies := (stream.reads limits).1
    let after := (stream.reads limits).2
    let taken := (brought replies).length ⌈/⌉ stream.width + failures replies
    after.cursor.vectorCalls = taken ∧
      after.cursor.nextCalls =
        min passed (docs.length + 1) + taken + (after.exhausted && !stream.exhausted).toNat
  /-- Nothing is refused of vectors of the expected width. -/
  none_refused : (∀ doc ∈ docs, 4 * doc.2.length = stream.width) →
    ∀ limits, failures (stream.reads limits).1 = 0
  /-- The cursor is not moved past the vectors that the range takes. -/
  bounded : ∀ limits,
    (stream.reads limits).2.cursor.nextCalls ≤
      min passed (docs.length + 1) + stream.remaining ⌈/⌉ stream.width +
        failures (stream.reads limits).1

/-- Whatever a cursor replies, a read makes at most one call of each kind.

**Proof sketch.** Only to take up a vector moves the cursor, and a read does that at most once. -/
theorem read_tallied (stream : VectorStream (Tallied σ)) (limit : Nat) :
    (stream.read limit).2.cursor.nextCalls ≤ stream.cursor.nextCalls + 1 ∧
      (stream.read limit).2.cursor.vectorCalls ≤ stream.cursor.vectorCalls + 1 := by
  have reloaded : stream.reload.2.cursor.nextCalls = stream.cursor.nextCalls + 1 ∧
      stream.reload.2.cursor.vectorCalls ≤ stream.cursor.vectorCalls + 1 := by
    simp only [reload, Cursor.nextDoc]
    rcases Cursor.nextDoc stream.cursor.cursor with ⟨_ | _ | _, after⟩
    · exact ⟨rfl, Nat.le_add_right _ _⟩
    · exact ⟨rfl, Nat.le_add_right _ _⟩
    · simp only [Prod.map, id_eq, Cursor.vector]
      rcases Cursor.vector after with ⟨_ | _, after⟩
      · exact ⟨rfl, Nat.le_refl _⟩
      · dsimp only
        split <;> exact ⟨rfl, Nat.le_refl _⟩
  have unchanged : stream.cursor.nextCalls ≤ stream.cursor.nextCalls + 1 ∧
      stream.cursor.vectorCalls ≤ stream.cursor.vectorCalls + 1 :=
    ⟨Nat.le_add_right _ _, Nat.le_add_right _ _⟩
  rw [read]
  split
  · exact unchanged
  · split
    · generalize stream.reload = result at reloaded ⊢
      obtain ⟨_ | _ | _, after⟩ := result
      all_goals exact ⟨Nat.le_of_eq reloaded.1, reloaded.2⟩
    · exact unchanged

/-- A read that wants no byte, or whose stream is at its end, changes nothing. -/
theorem read_idle {stream : VectorStream σ} {limit : Nat}
    (idle : limit = 0 ∨ stream.remaining = 0 ∨ stream.exhausted = true) :
    stream.read limit = (.ok [], stream) := by
  rw [read, if_pos idle]

omit [Cursor σ] in
/-- As many vectors were taken as the bytes that they brought need, and as were refused. -/
theorem Covers.length_eq (covers : Covers seen stream replies after) (fresh : stream.pending = []) :
    seen.length = (brought replies).length ⌈/⌉ stream.width + failures replies := by
  have pending_lt := covers.pending_lt
  have bytes := covers.bytes_eq
  have refused := covers.refused.trans List.countP_le_length
  obtain ⟨loaded, length_eq⟩ := Nat.exists_eq_add_of_le' refused
  rw [fresh, length_eq, Nat.add_mul] at bytes
  simp only [List.length_nil, Nat.zero_add] at bytes
  rw [length_eq, Nat.add_right_cancel_iff, Nat.ceilDiv_eq_add_pred_div]
  refine (Nat.div_eq_of_lt_le ?_ ?_).symm
  · omega
  · rw [Nat.succ_mul]
    omega

omit [Cursor σ] in
/-- The cursor is moved for bytes of the range only: where the end is met, a byte of the range is
missing.

**Proof sketch.** By whether the end was met. If so the bytes brought are whole vectors, and one more
byte was wanted, which is one more vector of the range at most. -/
theorem Covers.length_le (covers : Covers seen stream replies after) (fresh : stream.pending = []) :
    seen.length + (after.exhausted && !stream.exhausted).toNat ≤
      stream.remaining ⌈/⌉ stream.width + failures replies := by
  have length_eq := covers.length_eq fresh
  have remaining := covers.remaining_eq
  have positive : 0 < stream.width := Nat.zero_lt_of_lt covers.pending_lt
  cases hit : after.exhausted && !stream.exhausted with
  | false =>
    have fewer : (brought replies).length ⌈/⌉ stream.width ≤ stream.remaining ⌈/⌉ stream.width := by
      simp only [Nat.ceilDiv_eq_add_pred_div]
      exact Nat.div_le_div_right (by omega)
    rw [Bool.toNat_false]
    omega
  | true =>
    simp only [Bool.and_eq_true, Bool.not_eq_true'] at hit
    rcases covers.wanted hit.1 with seen_before | ⟨some_left, used_up⟩
    · exact Bool.noConfusion (seen_before.symm.trans hit.2)
    · have bytes := covers.bytes_eq
      rw [fresh, used_up, length_eq, Nat.add_mul] at bytes
      simp only [List.length_nil, Nat.add_zero, Nat.zero_add, Nat.add_right_cancel_iff] at bytes
      -- a byte was wanted beyond whole vectors, which is a vector more to look for
      have one_more :
          (brought replies).length ⌈/⌉ stream.width + 1 ≤ stream.remaining ⌈/⌉ stream.width := by
        rw [Nat.ceilDiv_eq_add_pred_div stream.remaining, Nat.le_div_iff_mul_le positive, Nat.succ_mul]
        omega
      rw [Bool.toNat_true]
      omega

section

variable {passed : Nat} (calls_eq : stream.cursor.calls = passing docs passed)
  (before : Before (docs.drop passed) stream) (fresh : stream.pending = [])
  (positive : 0 < stream.width)

include calls_eq before fresh positive in
/-- The log of a stream after any reads: the documents passed over, those whose vectors were taken, and
the end if it was met. -/
theorem calls_reads (limits : List Nat) :
    (stream.reads limits).2.cursor.calls =
      passing docs passed ++
        taking ((docs.drop passed).take ((brought (stream.reads limits).1).length ⌈/⌉ stream.width +
          failures (stream.reads limits).1)) ++
        ending ((stream.reads limits).2.exhausted && !stream.exhausted) ∧
    (brought (stream.reads limits).1).length ⌈/⌉ stream.width + failures (stream.reads limits).1 ≤
      docs.length - passed := by
  have pending_lt : stream.pending.length < stream.width := by rwa [fresh]
  obtain ⟨seen, left, split, _, covers⟩ := covers_reads before pending_lt limits
  rw [covers.calls_eq, calls_eq, ← covers.length_eq fresh, split, List.take_left]
  refine ⟨rfl, ?_⟩
  rw [← List.length_drop, split, List.length_append]
  exact Nat.le_add_right _ _

include calls_eq before fresh positive in
/-- A stream that passed over documents, and has nothing at hand, is thrifty.

**Proof sketch.** The calls are those of a log (`calls_reads`), which is counted: documents that were
passed over, vectors that were taken, and at most one end. The bound is `Covers.length_le`. -/
theorem thrifty_of_before : Thrifty docs passed (stream.map Logged.tally) where
  opening := by
    simp only [map, Logged.tally, calls_eq]
    exact countP_passing docs passed
  one_read limits limit := read_tallied _ _
  idle_read limits limit := by
    intro before idle
    rw [read_idle idle]
  all_reads limits := by
    obtain ⟨calls, enough⟩ := calls_reads calls_eq before fresh positive limits
    rw [reads_map Logged.respects_tally]
    simp only [map, Prod.map, id_eq, Logged.tally, calls, List.countP_append, (countP_passing _ _).1,
      (countP_passing _ _).2, (countP_taking _).1, (countP_taking _).2, (countP_ending _).1,
      (countP_ending _).2, List.length_take, List.length_drop, Nat.min_eq_left enough]
    exact ⟨by omega, trivial⟩
  none_refused uniform limits := by
    have pending_lt : stream.pending.length < stream.width := by rwa [fresh]
    obtain ⟨seen, left, split, _, covers⟩ := covers_reads before pending_lt limits
    rw [reads_map Logged.respects_tally]
    have none_unfit : seen.countP (fun doc => doc.2.length * 4 ≠ stream.width) = 0 := by
      refine List.countP_eq_zero.mpr fun doc mem => ?_
      have : doc ∈ docs.drop passed := split ▸ List.mem_append_left _ mem
      have fits : 4 * doc.2.length = stream.width := uniform doc (List.mem_of_mem_drop this)
      simp [← fits, Nat.mul_comm]
    exact Nat.le_zero.mp (none_unfit ▸ covers.refused)
  bounded limits := by
    have pending_lt : stream.pending.length < stream.width := by rwa [fresh]
    obtain ⟨seen, left, _, _, covers⟩ := covers_reads before pending_lt limits
    have length_le := covers.length_le fresh
    rw [reads_map Logged.respects_tally]
    simp only [map, Prod.map, id_eq, Logged.tally, covers.calls_eq, calls_eq, List.countP_append,
      (countP_passing _ _).1, (countP_taking _).1, (countP_ending _).1]
    omega

end

end VectorStream

/-! ### Corpora -/

namespace Corpus

/-- The stream of a range of a corpus, where a cursor has to be asked for. -/
def openStream {m : Type → Type} [Monad m] (shape : CorpusShape) (supply : m (Except Fault σ))
    (offset : UInt64) (length : Option UInt64) : m (Except (OpenFailure σ) (VectorStream σ)) :=
  if shape.elementType ≠ .float32 then
    return .error ⟨.unsupported ("streaming " ++ shape.elementType.name ++ " vectors"), none⟩
  else do
    match ← supply with
    | .error fault => return .error ⟨.device fault, none⟩
    | .ok cursor => return VectorStream.start cursor shape.bytesPerVector offset length

/-- A supply of cursors that counts how often it is asked. -/
def counting (opened : Except Fault σ) : StateM Nat (Except Fault σ) :=
  fun asked => (opened, asked + 1)

/-- Where the cursor is at hand, this is the stream of the range. -/
theorem openStream_pure (corpus : Corpus σ) (offset : UInt64) (length : Option UInt64) :
    openStream corpus.shape (pure corpus.openCursor : Id _) offset length =
      corpus.stream offset length := by
  rw [openStream, stream]
  split
  · rfl
  · rcases corpus.openCursor with _ | _ <;> rfl

/-- **A stream makes as many calls as its bytes need, and no more.** To open it takes one cursor and
passes over the documents before its range. Its reads move on one document and take its vector whenever
the bytes at hand are used up, so that the vectors taken are those of the bytes that were brought, one
after the other. To count the calls or to keep a log of them changes nothing.

**Proof sketch.** The log of a stream is what was passed over, then what its reads cost; one read adds
at most one document to it, and all bytes of that document are brought before it adds another one. -/
theorem stream_thrifty {corpus : Corpus σ} {cursor : σ} (float32 : corpus.shape.elementType = .float32)
    (opened : corpus.openCursor = .ok cursor) (yields : Cursor.Yields docs cursor)
    (positive : 0 < corpus.shape.bytesPerVector.toNat) {offset : UInt64}
    (aligned : corpus.shape.bytesPerVector.toNat ∣ offset.toNat) (length : Option UInt64) :
    let passed := offset.toNat / corpus.shape.bytesPerVector.toNat
    (openStream corpus.shape (counting corpus.openCursor) offset length).run 0 =
        (corpus.stream offset length, 1) ∧
    ∃ logged : VectorStream (Logged σ),
      corpus.logged.stream offset length = .ok logged ∧
      corpus.stream offset length = .ok (logged.map Logged.cursor) ∧
      corpus.tallied.stream offset length = .ok (logged.map Logged.tally) ∧
      logged.width = corpus.shape.bytesPerVector.toNat ∧
      logged.remaining = (length.map UInt64.toNat).getD VectorStream.unbounded ∧
      VectorStream.Thrifty docs passed (logged.map Logged.tally) ∧
      ∀ limits,
        let replies := (logged.reads limits).1
        let after := (logged.reads limits).2
        let taken :=
          (VectorStream.brought replies).length ⌈/⌉ logged.width + VectorStream.failures replies
        after.cursor.calls = passing docs passed ++ taking ((docs.drop passed).take taken) ++
          ending (after.exhausted && !logged.exhausted) := by
  intro passed
  have streams {ρ : Type} [Cursor ρ] (fresh : ρ) :
      Corpus.stream ⟨corpus.shape, .ok fresh⟩ offset length =
        VectorStream.start fresh corpus.shape.bytesPerVector offset length := by
    simp [stream, float32]
  obtain ⟨logged, started, calls_eq, width_eq, pending_nil, remaining_eq, before⟩ :=
    VectorStream.start_logged yields positive aligned length
  -- the plain corpus, the counting one and the one with a log differ in their cursors only
  have corpus_eq : corpus = ⟨corpus.shape, .ok cursor⟩ := by rw [← opened]
  have tallied_eq : corpus.tallied = ⟨corpus.shape, .ok { cursor := cursor }⟩ := by
    rw [tallied, opened]
    rfl
  have logged_eq : corpus.logged = ⟨corpus.shape, .ok ⟨cursor, []⟩⟩ := by
    rw [Corpus.logged, opened]
    rfl
  have width_pos : 0 < logged.width := width_eq ▸ positive
  refine ⟨?_, logged, ?_, ?_, ?_, width_eq, remaining_eq,
    VectorStream.thrifty_of_before calls_eq before pending_nil width_pos, fun limits =>
    (VectorStream.calls_reads calls_eq before pending_nil width_pos limits).1⟩
  · rw [corpus_eq, streams]
    simp only [openStream, float32]
    rfl
  · rw [logged_eq, streams, started]
  · rw [corpus_eq, streams]
    exact VectorStream.start_map Logged.respects_cursor started
  · rw [tallied_eq, streams]
    exact VectorStream.start_map Logged.respects_tally started

/-- Six bytes from the second of three vectors on, in memory. -/
theorem stream_thrifty_second_vector :
    let docs : List (DocId × Elements) := [(0, [1]), (1, [2]), (2, [3])]
    let corpus : Corpus MemoryCursor := ⟨{ dimension := 1, liveCount := 3 }, .ok ⟨docs, none⟩⟩
    ∃ logged : VectorStream (Logged MemoryCursor),
      corpus.logged.stream 4 (some 6) = .ok logged ∧ logged.width = 4 ∧
        VectorStream.Thrifty docs 1 (logged.map Logged.tally) := by
  intro docs corpus
  obtain ⟨_, logged, opened, _, _, width_eq, _, thrifty, _⟩ :=
    stream_thrifty (rfl : corpus.shape.elementType = .float32) rfl (MemoryCursor.yields docs none)
      (by decide) (by decide : _ ∣ (4 : UInt64).toNat) (some 6)
  have passed : (4 : UInt64).toNat / corpus.shape.bytesPerVector.toNat = 1 := by decide
  exact ⟨logged, opened, width_eq, passed ▸ thrifty⟩

end Corpus

end GraphOffload
