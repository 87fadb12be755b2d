import GraphOffload.Proofs.Transfer.Overlap

/-!
# Uploads at any timing

The parts of an upload are read in the background, where any of the reads that have begun may end next,
and the parts that are sent may be acknowledged in any order. Neither order shows: the object is the
first bytes of the documents, its parts are sent in their order, and if a part does not start at a vector
the upload fails at the first one that does not.

## Main definitions

* `GraphOffload.UploadEvent` : what happens during an upload, the ends of reads included.
* `GraphOffload.ReadPool.Serves` : the events that reads in the background allow.
* `GraphOffload.CorpusShape.Offers` : documents of one dimension with bytes enough.
* `GraphOffload.Upload.Overlapping` : an upload of documents that nothing else disturbs.
* `GraphOffload.Upload.Overlapped` : what it comes to.

## Main results

* `GraphOffload.ReadPool.Serves.passesOver` : what an upload is given of a part is what a pass of its own
  brings.
* `GraphOffload.Upload.exists_serves_of_run` : an upload waits for no read that has not begun.
* `GraphOffload.Upload.overlapped` : what an upload comes to does not depend on the timing.
-/

namespace GraphOffload

open Attempting StoreState

/-! ### Reads in the background -/

/-- A part that was read in a pass of its own over a fresh cursor, and what came of it. -/
structure PartRead (σ : Type) [Cursor σ] (shape : CorpusShape) (docs : List (DocId × Elements)) where
  key : String
  part : Part
  outcome : Except Failure part.Data
  passes : ∃ cursor : σ, Cursor.Yields docs cursor ∧
    outcome = Corpus.readPart ⟨shape, .ok cursor⟩ key part

/-- What happens during an upload: a call is made and answered, or a read ends in the background. -/
inductive UploadEvent (σ : Type) [Cursor σ] (shape : CorpusShape) (docs : List (DocId × Elements))
  | call (exchange : Exchange)
  | readEnds (read : PartRead σ shape docs)

/-- The reads that run in the background, and those that have ended and were not asked for yet. -/
structure ReadPool (σ : Type) [Cursor σ] (shape : CorpusShape) (docs : List (DocId × Elements)) where
  running : List Part := []
  ended : List (PartRead σ shape docs) := []

/-- The call is one on the documents of a corpus. -/
def Call.IsRead : Call → Prop
  | .beginRead .. | .endRead .. | .readDocIds => True
  | _ => False

variable {σ : Type} [Cursor σ] {shape : CorpusShape} {docs : List (DocId × Elements)}

namespace UploadEvent

/-- The call of an event, if it is one. -/
def call? : UploadEvent σ shape docs → Option Exchange
  | call exchange => some exchange
  | readEnds _ => none

/-- The calls of an upload, without the ends of its reads. -/
def callsIn (history : List (UploadEvent σ shape docs)) : Trace := history.filterMap call?

end UploadEvent

namespace ReadPool

open UploadEvent

variable {pool next : ReadPool σ shape docs} {history : List (UploadEvent σ shape docs)}

/-- What an event does to the reads in the background: one more begins, any of those that run ends, or
one that has ended is given away. -/
inductive Step : UploadEvent σ shape docs → ReadPool σ shape docs → ReadPool σ shape docs → Prop
  | begins {pool : ReadPool σ shape docs} {key : String} {part : Part} :
    Step (.call ⟨.beginRead key part, ()⟩) pool { pool with running := pool.running ++ [part] }
  | ends {pool : ReadPool σ shape docs} {read : PartRead σ shape docs} {front back : List Part}
      (runs : pool.running = front ++ read.part :: back) :
    Step (.readEnds read) pool ⟨front ++ back, pool.ended ++ [read]⟩
  | gives {pool : ReadPool σ shape docs} {read : PartRead σ shape docs}
      {front back : List (PartRead σ shape docs)} (has : pool.ended = front ++ read :: back) :
    Step (.call ⟨.endRead read.key read.part, read.outcome⟩) pool { pool with ended := front ++ back }
  | idles {pool : ReadPool σ shape docs} {exchange : Exchange} (apart : ¬ exchange.1.IsRead) :
    Step (.call exchange) pool pool

/-- The events, one after the other, are what the reads in the background allow. -/
inductive Serves : ReadPool σ shape docs → List (UploadEvent σ shape docs) → Prop
  | nil (pool : ReadPool σ shape docs) : Serves pool []
  | cons {pool next : ReadPool σ shape docs} {event : UploadEvent σ shape docs}
      {rest : List (UploadEvent σ shape docs)} (step : Step event pool next)
      (later : Serves next rest) : Serves pool (event :: rest)

/-- A read that is given away was made in a pass of its own. -/
theorem Step.passesOver {exchange : Exchange} (step : Step (.call exchange) pool next) :
    exchange.PassesOver σ shape docs := by
  cases step with
  | begins => trivial
  | gives has => exact PartRead.passes _
  | idles apart =>
    obtain ⟨call, reply⟩ := exchange
    cases call with
    | endRead key part => exact absurd trivial apart
    | readDocIds => exact absurd trivial apart
    | _ => trivial

/-- **What an upload is given of a part is what a pass of its own brings**, whenever it ended. -/
theorem Serves.passesOver (serves : Serves pool history) :
    ∀ exchange ∈ callsIn history, exchange.PassesOver σ shape docs := by
  induction serves with
  | nil pool => simp [callsIn]
  | @cons pool next event rest step later ih =>
    cases event with
    | call exchange =>
      have calls_eq : callsIn (.call exchange :: rest) = exchange :: callsIn rest := rfl
      rw [calls_eq]
      exact List.forall_mem_cons.mpr ⟨step.passesOver, ih⟩
    | readEnds read => exact ih

/-- If the reads of a trace are awaited in the order in which they began, there is a time for each of
them to end.

**Proof sketch.** Induction on the trace: each read ends just before it is waited for. -/
theorem exists_serves_of_follows {limit : Nat} {before after : Overlap} {trace : Trace}
    (follows : Overlap.Follows limit before trace after)
    (passes : ∀ exchange ∈ trace, exchange.PassesOver σ shape docs)
    (no_ids : ∀ exchange ∈ trace, exchange.1 ≠ .readDocIds) :
    ∃ history : List (UploadEvent σ shape docs), callsIn history = trace ∧
      Serves ⟨before.reading, []⟩ history := by
  induction trace generalizing before with
  | nil => exact ⟨[], rfl, .nil _⟩
  | cons exchange rest ih =>
    obtain ⟨middle, step, later⟩ := follows
    obtain ⟨passes_first, passes_rest⟩ := List.forall_mem_cons.mp passes
    obtain ⟨no_ids_first, no_ids_rest⟩ := List.forall_mem_cons.mp no_ids
    obtain ⟨history, rfl, serves⟩ := ih later passes_rest no_ids_rest
    obtain ⟨call, reply⟩ := exchange
    cases call with
    | beginRead key part =>
      obtain ⟨rfl, _⟩ := step
      exact ⟨.call _ :: history, rfl, .cons .begins serves⟩
    | endRead key part =>
      obtain rfl : before = _ := step
      -- the read that is waited for is the oldest one, and ends now
      let read : PartRead σ shape docs := ⟨key, part, reply, passes_first⟩
      have ends : Step (.readEnds read) ⟨part :: middle.reading, []⟩ ⟨middle.reading, [read]⟩ :=
        @Step.ends _ _ _ _ ⟨part :: middle.reading, []⟩ read [] middle.reading rfl
      have gives : Step (.call ⟨.endRead key part, reply⟩) ⟨middle.reading, [read]⟩
          ⟨middle.reading, []⟩ := @Step.gives _ _ _ _ ⟨middle.reading, [read]⟩ read [] [] rfl
      exact ⟨.readEnds read :: .call _ :: history, rfl, .cons ends (.cons gives serves)⟩
    | readDocIds => exact absurd rfl no_ids_first
    | beginPart part data =>
      obtain ⟨rfl, _⟩ := step
      exact ⟨.call _ :: history, rfl, .cons (.idles id) serves⟩
    | endPart part =>
      have same : middle.reading = before.reading := by
        rcases reply with error | ⟨⟩
        · exact congrArg Overlap.reading step
        · exact step.2
      rw [same] at serves
      exact ⟨.call _ :: history, rfl, .cons (.idles id) serves⟩
    | _ =>
      obtain rfl : middle = before := step
      exact ⟨.call _ :: history, rfl, .cons (.idles id) serves⟩

end ReadPool

/-! ### Parts that can be read -/

/-- The documents have vectors of the dimension that the shape says, whose width is computed without
overflow, and `total` bytes or more. -/
structure CorpusShape.Offers (shape : CorpusShape) (docs : List (DocId × Elements)) (total : UInt64) :
    Prop where
  float32 : shape.elementType = .float32
  width_eq : shape.bytesPerVector.toNat = 4 * shape.dimension.toNat
  positive : 0 < shape.dimension.toNat
  uniform : ∀ doc ∈ docs, doc.2.length = shape.dimension.toNat
  asked : 0 < total
  enough : total.toNat ≤ (encodeVectors docs).length

namespace CorpusShape.Offers

variable {total : UInt64}

/-- All vectors are as wide as the shape says. -/
theorem uniform_width (offers : shape.Offers docs total) :
    ∀ doc ∈ docs, 4 * doc.2.length = shape.bytesPerVector.toNat := by
  intro doc mem
  rw [offers.uniform doc mem, offers.width_eq]

/-- A part can be read exactly if it starts at a vector. -/
theorem reply_of_passesOver (offers : shape.Offers docs total) {key : String} {part : Part}
    {reply : Except Failure part.Data} (inside : part.offset.toNat + part.length.toNat ≤ total.toNat)
    (passes : Exchange.PassesOver σ shape docs ⟨.endRead key part, reply⟩) :
    (shape.bytesPerVector.toNat ∣ part.offset.toNat ∧ ∃ data, reply = .ok data) ∨
    (¬ shape.bytesPerVector.toNat ∣ part.offset.toNat ∧
      reply = .error (.invalidRange part.offset.toNat shape.bytesPerVector.toNat)) := by
  obtain ⟨cursor, yields, rfl⟩ := passes
  by_cases aligned : shape.bytesPerVector.toNat ∣ part.offset.toNat
  · have positive : 0 < shape.bytesPerVector.toNat := by
      have := offers.positive
      rw [offers.width_eq]
      omega
    obtain ⟨data, read_eq, _⟩ := Corpus.readPart_of_aligned offers.float32 positive
      offers.uniform_width yields aligned (Nat.le_trans inside offers.enough) key
    exact .inl ⟨aligned, data, read_eq⟩
  · exact .inr ⟨aligned, Corpus.readPart_of_misaligned offers.float32 cursor aligned key⟩

end CorpusShape.Offers

namespace Upload

open UploadEvent

variable {area : StagingArea} {key : String} {path : ObjectPath} {total : UInt64} {trace : Trace}
  {before after : StoreState} {history : List (UploadEvent σ shape docs)}
  {outcome : Except Failure Nat}

/-- **An upload waits for no read that has not begun**: whatever its reads bring, there is a time for each
of them to end. -/
theorem exists_serves_of_run (parsed : ObjectPath.parse key = .ok path)
    (in_parts : area.multipart ∧ 0 < total) (run : Run (vectors area key total) trace outcome)
    (passes : ∀ exchange ∈ trace, exchange.PassesOver σ shape docs) :
    ∃ history : List (UploadEvent σ shape docs), callsIn history = trace ∧
      ReadPool.Serves {} history := by
  obtain ⟨⟨last, awaited, advances, _⟩, _⟩ := advances_vectors parsed in_parts run
  refine ReadPool.exists_serves_of_follows advances.follows passes fun exchange mem same => ?_
  have uploads := run.forall_within (within_upload (.read area total)) exchange mem
  rw [same] at uploads
  exact uploads

/-! ### What an upload comes to -/

/-- An upload of the first bytes of documents whose parts are read in the background. There is no object
under its key and the store fails no call. -/
structure Overlapping (area : StagingArea) (key : String) (path : ObjectPath) (total : UInt64)
    (before : StoreState) (history : List (UploadEvent σ shape docs)) (after : StoreState)
    (outcome : Except Failure Nat) : Prop where
  offers : shape.Offers docs total
  parsed : ObjectPath.parse key = .ok path
  absent : before.objects path = none
  runs : Run (vectors area key total) (callsIn history) outcome
  served : ReadPool.Serves {} history
  follows : FollowsTruly before (callsIn history) after
  works : ∀ exchange ∈ callsIn history, exchange.uploadFails = false

/-- The first bytes of documents are counted and are under a path, and nothing else has changed. -/
def Stores (path : ObjectPath) (total : UInt64) (bytes : Bytes) (before after : StoreState)
    (outcome : Except Failure Nat) : Prop :=
  outcome = .ok total.toNat ∧
    after.objects = Function.update before.objects path (some (bytes.take total.toNat))

/-- The parts of a plan are sent once each and in their order, never more of them than may be under way
at once, and the upload is completed once, when all of them are acknowledged. -/
structure SendsInOrder (options : TransferOptions) (total : UInt64) (bytes : Bytes) (trace : Trace) :
    Prop where
  sent : trace.sent =
    (Part.plan total options.partSize).map fun part => (part, bytes.slice part.extent)
  ascending : trace.sent.map (fun sent => sent.1.index) =
    List.range (Part.plan total options.partSize).length
  bounded : ∀ front back : Trace, trace = front ++ back → ∃ unacknowledged : List Part,
    (front.sent.map Prod.fst).Perm (front.acknowledged ++ unacknowledged) ∧
      unacknowledged.length ≤ max options.concurrency.toNat 1
  completed : trace.CompletesOnce

/-- What an upload of the first bytes of documents comes to: in one piece the object is stored; in parts
it is stored if all parts start at vectors, and otherwise the second part is refused. -/
structure Overlapped (shape : CorpusShape) (bytes : Bytes) (area : StagingArea) (path : ObjectPath)
    (total : UInt64) (before : StoreState) (trace : Trace) (after : StoreState)
    (outcome : Except Failure Nat) : Prop where
  in_one_piece : area.multipart = false → Stores path total bytes before after outcome
  in_parts : area.multipart = true →
    shape.bytesPerVector.toNat ∣ max area.options.partSize.toNat 1 ∨
      (Part.plan total area.options.partSize).length = 1 →
    Stores path total bytes before after outcome ∧ SendsInOrder area.options total bytes trace
  refused : area.multipart = true →
    ¬ (shape.bytesPerVector.toNat ∣ max area.options.partSize.toNat 1 ∨
      (Part.plan total area.options.partSize).length = 1) →
    outcome = .error
      (.invalidRange (max area.options.partSize.toNat 1) shape.bytesPerVector.toNat) ∧
    after.objects = before.objects

namespace Overlapping

/-- Of parts that start at vectors none fails to be read. -/
theorem readable (overlapping : Overlapping area key path total before history after outcome)
    (aligned : ∀ part ∈ (UploadSource.read area total).parts,
      shape.bytesPerVector.toNat ∣ part.offset.toNat) :
    ∀ part ∈ (UploadSource.read area total).parts, ∀ failure,
      ⟨.endRead key part, .error failure⟩ ∉ callsIn history := by
  intro part planned failure came
  have inside := UploadSource.inside_parts area total part planned
  rcases overlapping.offers.reply_of_passesOver inside (overlapping.served.passesOver _ came) with
    ⟨_, data, same⟩ | ⟨misaligned, _⟩
  · cases same
  · exact misaligned (aligned part planned)

/-- A part that was waited for before anything failed starts at a vector. -/
theorem dvd_of_awaited (overlapping : Overlapping area key path total before history after outcome)
    {front : Trace} (came : front ⊆ callsIn history)
    (clean : ∀ exchange ∈ front, failureOf? key exchange = none) {part : Part}
    (inside : part.offset.toNat + part.length.toNat ≤ total.toNat) (awaited : part ∈ front.awaited) :
    shape.bytesPerVector.toNat ∣ part.offset.toNat := by
  obtain ⟨⟨call, reply⟩, mem, is_read⟩ := List.mem_filterMap.mp awaited
  cases call with
  | endRead key' part' =>
    obtain rfl := Option.some.inj is_read
    rcases overlapping.offers.reply_of_passesOver inside
      (overlapping.served.passesOver _ (came mem)) with ⟨aligned, _⟩ | ⟨_, rfl⟩
    · exact aligned
    · cases clean _ mem
  | _ => cases is_read

/-- **An upload whose parts start at vectors stores the first bytes**, and reads them part by part. -/
theorem stores (overlapping : Overlapping area key path total before history after outcome)
    (aligned : ∀ part ∈ (UploadSource.read area total).parts,
      shape.bytesPerVector.toNat ∣ part.offset.toNat) :
    Stores path total (encodeVectors docs) before after outcome ∧
      (callsIn history).reads = (UploadSource.read area total).parts.map fun part =>
        (part, (encodeVectors docs).slice part.extent) := by
  have readable := overlapping.readable aligned
  obtain ⟨offers, parsed, absent, run, served, follows, works⟩ := overlapping
  obtain ⟨sent, rfl⟩ := (UploadSource.read area total).exists_ok_of_unhindered run parsed absent
    follows works readable
  obtain ⟨path', parsed', _, sent_eq, objects_eq, parts_eq⟩ :=
    (UploadSource.read area total).run_upload_ok run follows.follows
  obtain rfl : path' = path := Except.ok.inj (parsed'.symm.trans parsed)
  have slices : ∀ brought ∈ (callsIn history).reads,
      brought.2 = (encodeVectors docs).slice brought.1.extent := fun brought mem =>
    (Trace.eq_slice_of_mem_reads offers.uniform_width served.passesOver brought mem).2
  refine ⟨⟨congrArg Except.ok sent_eq, ?_⟩, ?_⟩
  · rw [objects_eq, UploadSource.produced_of_slices slices parts_eq]
  · rw [← parts_eq, List.map_map]
    refine (List.map_id _).symm.trans (List.map_congr_left fun brought mem => ?_)
    exact Prod.ext rfl (slices brought mem)

/-- The part at which an upload comes to an end is the second one, which does not start at a vector.

**Proof sketch.** As the parts are awaited in their order, all parts before start at vectors. The first
part always does; and if the second one does, so do all. -/
theorem eq_invalidRange (overlapping : Overlapping area key path total before history after outcome)
    (in_parts : area.multipart = true) {failure : Failure}
    (comes : ComesToUnread key (Part.plan total area.options.partSize) (callsIn history) failure) :
    failure = .invalidRange (max area.options.partSize.toNat 1) shape.bytesPerVector.toNat := by
  obtain ⟨⟨_, _, advances, in_order, _⟩, _⟩ :=
    advances_vectors overlapping.parsed ⟨in_parts, overlapping.offers.asked⟩ overlapping.runs
  obtain ⟨part, planned, front, back, calls_eq, clean⟩ := comes
  have came : ⟨.endRead key part, .error failure⟩ ∈ callsIn history := by
    rw [calls_eq]
    simp
  rcases overlapping.offers.reply_of_passesOver (Part.inside_plan part planned)
    (overlapping.served.passesOver _ came) with ⟨_, data, same⟩ | ⟨unaligned, same⟩
  · cases same
  obtain rfl := Except.error.inj same
  have awaited_eq : (callsIn history).awaited = front.awaited ++ part :: back.awaited := by
    rw [calls_eq, Trace.awaited_append]
    rfl
  rw [← advances.awaited_eq, awaited_eq] at in_order
  obtain ⟨rest, plan_eq⟩ := in_order
  have here : (Part.plan total area.options.partSize)[front.awaited.length]? = some part := by
    rw [← plan_eq, List.append_assoc, List.cons_append,
      List.getElem?_append_right (Nat.le_refl _), Nat.sub_self, List.getElem?_cons_zero]
  have offset_eq := Part.offset_of_getElem?_plan here
  have second : front.awaited.length = 1 := by
    by_contra other
    refine unaligned (offset_eq ▸ ?_)
    rcases Nat.lt_or_gt_of_ne other with none_before | more
    · rw [Nat.lt_one_iff.mp none_before, Nat.zero_mul]
      exact Nat.dvd_zero _
    -- the second part was read, so its offset is at a vector; then that of every part is
    · have before_here : (Part.plan total area.options.partSize)[1]? = some front.awaited[1] := by
        rw [← plan_eq, List.append_assoc, List.getElem?_append_left more,
          List.getElem?_eq_getElem more]
      have aligned := overlapping.dvd_of_awaited (calls_eq ▸ List.subset_append_left _ _) clean
        (Part.inside_plan _ (List.mem_of_getElem? before_here)) (List.getElem_mem more)
      rw [Part.offset_of_getElem?_plan before_here, Nat.one_mul] at aligned
      exact Nat.dvd_mul_left_of_dvd aligned _
  rw [offset_eq, second, Nat.one_mul]

/-- A successful upload has read every part, so that all of them start at vectors. -/
theorem aligned_of_ok {sent : Nat}
    (overlapping : Overlapping area key path total before history after (.ok sent)) :
    ∀ part ∈ (UploadSource.read area total).parts,
      shape.bytesPerVector.toNat ∣ part.offset.toNat := by
  obtain ⟨_, _, _, _, _, reads_eq⟩ :=
    (UploadSource.read area total).run_upload_ok overlapping.runs overlapping.follows.follows
  intro part planned
  have inside := UploadSource.inside_parts area total part planned
  rw [← reads_eq] at planned
  obtain ⟨brought, mem, rfl⟩ := List.mem_map.mp planned
  obtain ⟨key', data, came, _⟩ := Trace.exists_endRead_of_mem_reads mem
  rcases overlapping.offers.reply_of_passesOver inside (overlapping.served.passesOver _ came) with
    ⟨aligned, _⟩ | ⟨_, same⟩
  · exact aligned
  · cases same

/-- **An upload in parts one of which does not start at a vector fails at the second one**, and stores
nothing. -/
theorem refused (overlapping : Overlapping area key path total before history after outcome)
    (in_parts : area.multipart = true)
    (misaligned : ¬ ∀ part ∈ Part.plan total area.options.partSize,
      shape.bytesPerVector.toNat ∣ part.offset.toNat) :
    outcome = .error
      (.invalidRange (max area.options.partSize.toNat 1) shape.bytesPerVector.toNat) ∧
    after.objects = before.objects := by
  have parts_eq : (UploadSource.read area total).parts = Part.plan total area.options.partSize :=
    if_pos ⟨in_parts, overlapping.offers.asked⟩
  rcases (UploadSource.read area total).ok_or_unread overlapping.runs overlapping.parsed
    overlapping.absent overlapping.follows overlapping.works with ⟨sent, rfl⟩ | ⟨failure, rfl, comes⟩
  · exact absurd (parts_eq ▸ overlapping.aligned_of_ok) misaligned
  · have run : Run ((UploadSource.read area total).upload key) (callsIn history) (.error failure) :=
      overlapping.runs
    obtain ⟨kept, _⟩ :=
      UploadSource.sendsOrNot_upload run overlapping.parsed overlapping.follows.follows
    exact ⟨congrArg Except.error (overlapping.eq_invalidRange in_parts (parts_eq ▸ comes)), kept⟩

end Overlapping

/-- **What an upload comes to does not depend on the timing**: neither on which of the reads in the
background ends first, nor on which of the parts that are being sent is acknowledged first. In parts it
stores the same object as in one piece, or else it is refused.

**Proof sketch.** The object stored is known whatever the timing (`Overlapping.stores`), as every part
is read from a document on; the parts are sent as they are waited for (`advances_vectors`). If the plan
does not keep to vectors there is more than one part, and the upload is refused (`Overlapping.refused`).
-/
theorem overlapped (overlapping : Overlapping area key path total before history after outcome) :
    Overlapped shape (encodeVectors docs) area path total before (callsIn history) after outcome where
  in_one_piece whole := by
    have parts_eq : (UploadSource.read area total).parts = [⟨0, 0, total⟩] :=
      if_neg fun both => Bool.false_ne_true (whole.symm.trans both.1)
    refine (overlapping.stores fun part mem => ?_).1
    rw [parts_eq] at mem
    obtain rfl := List.mem_singleton.mp mem
    exact Nat.dvd_zero _
  in_parts multipart aligned := by
    have both : area.multipart ∧ 0 < total := ⟨multipart, overlapping.offers.asked⟩
    have parts_eq : (UploadSource.read area total).parts = Part.plan total area.options.partSize :=
      if_pos both
    have aligned' := Part.dvd_offset_plan_iff.mpr (aligned.imp_right Nat.le_of_eq)
    rw [← parts_eq] at aligned'
    obtain ⟨stores, reads_eq⟩ := overlapping.stores aligned'
    obtain ⟨⟨_, _, advances, _⟩, once⟩ := advances_vectors overlapping.parsed both overlapping.runs
    rw [parts_eq, ← advances.sent_eq] at reads_eq
    refine ⟨stores, reads_eq, ?_, fun front back calls_eq => ?_, once _ stores.1⟩
    · rw [reads_eq, List.map_map]
      exact Part.map_index_plan _ _
    · exact Overlap.exists_unacknowledged (calls_eq ▸ advances.follows)
  refused multipart misaligned := by
    refine overlapping.refused multipart fun aligned => misaligned ?_
    refine (Part.dvd_offset_plan_iff.mp aligned).imp_right fun few => ?_
    have some_part : Part.plan total area.options.partSize ≠ [] := by
      intro none_planned
      have length_eq := lengthOf_plan total area.options.partSize
      rw [none_planned, lengthOf_nil] at length_eq
      have asked := UInt64.lt_iff_toNat_lt.mp overlapping.offers.asked
      rw [← length_eq] at asked
      exact Nat.lt_irrefl _ asked
    have := List.length_pos_iff.mpr some_part
    omega

/-! ### Two parts, the second one first -/

/-- Two documents of dimension one. -/
def pairOfDocs : List (DocId × Elements) := [(0, [7]), (1, [9])]

/-- What the corpus reports. -/
def pairShape : CorpusShape := { dimension := 1, liveCount := 2 }

/-- The first part of an upload of both vectors, which has been read. -/
def firstRead : PartRead MemoryCursor pairShape pairOfDocs :=
  ⟨"k", ⟨0, 0, 4⟩, .ok ⟨[7, 0, 0, 0], rfl⟩, ⟨pairOfDocs, none⟩, MemoryCursor.yields _ _,
    by decide +kernel⟩

/-- What the read of the second part comes to. -/
def secondRead : PartRead MemoryCursor pairShape pairOfDocs :=
  ⟨"k", ⟨1, 4, 4⟩, .ok ⟨[9, 0, 0, 0], rfl⟩, ⟨pairOfDocs, none⟩, MemoryCursor.yields _ _,
    by decide +kernel⟩

/-- The second read ends before the first one, and the second part is acknowledged before the first
one. -/
def backwards : List (UploadEvent MemoryCursor pairShape pairOfDocs) :=
  [.call ⟨.head ⟨["k"]⟩, .error (.notFound "k" "")⟩, .call ⟨.notify (.started "k" 8), ()⟩,
    .call ⟨.openUpload ⟨["k"]⟩, .ok ()⟩,
    .call ⟨.beginRead "k" ⟨0, 0, 4⟩, ()⟩, .call ⟨.beginRead "k" ⟨1, 4, 4⟩, ()⟩,
    .readEnds secondRead, .readEnds firstRead,
    .call ⟨.endRead "k" ⟨0, 0, 4⟩, .ok ⟨[7, 0, 0, 0], rfl⟩⟩,
    .call ⟨.beginPart ⟨0, 0, 4⟩ [7, 0, 0, 0], ()⟩,
    .call ⟨.endRead "k" ⟨1, 4, 4⟩, .ok ⟨[9, 0, 0, 0], rfl⟩⟩,
    .call ⟨.beginPart ⟨1, 4, 4⟩ [9, 0, 0, 0], ()⟩,
    .call ⟨.choose 1, (1 : Fin 2)⟩, .call ⟨.endPart ⟨1, 4, 4⟩, .ok ()⟩,
    .call ⟨.notify (.progress "k" 4 8), ()⟩,
    .call ⟨.choose 0, (0 : Fin 1)⟩, .call ⟨.endPart ⟨0, 0, 4⟩, .ok ()⟩,
    .call ⟨.notify (.progress "k" 8 8), ()⟩,
    .call ⟨.completeUpload, .ok ()⟩,
    .call ⟨.count (.moved .upload 8), ()⟩, .call ⟨.notify (.complete "k" 8), ()⟩]

/-- An empty store. -/
def nothingStored : StoreState := ⟨fun _ => none, none⟩

/-- The store with both vectors. -/
def pairStored : StoreState :=
  { nothingStored with
    objects := Function.update nothingStored.objects ⟨["k"]⟩ (some [7, 0, 0, 0, 9, 0, 0, 0]) }

/-- Two parts, two of which may be under way. -/
def pairArea : StagingArea := ⟨"", true, ⟨4, 4, 2⟩⟩

/-- Two parts that are read at once may end in the other order: the upload waits, and sends them in
their own.

**Proof sketch.** The history is given, so that each of its reads, waits and sends is looked at. -/
theorem overlapping_backwards :
    Overlapping pairArea "k" ⟨["k"]⟩ 8 nothingStored backwards pairStored (.ok 8) where
  offers := ⟨rfl, by decide, by decide, by decide, by decide, by decide⟩
  parsed := by decide +kernel
  absent := rfl
  runs := by
    have path_eq : BlobStore.pathOf "k" = .ofExcept (.ok ⟨["k"]⟩) := by
      have parsed : ObjectPath.parse "k" = .ok ⟨["k"]⟩ := by decide +kernel
      rw [BlobStore.pathOf, parsed]
      rfl
    have plan_eq : Part.plan 8 4 = [⟨0, 0, 4⟩, ⟨1, 4, 4⟩] := by decide +kernel
    simp only [vectors, whole, ensureAbsent, BlobStore.contains, BlobStore.head, inParts, path_eq,
      pairArea, plan_eq]
    exact .ask (.ask (.ask (.ask (.ask (.ask (.ask (.ask (.ask (.ask (.ask (.ask (.ask (.ask (.ask
      (.ask (.ask (.ask (.done _))))))))))))))))))
  served := by
    refine .cons (.idles id) (.cons (.idles id) (.cons (.idles id) ?_))
    refine .cons .begins (.cons .begins ?_)
    have ends_second : ReadPool.Step (.readEnds secondRead) ⟨[⟨0, 0, 4⟩, ⟨1, 4, 4⟩], []⟩
        ⟨[⟨0, 0, 4⟩], [secondRead]⟩ :=
      @ReadPool.Step.ends _ _ _ _ ⟨[⟨0, 0, 4⟩, ⟨1, 4, 4⟩], []⟩ secondRead [⟨0, 0, 4⟩] [] rfl
    have ends_first : ReadPool.Step (.readEnds firstRead) ⟨[⟨0, 0, 4⟩], [secondRead]⟩
        ⟨[], [secondRead, firstRead]⟩ :=
      @ReadPool.Step.ends _ _ _ _ ⟨[⟨0, 0, 4⟩], [secondRead]⟩ firstRead [] [] rfl
    have gives_first : ReadPool.Step (.call ⟨.endRead "k" ⟨0, 0, 4⟩, .ok ⟨[7, 0, 0, 0], rfl⟩⟩)
        ⟨[], [secondRead, firstRead]⟩ ⟨[], [secondRead]⟩ :=
      @ReadPool.Step.gives _ _ _ _ ⟨[], [secondRead, firstRead]⟩ firstRead [secondRead] [] rfl
    have gives_second : ReadPool.Step (.call ⟨.endRead "k" ⟨1, 4, 4⟩, .ok ⟨[9, 0, 0, 0], rfl⟩⟩)
        ⟨[], [secondRead]⟩ ⟨[], []⟩ :=
      @ReadPool.Step.gives _ _ _ _ ⟨[], [secondRead]⟩ secondRead [] [] rfl
    refine .cons ends_second (.cons ends_first (.cons gives_first (.cons (.idles id) ?_)))
    refine .cons gives_second (.cons (.idles id) (.cons (.idles id) (.cons (.idles id) ?_)))
    refine .cons (.idles id) (.cons (.idles id) (.cons (.idles id) (.cons (.idles id) ?_)))
    exact .cons (.idles id) (.cons (.idles id) (.cons (.idles id) (.nil _)))
  follows := by
    refine ⟨_, ⟨⟨rfl, rfl⟩, trivial⟩, _, ⟨rfl, trivial⟩, _, ⟨rfl, trivial⟩, ?_⟩
    refine ⟨_, ⟨rfl, trivial⟩, _, ⟨rfl, trivial⟩, _, ⟨rfl, trivial⟩, _, ⟨rfl, trivial⟩, ?_⟩
    refine ⟨_, ⟨rfl, trivial⟩, _, ⟨rfl, trivial⟩, _, ⟨rfl, trivial⟩, _, ⟨rfl, trivial⟩, ?_⟩
    refine ⟨_, ⟨rfl, trivial⟩, _, ⟨rfl, trivial⟩, _, ⟨rfl, trivial⟩, _, ⟨rfl, trivial⟩, ?_⟩
    exact ⟨pairStored, ⟨⟨_, fun _ => rfl, rfl⟩, trivial⟩, _, ⟨rfl, trivial⟩, _, ⟨rfl, trivial⟩, rfl⟩
  works := by
    decide

/-- Both parts are sent in their order, and the object is made of both vectors. -/
theorem overlapped_backwards :
    Overlapping pairArea "k" ⟨["k"]⟩ 8 nothingStored backwards pairStored (.ok 8) ∧
    Stores ⟨["k"]⟩ 8 (encodeVectors pairOfDocs) nothingStored pairStored (.ok 8) ∧
    SendsInOrder pairArea.options 8 (encodeVectors pairOfDocs) (callsIn backwards) :=
  ⟨overlapping_backwards, (overlapped overlapping_backwards).in_parts rfl (.inl (by decide))⟩

end Upload

end GraphOffload
