import GraphOffload.Proofs.Build.Staging

/-!
# What a job says of its blobs

A job names the blobs that were staged for it and says how many vectors there are and of which
dimension. What it says comes from three places: the count from the request, which has to agree with
what the corpus reports, the dimension from the field, which nothing is compared with, and the bytes from
passes over the corpus. The vectors are read up to the size that the corpus reports, the ids up to the
end of a pass. So a corpus with fewer documents than it reports is noticed, and one with more is not.

Sizes are words of 64 bits. Where the size that a corpus reports is compared with a count and a dimension,
these are taken to have a number of bytes that fits such a word: a larger one would be reported modulo
`2 ^ 64`.

## Main definitions

* `GraphOffload.Build.Declares` : what a job says of its vector blob, and how long the blob is.
* `GraphOffload.Build.Pairs` : which documents the blobs of a job are of.
* `GraphOffload.Build.PairsOrFails` : a job is submitted for such blobs, or the staging fails.

## Main results

* `GraphOffload.Build.exists_received_of_submit` : a job is submitted for blobs that the store got.
* `GraphOffload.Build.execute_declares` : the blob is as long as the corpus reports, and the job says so
  exactly if the field has the dimension of the corpus, where the size fits 64 bits.
* `GraphOffload.Build.execute_pairsOrFails` : the vectors are those of the first documents, as many as
  reported, and the ids those of all; with fewer documents than reported no job is submitted. The number
  reported is one whose vectors have a size that fits 64 bits.
-/

namespace GraphOffload

open Attempting StoreState

/-! ### Reported sizes -/

/-- A corpus that is worth a remote build reports vectors of 32-bit floats, and not none. -/
theorem BuildSettings.live_of_eligible {settings : BuildSettings} {shape : CorpusShape}
    (eligible : settings.ineligible? shape = none) :
    shape.elementType = .float32 ∧ 0 < shape.liveCount.toNat := by
  have float32 : shape.elementType = .float32 := by grind [ineligible?]
  have some_live : shape.liveCount ≠ 0 := by grind [ineligible?]
  refine ⟨float32, Nat.pos_of_ne_zero fun none_live => some_live ?_⟩
  exact UInt64.toNat_inj.mp none_live

namespace Build

variable {area : StagingArea} {settings : BuildSettings} {request : BuildRequest} {trace : Trace}
  {docs : List (DocId × Elements)} {σ : Type} [Cursor σ]

/-! ### Jobs and what was received for them -/

/-- Nothing is staged for a request with something wrong. -/
theorem Reaches.requestFault?_eq_none {milestone : Milestone}
    (reaches : Reaches area settings request trace milestone) :
    requestFault? area settings request = none := by
  induction reaches with
  | named right idle => exact right
  | _ => assumption

/-- A request with nothing wrong is for as many documents as the corpus reports. -/
theorem totalLiveDocs_eq (right : requestFault? area settings request = none) :
    request.totalLiveDocs = request.shape.liveCount := by
  grind [requestFault?]

variable {start here : StoreState} {outcome : Except Failure BuildOutcome} {front back : Trace}
  {job : BuildJob} {reply : Except Failure String}

/-- **When a job is submitted, the store has what was read of the corpus under the keys of the job**,
and the job is for as many documents as the corpus reports. -/
theorem exists_received_of_submit
    (run : Run (execute area settings request) (front ++ ⟨.submit job, reply⟩ :: back) outcome)
    (follows : Follows start front here) :
    settings.ineligible? request.shape = none ∧ request.totalLiveDocs = request.shape.liveCount ∧
      ∃ blobs uploads ids, job = jobOf settings request blobs ∧
        Received area request front here blobs uploads ids := by
  have submits_one :
      ⟨.submit job, reply⟩ ∈ front ++ (⟨.submit job, reply⟩ : Exchange) :: back := by simp
  cases run_execute_submission run with
  | ineligible _ nothing => exact absurd rfl (nothing _ submits_one)
  | unstaged _ _ nothing => exact absurd rfl (nothing _ submits_one)
  | @submitted blobs eligible submits same =>
    obtain ⟨job_eq, before, pause, rfl, idle, staged⟩ := submits.eq_of_split rfl
    obtain ⟨middle, follows, waiting⟩ := follows_append_iff.mp follows
    obtain ⟨uploads, ids, received⟩ := staged.exists_received follows
    have unchanged : here.objects = middle.objects :=
      Trace.objects_eq_of_untouched waiting fun e mem => .inl (idle e mem)
    refine ⟨eligible, totalLiveDocs_eq staged.requestFault?_eq_none, blobs, uploads, ids, job_eq, ?_⟩
    exact { received with
      inside := fun e mem => List.mem_append_left _ (received.inside mem)
      read := List.mem_append_left _ received.read
      vectors := unchanged ▸ received.vectors
      docIds := unchanged ▸ received.docIds }

/-- A build in a world in memory that submits a job has a run, and the store follows it up to the
submission and on to the end. -/
theorem exists_submission (area : StagingArea) (settings : BuildSettings) (request : BuildRequest)
    (world : World σ) (idle : world.store.upload = none)
    (honest : world.store.Honest)
    (submits : ∃ exchange ∈ (execute area settings request).run.transcript World.answer world,
      exchange.1.phase = 1) :
    ∃ front job reply back here after outcome,
      (execute area settings request).run.transcript World.answer world =
        front ++ ⟨.submit job, reply⟩ :: back ∧
      Run (execute area settings request) (front ++ ⟨.submit job, reply⟩ :: back) outcome ∧
      Follows world.store.shown front here ∧
      Follows world.store.shown (front ++ ⟨.submit job, reply⟩ :: back) after := by
  obtain ⟨after, run, truly, _⟩ :=
    World.exists_follows (execute area settings request).run world idle honest
  obtain ⟨⟨call, reply⟩, mem, is_submit⟩ := submits
  cases call with
  | submit job =>
    obtain ⟨front, back, split⟩ := List.append_of_mem mem
    rw [split] at run truly
    obtain ⟨here, reaching, _⟩ := follows_append_iff.mp truly.follows
    exact ⟨front, job, reply, back, here, after, _, split, run, reaching, truly.follows⟩
  | _ => simp [Call.phase] at is_submit

/-! ### The declared size -/

/-- What a job says of its vector blob, and how long the blob is. -/
structure Declares (request : BuildRequest) (here : StoreState) (job : BuildJob) : Prop where
  vectorCount : job.vectorCount = request.shape.liveCount
  dimension : job.dimension = request.field.dimension
  /-- The blob is as long as the corpus reports. -/
  blob : ∃ path vectors, ObjectPath.parse job.vectorKey = .ok path ∧
    here.objects path = some vectors ∧ vectors.length = request.shape.totalBytes.toNat
  /-- The job says so exactly if the field has the dimension of the corpus. This is for a corpus whose
  size in bytes fits 64 bits, so that the size which it reports is not a remainder. -/
  agrees : 4 * request.shape.dimension.toNat * request.shape.liveCount.toNat < UInt64.size →
    (job.vectorCount.toNat * job.dimension.toNat * 4 = request.shape.totalBytes.toNat ↔
      request.field.dimension = request.shape.dimension)

/-- **What a job says of its vector blob is what the blob is, exactly if the field has the dimension of
the corpus.** Whatever is read of the corpus and whatever the store replies, a job is submitted only
when the blob has as many bytes as the corpus reports; its count is the one that the corpus reports, and
its dimension that of the field. That the two agree in size exactly for the right dimension is said where
the size of the corpus fits 64 bits; all else is said of every corpus.

**Proof sketch.** The count was compared with the one of the corpus before anything was staged, so that
the two sizes are the same count times four times a dimension each. -/
theorem execute_declares (start : StoreState)
    (run : Run (execute area settings request) (front ++ ⟨.submit job, reply⟩ :: back) outcome)
    (follows : Follows start front here) : Declares request here job := by
  obtain ⟨eligible, same_count, blobs, uploads, ids, rfl, received⟩ :=
    exists_received_of_submit run follows
  obtain ⟨float32, some_live⟩ := BuildSettings.live_of_eligible eligible
  obtain ⟨path, parsed, vectors⟩ := received.vectors
  refine ⟨same_count, rfl, ⟨path, _, parsed, vectors, ?_⟩, fun fits => ?_⟩
  · exact UploadSource.length_produced received.planned
  · change request.totalLiveDocs.toNat * request.field.dimension.toNat * 4 = _ ↔ _
    rw [same_count, CorpusShape.toNat_totalBytes float32 fits, Nat.mul_comm _ 4, Nat.mul_comm
      request.shape.liveCount.toNat, ← Nat.mul_assoc, Nat.mul_left_inj (Nat.ne_of_gt some_live),
      Nat.mul_right_inj (by decide), UInt64.toNat_inj]

/-- The small build: two vectors of one element, and a field of that dimension. -/
theorem execute_declares_small_graph :
    ∃ front job reply back here outcome,
      Run (execute World.smallArea World.smallSettings World.smallRequest)
        (front ++ ⟨.submit job, reply⟩ :: back) outcome ∧
      Follows (World.small []).store.shown front here ∧ Declares World.smallRequest here job := by
  obtain ⟨front, job, reply, back, here, _, outcome, _, run, follows, _⟩ :=
    exists_submission World.smallArea World.smallSettings World.smallRequest (World.small []) rfl
      (by simp [World.small, FaultyStore.Honest]) (by decide +kernel)
  exact ⟨front, job, reply, back, here, outcome, run, follows, execute_declares _ run follows⟩

/-- A request for a field of dimension two, from the corpus of the small world, whose vectors have one
element. -/
def wideRequest : BuildRequest :=
  { World.smallRequest with field := { name := "f", dimension := 2 } }

/-- The job for such a request is submitted, and says that its blob is longer than it is. -/
theorem execute_misdeclares_wide_field :
    ∃ front job reply back here outcome path vectors,
      Run (execute World.smallArea World.smallSettings wideRequest)
        (front ++ ⟨.submit job, reply⟩ :: back) outcome ∧
      Follows (World.small []).store.shown front here ∧
      ObjectPath.parse job.vectorKey = .ok path ∧ here.objects path = some vectors ∧
      job.vectorCount.toNat * job.dimension.toNat * 4 ≠ vectors.length := by
  obtain ⟨front, job, reply, back, here, _, outcome, _, run, follows, _⟩ :=
    exists_submission World.smallArea World.smallSettings wideRequest (World.small []) rfl
      (by simp [World.small, FaultyStore.Honest]) (by decide +kernel)
  obtain ⟨_, _, blobs, uploads, ids, rfl, received⟩ := exists_received_of_submit run follows
  obtain ⟨path, parsed, vectors⟩ := received.vectors
  have eight : ((vectorSource World.smallArea wideRequest).produced uploads).length = 8 :=
    UploadSource.length_produced received.planned
  refine ⟨front, _, reply, back, here, outcome, path, _, run, follows, parsed, vectors, ?_⟩
  rw [eight]
  change 2 * 2 * 4 ≠ 8
  decide

/-! ### Paired ids -/

/-- Which documents the blobs of a job are of: the vectors are those of the first documents, as many as
the corpus reports, and the ids are those of all. -/
structure Pairs (request : BuildRequest) (docs : List (DocId × Elements)) (here : StoreState)
    (job : BuildJob) : Prop where
  vectorCount : job.vectorCount = request.shape.liveCount
  /-- There are as many documents as the job says. -/
  enough : job.vectorCount.toNat ≤ docs.length
  vectors : ∃ path, ObjectPath.parse job.vectorKey = .ok path ∧
    here.objects path = some (encodeVectors (docs.take job.vectorCount.toNat))
  /-- The ids of the same documents in the same order come first. -/
  docIds : ∃ path, ObjectPath.parse job.docIdKey = .ok path ∧ here.objects path =
    some (encodeIds (docs.take job.vectorCount.toNat) ++ encodeIds (docs.drop job.vectorCount.toNat))
  /-- No other ids follow exactly if there are no more documents than the corpus reports. -/
  surplus : encodeIds (docs.drop job.vectorCount.toNat) = [] ↔
    request.shape.liveCount.toNat = docs.length

/-- The blobs pair the ids of the first documents with their vectors.

**Proof sketch.** As many bytes were read for the vectors as the corpus reports, and all of them are
bytes of the documents; so there are that many. -/
theorem Received.pairs {blobs : StagedBlobs} {uploads : Trace} {ids : Bytes}
    (received : Received area request trace here blobs uploads ids)
    (eligible : settings.ineligible? request.shape = none)
    (same_count : request.totalLiveDocs = request.shape.liveCount)
    (dimension : ∀ doc ∈ docs, doc.2.length = request.shape.dimension.toNat)
    (fits : 4 * request.shape.dimension.toNat * request.shape.liveCount.toNat < UInt64.size)
    (few : docs.length ≤ walkLimit)
    (passes : ∀ exchange ∈ trace, exchange.PassesOver σ request.shape docs) :
    Pairs request docs here (jobOf settings request blobs) := by
  obtain ⟨float32, some_live⟩ := BuildSettings.live_of_eligible eligible
  have width_eq := CorpusShape.toNat_bytesPerVector float32 fits some_live
  have total_eq : request.shape.totalBytes.toNat =
      request.shape.liveCount.toNat * request.shape.bytesPerVector.toNat := by
    rw [CorpusShape.toNat_totalBytes float32 fits, width_eq, Nat.mul_comm]
  have uniform : ∀ doc ∈ docs, 4 * doc.2.length = request.shape.bytesPerVector.toNat := by
    intro doc mem
    rw [dimension doc mem, width_eq]
  have passes_uploads : ∀ exchange ∈ uploads, exchange.PassesOver σ request.shape docs :=
    fun e mem => passes e (received.inside mem)
  obtain rfl := encodeIds_of_passesOver few (passes _ received.read)
  have produced := produced_eq_take uniform passes_uploads received.planned
  have whole := UploadSource.length_produced received.planned
  -- a part was read, and of vectors without bytes none can be
  obtain ⟨brought, mem⟩ : ∃ brought, brought ∈ uploads.reads := by
    refine List.exists_mem_of_ne_nil _ fun nothing => ?_
    have planned := received.planned
    rw [nothing] at planned
    exact UploadSource.parts_ne_nil _ _ planned.symm
  have positive := (Trace.eq_slice_of_mem_reads uniform passes_uploads brought mem).1
  have enough : request.shape.liveCount.toNat ≤ docs.length := by
    rw [produced, List.length_take, length_encodeVectors uniform] at whole
    change min request.shape.totalBytes.toNat _ = request.shape.totalBytes.toNat at whole
    rw [total_eq] at whole
    refine Nat.le_of_mul_le_mul_right ?_ positive
    rw [← whole]
    exact Nat.min_le_right _ _
  have count_eq : (jobOf settings request blobs).vectorCount = request.shape.liveCount := same_count
  rw [total_eq, take_encodeVectors uniform] at produced
  refine ⟨count_eq, ?_, ?_, ?_, ?_⟩
  · rw [count_eq]
    exact enough
  · rw [count_eq, ← produced]
    exact received.vectors
  · rw [encodeIds, encodeIds, ← List.flatMap_append, List.take_append_drop]
    exact received.docIds
  · rw [count_eq, ← List.length_eq_zero_iff, length_encodeIds, List.length_drop]
    omega

/-- How the blobs of a build are paired, if the corpus reports the right number of documents, more or
fewer. -/
structure PairsOrFails (area : StagingArea) (settings : BuildSettings) (request : BuildRequest)
    (docs : List (DocId × Elements)) (start : StoreState) (trace : Trace) : Prop where
  /-- Whenever a job is submitted, the ids of its first documents are paired with their vectors. -/
  submitted : ∀ front job reply back here, trace = front ++ ⟨.submit job, reply⟩ :: back →
    Follows start front here → Pairs request docs here job
  /-- If the corpus has fewer documents than it reports, no job is submitted: the staging fails. -/
  short : settings.ineligible? request.shape = none →
    docs.length < request.shape.liveCount.toNat → trace.SubmitsNothing ∧
      ∃ front back failure, trace = front ++ back ∧
        FailsFirst area settings request front .staging failure

/-- **Ids are paired with vectors as far as the corpus reports documents.** A corpus may report any number
of documents whose vectors have a size that fits 64 bits (`fits`). Then a job is submitted only if there
are that many documents; its vectors are those of the first ones, and their ids come first among the ids
of all. The job has no other ids exactly if the corpus reports the right number. With fewer documents
than reported the staging fails.

**Proof sketch.** The vectors are read up to the reported size, and a part that comes up short is
refused; the ids are read to the end of a pass, and nothing compares their number with the count. -/
theorem execute_pairsOrFails {start after : StoreState}
    (dimension : ∀ doc ∈ docs, doc.2.length = request.shape.dimension.toNat)
    (fits : 4 * request.shape.dimension.toNat * request.shape.liveCount.toNat < UInt64.size)
    (few : docs.length ≤ walkLimit) (run : Run (execute area settings request) trace outcome)
    (passes : ∀ exchange ∈ trace, exchange.PassesOver σ request.shape docs)
    (follows : Follows start trace after) :
    PairsOrFails area settings request docs start trace := by
  have submitted : ∀ front job reply back here, trace = front ++ ⟨.submit job, reply⟩ :: back →
      Follows start front here → Pairs request docs here job := by
    rintro front job reply back here rfl follows
    obtain ⟨eligible, same_count, blobs, uploads, ids, rfl, received⟩ :=
      exists_received_of_submit run follows
    exact received.pairs eligible same_count dimension fits few fun e mem =>
      passes e (List.mem_append_left _ mem)
  refine ⟨submitted, fun eligible short => ?_⟩
  cases run_execute_submission run with
  | ineligible reason => exact absurd eligible reason
  | @unstaged front back failure split fails nothing => exact ⟨nothing, front, back, failure, split, fails⟩
  | @submitted blobs _ submits =>
    obtain ⟨before, pause, reply, rest, split, _⟩ := submits
    rw [← List.append_assoc] at split
    obtain ⟨here, reaching, _⟩ := follows_append_iff.mp (split ▸ follows)
    have pairs := submitted _ _ _ _ here split reaching
    have enough := pairs.enough
    rw [pairs.vectorCount] at enough
    omega

/-- A corpus with two documents that reports one. -/
def surplusWorld : World MemoryCursor :=
  { World.small [] with
    corpus := ⟨{ dimension := 1, liveCount := 1 }, .ok { ahead := [(7, [0]), (9, [1])] }⟩ }

/-- The request for the graph of such a corpus. -/
def surplusRequest : BuildRequest :=
  { World.smallRequest with shape := { dimension := 1, liveCount := 1 }, totalLiveDocs := 1 }

/-- A job is submitted for the first document, whose id is the first of both. -/
theorem execute_pairsOrFails_surplus :
    ∃ front job reply back here outcome,
      Run (execute World.smallArea World.smallSettings surplusRequest)
        (front ++ ⟨.submit job, reply⟩ :: back) outcome ∧
      Follows surplusWorld.store.shown front here ∧
      PairsOrFails World.smallArea World.smallSettings surplusRequest [(7, [0]), (9, [1])]
        surplusWorld.store.shown (front ++ ⟨.submit job, reply⟩ :: back) ∧
      Pairs surplusRequest [(7, [0]), (9, [1])] here job := by
  obtain ⟨front, job, reply, back, here, after, outcome, split, run, reaching, follows⟩ :=
    exists_submission World.smallArea World.smallSettings surplusRequest surplusWorld rfl
      (by simp [surplusWorld, World.small, FaultyStore.Honest]) (by decide +kernel)
  have passes := split ▸ passesOver_transcript
    (execute World.smallArea World.smallSettings surplusRequest).run surplusWorld rfl
    (MemoryCursor.yields [(7, [0]), (9, [1])] none)
  have pairs := execute_pairsOrFails (by decide) (by decide) (by decide) run passes follows
  exact ⟨front, job, reply, back, here, outcome, run, reaching, pairs,
    pairs.submitted front job reply back here rfl reaching⟩

/-- The job says that there is one vector, and its other blob has two ids. -/
theorem execute_mispairs_surplus :
    ∃ front job reply back here outcome path ids,
      Run (execute World.smallArea World.smallSettings surplusRequest)
        (front ++ ⟨.submit job, reply⟩ :: back) outcome ∧
      (∀ exchange ∈ front ++ ⟨.submit job, reply⟩ :: back,
        Exchange.PassesOver MemoryCursor surplusRequest.shape [(7, [0]), (9, [1])] exchange) ∧
      Follows surplusWorld.store.shown front here ∧
      ObjectPath.parse job.docIdKey = .ok path ∧ here.objects path = some ids ∧
      ids = encodeIds [(7, [0]), (9, [1])] ∧ ids.length ≠ 4 * job.vectorCount.toNat := by
  obtain ⟨front, job, reply, back, here, _, outcome, split, run, reaching, _⟩ :=
    exists_submission World.smallArea World.smallSettings surplusRequest surplusWorld rfl
      (by simp [surplusWorld, World.small, FaultyStore.Honest]) (by decide +kernel)
  have passes := split ▸ passesOver_transcript
    (execute World.smallArea World.smallSettings surplusRequest).run surplusWorld rfl
    (MemoryCursor.yields [(7, [0]), (9, [1])] none)
  obtain ⟨_, _, blobs, uploads, ids, rfl, received⟩ := exists_received_of_submit run reaching
  obtain ⟨path, parsed, staged⟩ := received.docIds
  have read_in_pass := passes _ (List.mem_append_left _ received.read)
  obtain rfl := encodeIds_of_passesOver (by decide) read_in_pass
  refine ⟨front, _, reply, back, here, outcome, path, _, run, passes, reaching, parsed, staged, rfl, ?_⟩
  change 8 ≠ 4 * 1
  decide

end Build

end GraphOffload
