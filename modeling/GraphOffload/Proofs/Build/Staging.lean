import GraphOffload.Proofs.Build.Submission
import GraphOffload.Proofs.Corpus.Streams
import GraphOffload.Proofs.Storage.Paths
import GraphOffload.Proofs.Transfer.Unhindered

/-!
# What is staged

The vectors of a corpus are staged in parts, each of which is read in a pass of its own. However
large the parts were to be, they are cut at vectors, so that together they are the vectors one after
the other. When a job is submitted, its blobs are exactly the vectors and the ids of the documents;
and unless the store or the keys stand in the way, one is.

## Main definitions

* `GraphOffload.Exchange.PassesOver` : what is read of a corpus is read in passes over its documents.
* `GraphOffload.Build.vectorSource` : the upload of the vectors.
* `GraphOffload.Build.Received` : the store has what was read of a corpus, whatever that was.
* `GraphOffload.Build.StagedWhole` : the store has all bytes of the documents under the keys of the
  blobs.
* `GraphOffload.Build.StagesWhole` : what a build has to do with the bytes of the documents.

## Main results

* `GraphOffload.Build.planned` : every part of the upload starts at a vector and ends within the
  corpus.
* `GraphOffload.Build.Reaches.exists_received` : staged blobs are what was read of the corpus.
* `GraphOffload.Build.Reaches.of_staged` : staged blobs are whole.
* `GraphOffload.Build.execute_stagesWhole` : so they are when a job is submitted, and a job is
  submitted if nothing stands in the way.
-/

namespace GraphOffload

open Attempting StoreState

/-! ### Passes -/

/-- What is read of a corpus in an exchange is read in a pass of its own, over a fresh cursor that
gives the documents. -/
def Exchange.PassesOver (σ : Type) [Cursor σ] (shape : CorpusShape) (docs : List (DocId × Elements)) :
    Exchange → Prop
  | ⟨.endRead key part, reply⟩ =>
    ∃ cursor : σ, Cursor.Yields docs cursor ∧ reply = Corpus.readPart ⟨shape, .ok cursor⟩ key part
  | ⟨.readDocIds, reply⟩ =>
    ∃ cursor : σ, Cursor.Yields docs cursor ∧ reply = Corpus.encodeDocIds ⟨shape, .ok cursor⟩
  | _ => True

/-- What a pass gives of the ids are those of the documents. -/
theorem encodeIds_of_passesOver {σ : Type} [Cursor σ] {shape : CorpusShape}
    {docs : List (DocId × Elements)} (few : docs.length ≤ walkLimit) {docIds : Bytes}
    (passes : Exchange.PassesOver σ shape docs ⟨.readDocIds, .ok docIds⟩) :
    docIds = encodeIds docs := by
  obtain ⟨cursor, yields, reply_eq⟩ := passes
  rw [Corpus.encodeDocIds_of_yields shape yields few] at reply_eq
  exact Except.ok.inj reply_eq

/-- The fresh name that an exchange brings. -/
def Exchange.name? : Exchange → Option Ulid
  | ⟨.freshName, name⟩ => some name
  | _ => none

namespace Trace

variable {trace : Trace}

/-- The fresh names that were given in a trace. -/
def names (trace : Trace) : List Ulid := trace.filterMap Exchange.name?

/-- What was read in passes over documents is the slice of its extent, however many documents the
corpus reports. -/
theorem eq_slice_of_mem_reads {σ : Type} [Cursor σ] {shape : CorpusShape}
    {docs : List (DocId × Elements)}
    (uniform : ∀ doc ∈ docs, 4 * doc.2.length = shape.bytesPerVector.toNat)
    (passes : ∀ exchange ∈ trace, exchange.PassesOver σ shape docs) :
    ∀ brought ∈ trace.reads, 0 < shape.bytesPerVector.toNat ∧
      brought.2 = Bytes.slice (encodeVectors docs) brought.1.extent := by
  intro brought mem
  obtain ⟨key, data, came, same⟩ := exists_endRead_of_mem_reads mem
  obtain ⟨cursor, yields, reply_eq⟩ := passes _ came
  rw [← same]
  exact Corpus.eq_slice_of_readPart uniform yields reply_eq.symm

/-- Idle calls, and those on the corpus, are nothing for the store. -/
theorem objects_eq_of_untouched {before after : StoreState} (follows : Follows before trace after)
    (untouched : ∀ exchange ∈ trace, exchange.1.IsIdle ∨ exchange.1 = .freshName ∨
      exchange.1 = .readDocIds) :
    after.objects = before.objects := by
  refine follows.objects_eq fun exchange mem event means => ?_
  obtain ⟨call, reply⟩ := exchange
  rcases untouched _ mem with idle | same | same
  · cases call <;> first | exact idle.elim | exact nomatch means
  · obtain rfl : call = .freshName := same
    exact nomatch means
  · obtain rfl : call = .readDocIds := same
    exact nomatch means

end Trace

namespace Build

variable {area : StagingArea} {settings : BuildSettings} {request : BuildRequest} {trace : Trace}
  {docs : List (DocId × Elements)} {σ : Type} [Cursor σ]

/-! ### The plan -/

/-- The upload of the vectors. -/
def vectorSource (area : StagingArea) (request : BuildRequest) : UploadSource :=
  .read (area.alignedTo request.shape.bytesPerVector) request.shape.totalBytes

/-- **Every part of the upload starts at a vector and ends within the corpus**, whatever the part
size. -/
theorem planned (positive : 0 < request.shape.bytesPerVector.toNat) :
    ∀ part ∈ (vectorSource area request).parts, request.shape.bytesPerVector.toNat ∣ part.offset.toNat ∧
      part.offset.toNat + part.length.toNat ≤ request.shape.totalBytes.toNat :=
  UploadSource.aligned_parts area positive _

/-- Every part of the plan can be read, in any pass, and is the slice of its extent. -/
theorem exists_readPart (describes : request.shape.Describes docs) (some_doc : docs ≠ []) {cursor : σ}
    (yields : Cursor.Yields docs cursor) {part : Part} (mem : part ∈ (vectorSource area request).parts)
    (key : String) :
    ∃ data : part.Data, Corpus.readPart ⟨request.shape, .ok cursor⟩ key part = .ok data ∧
      data.val = Bytes.slice (encodeVectors docs) part.extent := by
  have positive : 0 < request.shape.bytesPerVector.toNat := by
    have := describes.positive
    rw [describes.toNat_bytesPerVector some_doc]
    omega
  obtain ⟨aligned, inside⟩ := planned positive part mem
  exact Corpus.readPart_of_yields describes some_doc yields aligned inside key

/-- No part of the plan comes up short, or starts where no vector does. -/
theorem not_unread (describes : request.shape.Describes docs) (some_doc : docs ≠ [])
    (passes : ∀ exchange ∈ trace, exchange.PassesOver σ request.shape docs) {key : String} :
    ∀ part ∈ (vectorSource area request).parts, ∀ failure,
      ⟨.endRead key part, .error failure⟩ ∉ trace := by
  intro part mem failure came
  obtain ⟨cursor, yields, reply_eq⟩ := passes _ came
  obtain ⟨data, read_eq, _⟩ := exists_readPart describes some_doc yields mem key
  exact nomatch reply_eq.trans read_eq

/-- **What is produced of the parts are the vectors one after the other**, as far as the corpus reports
them. -/
theorem produced_eq_take
    (uniform : ∀ doc ∈ docs, 4 * doc.2.length = request.shape.bytesPerVector.toNat)
    (passes : ∀ exchange ∈ trace, exchange.PassesOver σ request.shape docs)
    (parts_eq : trace.reads.map Prod.fst = (vectorSource area request).parts) :
    (vectorSource area request).produced trace =
      (encodeVectors docs).take request.shape.totalBytes.toNat :=
  UploadSource.produced_of_slices
    (fun brought mem => (Trace.eq_slice_of_mem_reads uniform passes brought mem).2) parts_eq

/-- If the corpus reports as many documents as there are, these are all vectors. -/
theorem produced_eq (describes : request.shape.Describes docs)
    (passes : ∀ exchange ∈ trace, exchange.PassesOver σ request.shape docs)
    (parts_eq : trace.reads.map Prod.fst = (vectorSource area request).parts) :
    (vectorSource area request).produced trace = encodeVectors docs := by
  rw [produced_eq_take describes.uniform passes parts_eq]
  exact List.take_of_length_le (Nat.le_of_eq describes.length_encodeVectors)

/-! ### Staged blobs -/

/-- The store has all bytes of the documents under the keys of the blobs, and the blobs say how
many. -/
structure StagedWhole (shape : CorpusShape) (docs : List (DocId × Elements)) (here : StoreState)
    (blobs : StagedBlobs) : Prop where
  /-- The vectors of all documents, in the order of a pass. -/
  vectors : ∃ path, ObjectPath.parse blobs.vectorKey = .ok path ∧
    here.objects path = some (encodeVectors docs)
  /-- The ids of all documents, in the same order. -/
  docIds : ∃ path, ObjectPath.parse blobs.docIdKey = .ok path ∧ here.objects path = some (encodeIds docs)
  vectorBytes : blobs.vectorBytes.toNat = 4 * shape.dimension.toNat * shape.liveCount.toNat
  docIdBytes : blobs.docIdBytes.toNat = 4 * shape.liveCount.toNat

variable {before after : StoreState} {keys : StagedKeys}

/-- The keys of an attempt hold the fresh name that it was given. -/
theorem Reaches.exists_name (reaches : Reaches area settings request trace (.named keys)) :
    ∃ name ∈ trace.names,
      keys = .ofName settings.keyPrefix name request.field.name request.buildUnit := by
  cases reaches with
  | @named pause name right idle =>
    exact ⟨name, List.mem_filterMap.mpr ⟨⟨.freshName, name⟩, by simp, rfl⟩, rfl⟩

/-- Nothing was stored when the keys are made. -/
theorem Reaches.objects_eq_of_named (reaches : Reaches area settings request trace (.named keys))
    (follows : Follows before trace after) : after.objects = before.objects := by
  cases reaches with
  | named right idle =>
    refine Trace.objects_eq_of_untouched follows (List.forall_mem_append.mpr ⟨fun e mem => ?_, by simp⟩)
    exact .inl (idle e mem)

/-- When the ids were read, what was read for the vectors is staged, and nothing else is.

**Proof sketch.** Back from the milestone: reading the ids changes no object, the upload has put what it
has read, and before it nothing was put. -/
theorem Reaches.objects_of_docIdsRead {vectorBytes : Nat} {docIds : Bytes}
    (reaches : Reaches area settings request trace (.docIdsRead keys vectorBytes docIds))
    (follows : Follows before trace after) :
    (∃ name ∈ trace.names,
      keys = .ofName settings.keyPrefix name request.field.name request.buildUnit) ∧
    vectorBytes = request.shape.totalBytes.toNat ∧ ⟨.readDocIds, .ok docIds⟩ ∈ trace ∧
    ∃ uploads path, uploads ⊆ trace ∧
      uploads.reads.map Prod.fst = (vectorSource area request).parts ∧
      ObjectPath.parse keys.vectorKey = .ok path ∧ after.objects =
        Function.update before.objects path (some ((vectorSource area request).produced uploads)) := by
  cases reaches with
  | @docIdsRead _ _ _ _ earlier =>
    cases earlier with
    | @vectorsStaged naming uploads _ _ earlier run =>
      obtain ⟨uploaded, follows, reading⟩ := follows_append_iff.mp follows
      obtain ⟨named, follows, uploading⟩ := follows_append_iff.mp follows
      obtain ⟨name, given, keys_eq⟩ := earlier.exists_name
      have named_eq := earlier.objects_eq_of_named follows
      obtain ⟨path, parsed, _, sent_eq, objects_eq, parts_eq⟩ :=
        (vectorSource area request).run_upload_ok run uploading
      have unchanged : after.objects = uploaded.objects :=
        Trace.objects_eq_of_untouched reading (by simp)
      refine ⟨⟨name, ?_, keys_eq⟩, sent_eq, by simp, uploads, path, ?_, parts_eq, parsed, ?_⟩
      · rw [Trace.names, List.filterMap_append, List.filterMap_append]
        exact List.mem_append_left _ (List.mem_append_left _ given)
      · exact fun e mem => List.mem_append_left _ (List.mem_append_right _ mem)
      · rw [unchanged, objects_eq, named_eq]

/-- What the store got of a staging, whatever was read of the corpus: under one key what was read for
the vectors, part by part, and under the other what was read of the ids. -/
structure Received (area : StagingArea) (request : BuildRequest) (trace : Trace) (here : StoreState)
    (blobs : StagedBlobs) (uploads : Trace) (ids : Bytes) : Prop where
  inside : uploads ⊆ trace
  planned : uploads.reads.map Prod.fst = (vectorSource area request).parts
  read : ⟨.readDocIds, .ok ids⟩ ∈ trace
  vectors : ∃ path, ObjectPath.parse blobs.vectorKey = .ok path ∧
    here.objects path = some ((vectorSource area request).produced uploads)
  docIds : ∃ path, ObjectPath.parse blobs.docIdKey = .ok path ∧ here.objects path = some ids
  vectorBytes : blobs.vectorBytes = request.shape.totalBytes
  docIdBytes : blobs.docIdBytes = .ofNat ids.length

/-- **Staged blobs are what was read of the corpus.**

**Proof sketch.** The vectors are there when the ids are read. The upload of the ids puts them under
another path, since it succeeds only where no object is. -/
theorem Reaches.exists_received {blobs : StagedBlobs}
    (reaches : Reaches area settings request trace (.staged blobs)) (follows : Follows before trace after) :
    ∃ uploads ids, Received area request trace after blobs uploads ids := by
  cases reaches with
  | @staged front uploads keys _ _ docIds _ _ earlier run =>
    obtain ⟨middle, follows, uploading⟩ := follows_append_iff.mp follows
    obtain ⟨_, rfl, read, sending, path, inside, parts_eq, parsed, staged_eq⟩ :=
      earlier.objects_of_docIdsRead follows
    obtain ⟨path', parsed', absent, rfl, objects_eq, _⟩ :=
      (UploadSource.bytes docIds).run_upload_ok run uploading
    have apart : path ≠ path' := by
      rintro rfl
      rw [staged_eq, Function.update_self] at absent
      exact nomatch absent
    refine ⟨sending, docIds, fun e mem => List.mem_append_left _ (inside mem), parts_eq,
      List.mem_append_left _ read, ⟨path, parsed, ?_⟩, ⟨path', parsed', ?_⟩, ?_, rfl⟩
    · rw [objects_eq, Function.update_of_ne apart, staged_eq, Function.update_self]
    · rw [objects_eq, Function.update_self]
      rfl
    · exact UInt64.ofNat_toNat

/-- When the ids were read, the vectors are staged, and nothing else is. -/
theorem Reaches.of_docIdsRead {vectorBytes : Nat} {docIds : Bytes}
    (reaches : Reaches area settings request trace (.docIdsRead keys vectorBytes docIds))
    (describes : request.shape.Describes docs)
    (passes : ∀ exchange ∈ trace, exchange.PassesOver σ request.shape docs)
    (follows : Follows before trace after) :
    (∃ name ∈ trace.names,
      keys = .ofName settings.keyPrefix name request.field.name request.buildUnit) ∧
    vectorBytes = request.shape.totalBytes.toNat ∧ docIds = encodeIds docs ∧
    ∃ path, ObjectPath.parse keys.vectorKey = .ok path ∧
      after.objects = Function.update before.objects path (some (encodeVectors docs)) := by
  obtain ⟨named, sent_eq, read, uploads, path, inside, parts_eq, parsed, objects_eq⟩ :=
    reaches.objects_of_docIdsRead follows
  have passes_uploads : ∀ exchange ∈ uploads, exchange.PassesOver σ request.shape docs :=
    fun e mem => passes e (inside mem)
  rw [produced_eq describes passes_uploads parts_eq] at objects_eq
  exact ⟨named, sent_eq, encodeIds_of_passesOver describes.length_le_walkLimit (passes _ read), path,
    parsed, objects_eq⟩

/-- **Staged blobs are whole.** -/
theorem Reaches.of_staged {blobs : StagedBlobs}
    (reaches : Reaches area settings request trace (.staged blobs))
    (describes : request.shape.Describes docs)
    (passes : ∀ exchange ∈ trace, exchange.PassesOver σ request.shape docs)
    (follows : Follows before trace after) : StagedWhole request.shape docs after blobs := by
  obtain ⟨uploads, docIds, received⟩ := reaches.exists_received follows
  obtain rfl := encodeIds_of_passesOver describes.length_le_walkLimit (passes _ received.read)
  have produced := produced_eq describes (fun e mem => passes e (received.inside mem))
    received.planned
  refine ⟨produced ▸ received.vectors, received.docIds, ?_, ?_⟩
  · rw [received.vectorBytes, describes.toNat_totalBytes, describes.liveCount]
  · have fits := describes.fits
    have least : docs.length ≤ request.shape.dimension.toNat * docs.length :=
      Nat.le_mul_of_pos_left _ describes.positive
    rw [Nat.mul_assoc] at fits
    rw [received.docIdBytes, length_encodeIds, describes.liveCount, UInt64.toNat_ofNat']
    exact Nat.mod_eq_of_lt (Nat.lt_of_le_of_lt (Nat.mul_le_mul_left 4 least) fits)

/-! ### Whole builds -/

/-- A corpus that is worth a remote build has documents. -/
theorem ne_nil_of_eligible (describes : request.shape.Describes docs)
    (eligible : settings.ineligible? request.shape = none) : docs ≠ [] := by
  rintro rfl
  have none_live : request.shape.liveCount = 0 := UInt64.toNat_inj.mp describes.liveCount
  grind [BuildSettings.ineligible?]

/-- Nothing stands in the way of a submission: the corpus is worth a remote build, container and
count are the right ones, the keys have paths where no object is, and the store does what it is
asked and says so. -/
structure Unhindered (area : StagingArea) (settings : BuildSettings) (request : BuildRequest)
    (start : StoreState) (trace : Trace) : Prop where
  eligible : settings.ineligible? request.shape = none
  container : settings.container = area.container
  liveCount : request.totalLiveDocs = request.shape.liveCount
  keys : ∀ name ∈ trace.names,
    let keys := StagedKeys.ofName settings.keyPrefix name request.field.name request.buildUnit
    ∃ path path', ObjectPath.parse keys.vectorKey = .ok path ∧
      ObjectPath.parse keys.docIdKey = .ok path' ∧
      start.objects path = none ∧ start.objects path' = none
  works : ∀ exchange ∈ trace, exchange.uploadFails = false
  truly : ∃ after, FollowsTruly start trace after

/-- If nothing stands in the way, the staging does not fail.

**Proof sketch.** An upload fails only for a reason. The vectors lie under a path of their own, so
that the upload of the ids finds its path as free as it was; and all that is read of the corpus can
be read. -/
theorem Unhindered.not_failsFirst {start : StoreState} {front back : Trace} {failure : Failure}
    (unhindered : Unhindered area settings request start (front ++ back))
    (describes : request.shape.Describes docs)
    (passes : ∀ exchange ∈ front, exchange.PassesOver σ request.shape docs) :
    ¬ FailsFirst area settings request front .staging failure := by
  intro fails
  have some_doc := ne_nil_of_eligible describes unhindered.eligible
  obtain ⟨after, truly⟩ := unhindered.truly
  obtain ⟨reached, truly, _⟩ := followsTruly_append_iff.mp truly
  have works : ∀ exchange ∈ front, exchange.uploadFails = false :=
    fun e mem => unhindered.works e (List.mem_append_left _ mem)
  have given {part : Trace} {name : Ulid} (inside : part ⊆ front) (mem : name ∈ part.names) :
      name ∈ Trace.names (front ++ back) := by
    obtain ⟨exchange, came, named⟩ := List.mem_filterMap.mp mem
    exact List.mem_filterMap.mpr ⟨exchange, List.mem_append_left _ (inside came), named⟩
  cases fails with
  | request idle wrong =>
    simp [requestFault?, unhindered.container, unhindered.liveCount] at wrong
  | @vectors naming uploads keys _ earlier run =>
    obtain ⟨named, truly, uploading⟩ := followsTruly_append_iff.mp truly
    obtain ⟨name, mem, rfl⟩ := earlier.exists_name
    have named_eq := earlier.objects_eq_of_named truly.follows
    obtain ⟨path, _, parsed, _, absent, _⟩ :=
      unhindered.keys name (given (List.subset_append_left _ _) mem)
    obtain ⟨sent, same⟩ := (vectorSource area request).exists_ok_of_unhindered run parsed
      (named_eq ▸ absent) uploading (fun e came => works e (List.mem_append_right _ came))
      (not_unread describes some_doc fun e came => passes e (List.mem_append_right _ came))
    exact nomatch same
  | docIds earlier =>
    obtain ⟨cursor, yields, reply_eq⟩ := passes _ (List.mem_append_right _ (List.mem_singleton_self _))
    rw [Corpus.encodeDocIds_of_yields request.shape yields describes.length_le_walkLimit] at reply_eq
    exact nomatch reply_eq
  | @docIdBlob naming uploads keys _ docIds _ earlier run =>
    obtain ⟨read, truly, uploading⟩ := followsTruly_append_iff.mp truly
    obtain ⟨⟨name, mem, rfl⟩, _, rfl, path, parsed, objects_eq⟩ :=
      earlier.of_docIdsRead describes
        (fun e came => passes e (List.mem_append_left _ came)) truly.follows
    obtain ⟨_, path', _, parsed', _, absent⟩ :=
      unhindered.keys name (given (List.subset_append_left _ _) mem)
    -- the vectors lie under the other path, so that this one is still free
    have free : read.objects path' = none := by
      rw [objects_eq, Function.update_of_ne (StagedKeys.paths_ne parsed parsed').symm]
      exact absent
    obtain ⟨sent, same⟩ := (UploadSource.bytes (encodeIds docs)).exists_ok_of_unhindered run parsed' free
      uploading (fun e came => works e (List.mem_append_right _ came)) nofun
    exact nomatch same

/-- What a build has to do with the bytes of the documents. -/
structure StagesWhole (σ : Type) [Cursor σ] (area : StagingArea) (settings : BuildSettings)
    (request : BuildRequest) (docs : List (DocId × Elements)) (start : StoreState) (trace : Trace)
    (outcome : Except Failure BuildOutcome) : Prop where
  /-- Whenever a job is submitted, it is for the blobs that were staged last, and they are whole. -/
  submitted : ∀ front job reply back here, trace = front ++ ⟨.submit job, reply⟩ :: back →
    Follows start front here → ∃ blobs before pause, job = jobOf settings request blobs ∧
      StagedWhole request.shape docs here blobs ∧ front = before ++ pause ∧ Trace.Idle pause ∧
      Reaches area settings request before (.staged blobs) ∧
      ∀ report, outcome = .ok (.remote report) → report.staged = blobs
  /-- Every part of the plan can be read, in any pass and whatever the part size is. -/
  readable : settings.ineligible? request.shape = none → ∀ part ∈ (vectorSource area request).parts,
    ∀ key (cursor : σ), Cursor.Yields docs cursor →
      ∃ data, Corpus.readPart ⟨request.shape, .ok cursor⟩ key part = .ok data
  /-- If nothing stands in the way, a job is submitted. -/
  reached : Unhindered area settings request start trace →
    ∃ blobs, Submits area settings request trace blobs

/-- **What is staged are the documents, whole.** Whenever a job is submitted, the store has the
vectors and the ids of all documents under its keys, byte for byte, whatever the sizes of the parts
and whatever failed before. And if nothing stands in the way, one is submitted.

**Proof sketch.** The parts are cut at vectors and follow one another without gap, so that each is a
slice of the vectors, whichever pass it is read in, and all of them together are the vectors. -/
theorem execute_stagesWhole (start : StoreState) {outcome : Except Failure BuildOutcome}
    (describes : request.shape.Describes docs) (run : Run (execute area settings request) trace outcome)
    (passes : ∀ exchange ∈ trace, exchange.PassesOver σ request.shape docs) :
    StagesWhole σ area settings request docs start trace outcome := by
  refine ⟨?_, fun eligible part mem key cursor yields => ?_, fun unhindered => ?_⟩
  · rintro front job reply back here rfl follows
    have submits_one :
        ⟨.submit job, reply⟩ ∈ front ++ (⟨.submit job, reply⟩ : Exchange) :: back := by simp
    cases run_execute_submission run with
    | ineligible _ nothing => exact absurd rfl (nothing _ submits_one)
    | unstaged _ _ nothing => exact absurd rfl (nothing _ submits_one)
    | @submitted blobs eligible submits same =>
      obtain ⟨job_eq, before, pause, rfl, idle, staged⟩ := submits.eq_of_split rfl
      obtain ⟨middle, follows, waiting⟩ := follows_append_iff.mp follows
      obtain ⟨⟨path, parsed, vectors⟩, ⟨path', parsed', docIds⟩, vectorBytes, docIdBytes⟩ :=
        staged.of_staged describes
          (fun e mem => passes e (List.mem_append_left _ (List.mem_append_left _ mem))) follows
      have unchanged : here.objects = middle.objects :=
        Trace.objects_eq_of_untouched waiting fun e mem => .inl (idle e mem)
      rw [← unchanged] at vectors docIds
      exact ⟨blobs, before, pause, job_eq,
        ⟨⟨path, parsed, vectors⟩, ⟨path', parsed', docIds⟩, vectorBytes, docIdBytes⟩, rfl, idle,
          staged, same⟩
  · obtain ⟨data, read_eq, _⟩ :=
      exists_readPart describes (ne_nil_of_eligible describes eligible) yields mem key
    exact ⟨data, read_eq⟩
  · cases run_execute_submission run with
    | ineligible reason => exact absurd unhindered.eligible reason
    | @unstaged front back failure split fails =>
      subst split
      exact absurd fails (unhindered.not_failsFirst describes
        fun e mem => passes e (List.mem_append_left _ mem))
    | @submitted blobs eligible submits same => exact ⟨blobs, submits⟩

/-- What is read of the corpus of a world in memory is read in passes over it. -/
theorem passesOver_transcript {α : Type} (program : Program α) (world : World σ) {shape : CorpusShape}
    {cursor : σ} (corpus_eq : world.corpus = ⟨shape, .ok cursor⟩) (yields : Cursor.Yields docs cursor) :
    ∀ exchange ∈ program.transcript World.answer world, Exchange.PassesOver σ shape docs exchange := by
  refine Dialogue.forall_transcript (fun world => world.corpus = ⟨shape, .ok cursor⟩)
    (fun call world same => ⟨?_, (world.corpus_answer call).trans same⟩) program corpus_eq
  cases call with
  | endRead key part => exact ⟨cursor, yields, same ▸ rfl⟩
  | readDocIds => exact ⟨cursor, yields, same ▸ rfl⟩
  | _ => trivial

/-- A store that does what it is asked: two vectors are staged in two parts, and a job is submitted.

**Proof sketch.** The world in memory keeps what is asked of store and corpus; that the build comes to
its submission is computed. -/
theorem execute_stagesWhole_two_parts :
    ∃ start trace outcome blobs,
      StagesWhole MemoryCursor World.smallArea World.smallSettings World.smallRequest
        [(0, [0]), (1, [1])] start trace outcome ∧
      Submits World.smallArea World.smallSettings World.smallRequest trace blobs := by
  let program := (execute World.smallArea World.smallSettings World.smallRequest).run
  have describes : World.smallRequest.shape.Describes [(0, [0]), (1, [1])] :=
    ⟨rfl, rfl, by decide, by decide, by decide⟩
  obtain ⟨after, run, truly, _⟩ := World.exists_follows program (World.small []) rfl
    (by simp [World.small, FaultyStore.Honest])
  have passes := passesOver_transcript program (World.small []) rfl (MemoryCursor.yields _ none)
  have whole := execute_stagesWhole (World.small []).store.shown describes run passes
  have names_eq : Trace.names (program.transcript World.answer (World.small [])) = [0] := by
    decide +kernel
  obtain ⟨blobs, submits⟩ := whole.reached {
    eligible := by decide
    container := rfl
    liveCount := rfl
    keys := fun name mem => by
      rw [names_eq] at mem
      obtain rfl := List.mem_singleton.mp mem
      exact ⟨⟨["00000000000000000000000000_f_u.knnvec"]⟩, ⟨["00000000000000000000000000_f_u.knndid"]⟩,
        by decide +kernel, by decide +kernel, rfl, rfl⟩
    works := by decide +kernel
    truly := ⟨after, truly⟩ }
  exact ⟨_, _, _, blobs, whole, submits⟩

end Build

end GraphOffload
