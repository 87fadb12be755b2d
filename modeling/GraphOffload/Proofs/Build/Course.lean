import GraphOffload.Proofs.Build.Staging

/-!
# The course of a remote build

A remote build stages two blobs under keys that hold a fresh name, submits a job for them, waits for
it, and downloads the graph that the service reports. Wherever it stops, each of its calls is one of
the part that it stopped in, and so it is on the keys of its own name, on its own job or on its own
graph.

## Main definitions

* `GraphOffload.Trace.Commits` : a blob was stored under a key, at once or in parts.
* `GraphOffload.Call.Stages`, `GraphOffload.Call.Downloads` : the calls by which blobs are staged
  under the keys of an attempt, and by which a graph is downloaded.
* `GraphOffload.Build.Course` : how far a remote build came, with the calls of the part it stopped
  in.

## Main results

* `GraphOffload.UploadSource.commits_of_upload` : a successful upload stored its blob.
* `GraphOffload.Build.Reaches.course`, `GraphOffload.Build.FailsFirst.course` : every remote build
  takes such a course.
-/

namespace GraphOffload

open Attempting

/-! ### Commits -/

/-- A blob was put under a key, or an upload in parts was opened there and then completed. -/
inductive Trace.Commits (key : String) (trace : Trace) : Prop
  | put {path : ObjectPath} {data : Bytes} (parsed : ObjectPath.parse key = .ok path)
    (stored : ⟨.put path data, .ok ()⟩ ∈ trace)
  | parts {path : ObjectPath} {front middle back : Trace} (parsed : ObjectPath.parse key = .ok path)
    (split : trace = front ++ ⟨.openUpload path, .ok ()⟩ ::
      (middle ++ ⟨.completeUpload, .ok ()⟩ :: back))
    (same : ∀ exchange ∈ middle, exchange.1 ≠ .abortUpload ∧ ∀ other, exchange.1 ≠ .openUpload other)

/-- What was stored stays stored. -/
theorem Trace.Commits.before {key : String} {trace : Trace} (h : trace.Commits key) (back : Trace) :
    Trace.Commits key (trace ++ back) := by
  cases h with
  | put parsed stored => exact .put parsed (List.mem_append_left _ stored)
  | @parts path front middle after parsed split same =>
    subst split
    exact @Commits.parts key _ path front middle (after ++ back) parsed (by simp) same

/-- So does what is stored later. -/
theorem Trace.Commits.after {key : String} {trace : Trace} (h : trace.Commits key) (front : Trace) :
    Trace.Commits key (front ++ trace) := by
  cases h with
  | put parsed stored => exact .put parsed (List.mem_append_right _ stored)
  | @parts path before middle back parsed split same =>
    subst split
    exact @Commits.parts key _ path (front ++ before) middle back parsed (by simp) same

namespace UploadSource

variable {key : String} {path : ObjectPath} {trace : Trace} {sent : Nat}

/-- An upload in parts that was sent whole ends with its completion. -/
theorem exists_completed {options : TransferOptions} {total : UInt64}
    (run : Run (Upload.sendAndComplete options key total) trace (.ok sent)) :
    ∃ sending, trace = sending ++ [⟨.completeUpload, .ok ()⟩] := by
  rcases run_bind_iff.mp run with ⟨failure, same, _⟩ | ⟨_, front, rest, rfl, _, run₁⟩
  · exact nomatch same
  rcases run_bind_iff.mp run₁ with ⟨failure, same, _⟩ | ⟨_, sends, rest, rfl, _, run₂⟩
  · exact nomatch same
  obtain ⟨reply, rest, rfl, completing⟩ := run_attempt_bind_iff.mp run₂
  cases reply with
  | error error => exact nomatch completing.2
  | ok done =>
    obtain ⟨rfl, _⟩ := run_pure_iff.mp completing
    exact ⟨front ++ sends, by simp⟩

/-- A blob that was sent was stored.

**Proof sketch.** A blob is sent by one put or in parts. In parts it is stored when the upload is
completed (`exists_completed`), and nothing between its opening and its completion gives it up
(`Upload.Sends.apart`). -/
theorem commits_of_send (source : UploadSource) (parsed : ObjectPath.parse key = .ok path)
    (run : Run (source.send key) trace (.ok sent)) : trace.Commits key := by
  have at_once {data : Bytes} {trace : Trace} {sent : Nat}
      (run : Run (Upload.putWhole key data) trace (.ok sent)) : trace.Commits key := by
    obtain ⟨reply, rfl, same⟩ := Upload.run_putWhole run parsed
    cases reply with
    | error error => cases same
    | ok done => exact .put parsed (List.mem_singleton_self _)
  cases source with
  | bytes data => exact at_once run
  | read area total =>
    by_cases in_parts : area.multipart ∧ 0 < total
    · rw [send, if_pos in_parts, Upload.inParts, BlobStore.pathOf, parsed] at run
      obtain ⟨reply, rest, rfl, later⟩ := run_attempt_bind_iff.mp (run_ofExcept_bind_iff.mp run)
      cases reply with
      | error error => cases later.2
      | ok done =>
        rcases Upload.run_orAbort_iff.mp later with ⟨_, _, run'⟩ | ⟨_, _, _, same, _⟩
        · obtain ⟨sending, rfl⟩ := exists_completed run'
          have apart := run'.forall_within (Upload.within_sendAndComplete area.options total)
          refine @Trace.Commits.parts key _ path [] sending [] parsed rfl fun e mem => ?_
          exact Upload.Sends.apart (apart e (List.mem_append_left _ mem))
        · cases same
    · rw [send, if_neg in_parts] at run
      obtain ⟨_, rest, rfl, reading⟩ := run_attempt_ok_bind_iff.mp run
      obtain ⟨reply, rest, rfl, later⟩ := run_attempt_bind_iff.mp reading
      cases reply with
      | error failure => cases later.2
      | ok data => exact (at_once later).after [_, _]

/-- **A successful upload stored its blob.** -/
theorem commits_of_upload (source : UploadSource) (run : Run (source.upload key) trace (.ok sent)) :
    trace.Commits key := by
  rw [upload_eq] at run
  cases parsed : ObjectPath.parse key with
  | error error => exact nomatch (Upload.run_whole_of_error parsed run).2
  | ok path =>
    rcases Upload.run_whole parsed run with ⟨_, _, _, _, same⟩ |
      ⟨reply, sending, _, ⟨_, _, _, same⟩ | ⟨sent', rfl, run', _⟩⟩
    · exact nomatch same
    · exact nomatch same
    · exact ((source.commits_of_send parsed run').before _).after [_, _]

end UploadSource

/-! ### Kinds of calls -/

namespace Call

/-- The calls by which blobs are staged under the keys of an attempt. -/
def Stages (keys : StagedKeys) (call : Call) : Prop :=
  call.Uploads keys.vectorKey ∨ call.Uploads keys.docIdKey ∨ call = .readDocIds

/-- The calls by which the graph under a key is downloaded. -/
def Downloads (key : String) (call : Call) : Prop := call.Fetches key ∨ call.Sinks

/-- Idle calls are among those of the waiting. -/
theorem IsIdle.polls {call : Call} (h : call.IsIdle) (jobId : String) : call.Polls jobId := by
  cases call <;> first | exact h | exact h.elim

/-- They are among those of a download, too. -/
theorem IsIdle.downloads {call : Call} (h : call.IsIdle) (key : String) : call.Downloads key := by
  refine .inl ?_
  cases call <;> first | exact h | exact h.elim

end Call

/-! ### The course of a build -/

namespace Milestone

/-- The keys of an attempt that is being staged. -/
def keys? : Milestone → Option StagedKeys
  | .named keys | .vectorsStaged keys _ | .docIdsRead keys _ _ => some keys
  | _ => none

/-- What was staged, the job and its graph, once the job is done. -/
def graph? : Milestone → Option (StagedBlobs × String × GraphLocation)
  | .completed blobs jobId location | .sized blobs jobId location _ |
    .fetched blobs jobId location _ _ | .delivered blobs jobId location _ =>
    some (blobs, jobId, location)
  | _ => none

end Milestone

namespace Build

variable {area : StagingArea} {settings : BuildSettings} {request : BuildRequest} {trace : Trace}

section

variable (area settings request)

/-- How far a remote build came: each call after the last milestone is one of the part of the build in
which it stopped. -/
inductive Course : Trace → Prop
  | unnamed {trace : Trace} (idle : trace.Idle) : Course trace
  | unstaged {before rest : Trace} {keys : StagedKeys}
    (named : Reaches area settings request before (.named keys))
    (stages : ∀ exchange ∈ rest, exchange.1.Stages keys) : Course (before ++ rest)
  | refused {before pause : Trace} {blobs : StagedBlobs} {failure : Failure}
    (staged : Reaches area settings request before (.staged blobs)) (idle : pause.Idle) :
    Course (before ++ (pause ++ [⟨.submit (jobOf settings request blobs), .error failure⟩]))
  | unfinished {before rest : Trace} {blobs : StagedBlobs} {jobId : String}
    (submitted : Reaches area settings request before (.submitted blobs jobId))
    (polls : ∀ exchange ∈ rest, exchange.1.Polls jobId) : Course (before ++ rest)
  | finished {before rest : Trace} {blobs : StagedBlobs} {jobId : String} {location : GraphLocation}
    (completed : Reaches area settings request before (.completed blobs jobId location))
    (downloads : ∀ exchange ∈ rest, exchange.1.Downloads location.graphKey) : Course (before ++ rest)

end

/-- The calls since the keys were made are those of the staging, as long as it lasts. -/
theorem Reaches.naming {milestone : Milestone}
    (reaches : Reaches area settings request trace milestone) {keys : StagedKeys}
    (keys_eq : milestone.keys? = some keys) :
    ∃ naming rest, trace = naming ++ rest ∧ Reaches area settings request naming (.named keys) ∧
      ∀ exchange ∈ rest, exchange.1.Stages keys := by
  induction reaches with
  | @named pause name right idle =>
    obtain rfl := Option.some.inj keys_eq
    exact ⟨pause ++ [⟨.freshName, name⟩], [], by simp, .named right idle, by simp⟩
  | @vectorsStaged before trace keys vectorBytes earlier run ih =>
    obtain rfl := Option.some.inj keys_eq
    obtain ⟨naming, rest, rfl, named, stages⟩ := ih rfl
    refine ⟨naming, rest ++ trace, by simp, named, List.forall_mem_append.mpr ⟨stages, ?_⟩⟩
    intro exchange mem
    exact .inl (run.forall_within (Upload.within_upload (vectorSource area request)) exchange mem)
  | @docIdsRead before keys vectorBytes docIds earlier ih =>
    obtain rfl := Option.some.inj keys_eq
    obtain ⟨naming, rest, rfl, named, stages⟩ := ih rfl
    refine ⟨naming, rest ++ [⟨.readDocIds, .ok docIds⟩], by simp, named,
      List.forall_mem_append.mpr ⟨stages, ?_⟩⟩
    exact List.forall_mem_singleton.mpr (.inr (.inr rfl))
  | _ => exact nomatch keys_eq

/-- The staging stores both blobs, and makes no calls but its own. -/
theorem Reaches.staging {blobs : StagedBlobs}
    (reaches : Reaches area settings request trace (.staged blobs)) :
    ∃ naming keys rest, trace = naming ++ rest ∧
      Reaches area settings request naming (.named keys) ∧
      (∀ exchange ∈ rest, exchange.1.Stages keys) ∧
      blobs.vectorKey = keys.vectorKey ∧ blobs.docIdKey = keys.docIdKey ∧
      trace.Commits keys.vectorKey ∧ trace.Commits keys.docIdKey := by
  cases reaches with
  | @staged before sent keys vectorBytes docIdBytes docIds duration stagedAt earlier run =>
    obtain ⟨naming, rest, split, named, stages⟩ := earlier.naming rfl
    have docIds_committed := (UploadSource.bytes docIds).commits_of_upload run
    cases earlier with
    | @docIdsRead read _ _ _ earlier =>
      cases earlier with
      | @vectorsStaged first vectors _ _ earlier run' =>
        have vectors_committed := (vectorSource area request).commits_of_upload run'
        refine ⟨naming, keys, rest ++ sent, by rw [split, List.append_assoc], named, ?_, rfl, rfl,
          ?_, ?_⟩
        · refine List.forall_mem_append.mpr ⟨stages, fun exchange mem => ?_⟩
          exact .inr (.inl (run.forall_within (Upload.within_upload (.bytes docIds)) exchange mem))
        · exact ((vectors_committed.after first).before _).before sent
        · exact docIds_committed.after _

/-- The calls since a job was done are those of the download.

**Proof sketch.** Induction on the way to the milestone. Each operation after the wait adds idle calls
and its own, which are on the graph or on the sink. -/
theorem Reaches.downloading {milestone : Milestone}
    (reaches : Reaches area settings request trace milestone) {blobs : StagedBlobs} {jobId : String}
    {location : GraphLocation} (graph_eq : milestone.graph? = some (blobs, jobId, location)) :
    ∃ before rest, trace = before ++ rest ∧
      Reaches area settings request before (.completed blobs jobId location) ∧
      ∀ exchange ∈ rest, exchange.1.Downloads location.graphKey := by
  have quiet {pause : Trace} (idle : pause.Idle) :
      ∀ exchange ∈ pause, exchange.1.Downloads location.graphKey :=
    fun exchange mem => (idle exchange mem).downloads _
  induction reaches with
  | @completed before pause trace _ _ _ earlier idle run =>
    obtain ⟨rfl, rfl, rfl⟩ := Option.some.inj graph_eq
    exact ⟨_, [], (List.append_nil _).symm, earlier.completed idle run, by simp⟩
  | @sized before pause trace _ _ _ size earlier idle here run ih =>
    obtain ⟨rfl, rfl, rfl⟩ := Option.some.inj graph_eq
    obtain ⟨before, rest, rfl, completed, downloads⟩ := ih rfl
    refine ⟨before, rest ++ (pause ++ trace), by simp, completed, ?_⟩
    refine List.forall_mem_append.mpr ⟨downloads, List.forall_mem_append.mpr ⟨quiet idle, ?_⟩⟩
    exact fun exchange mem => .inl (run.forall_within (BlobStore.within_head _) exchange mem)
  | @fetched before pause trace _ _ _ size path chunks earlier idle parsed run ih =>
    obtain ⟨rfl, rfl, rfl⟩ := Option.some.inj graph_eq
    obtain ⟨before, rest, rfl, completed, downloads⟩ := ih rfl
    refine ⟨before, rest ++ (pause ++ trace), by simp, completed, ?_⟩
    refine List.forall_mem_append.mpr ⟨downloads, List.forall_mem_append.mpr ⟨quiet idle, ?_⟩⟩
    exact fun exchange mem =>
      .inl (run.forall_within (Download.within_fetchAll parsed _ _ _) exchange mem)
  | @delivered before trace after _ _ _ size chunks written earlier idle run ih =>
    obtain ⟨rfl, rfl, rfl⟩ := Option.some.inj graph_eq
    obtain ⟨before, rest, rfl, completed, downloads⟩ := ih rfl
    refine ⟨before, rest ++ (trace ++ after), by simp, completed, ?_⟩
    refine List.forall_mem_append.mpr ⟨downloads, List.forall_mem_append.mpr ⟨?_, quiet idle⟩⟩
    exact fun exchange mem =>
      .inr (run.forall_within (Download.within_writeInOrder _ _) exchange mem)
  | _ => exact nomatch graph_eq

/-- **A remote build that succeeded took the whole course.** -/
theorem Reaches.course {blobs : StagedBlobs} {jobId : String} {location : GraphLocation} {written : Nat}
    (delivered : Reaches area settings request trace (.delivered blobs jobId location written)) :
    Course area settings request trace := by
  obtain ⟨before, rest, rfl, completed, downloads⟩ := delivered.downloading rfl
  exact .finished completed downloads

/-- **A remote build that failed took the course as far as it came.**

**Proof sketch.** By the operation that failed: the calls since the last big milestone are those of the
operations that were done (`Reaches.naming`, `Reaches.downloading`), and of the one that failed. -/
theorem FailsFirst.course {stage : Stage} {failure : Failure}
    (fails : FailsFirst area settings request trace stage failure) :
    Course area settings request trace := by
  cases fails with
  | request idle wrong => exact .unnamed idle
  | @vectors before trace keys _ earlier run =>
    refine .unstaged earlier fun exchange mem => .inl ?_
    exact run.forall_within (Upload.within_upload (vectorSource area request)) exchange mem
  | @docIds before keys vectorBytes fault earlier =>
    obtain ⟨naming, rest, rfl, named, stages⟩ := earlier.naming rfl
    rw [List.append_assoc]
    refine .unstaged named (List.forall_mem_append.mpr ⟨stages, ?_⟩)
    exact List.forall_mem_singleton.mpr (.inr (.inr rfl))
  | @docIdBlob before trace keys vectorBytes docIds _ earlier run =>
    obtain ⟨naming, rest, rfl, named, stages⟩ := earlier.naming rfl
    rw [List.append_assoc]
    refine .unstaged named (List.forall_mem_append.mpr ⟨stages, fun exchange mem => .inr (.inl ?_)⟩)
    exact run.forall_within (Upload.within_upload (.bytes docIds)) exchange mem
  -- from here on the blobs are staged
  | submit earlier idle => exact .refused earlier idle
  | @completion before pause trace blobs jobId _ earlier idle run =>
    refine .unfinished earlier (List.forall_mem_append.mpr ⟨fun exchange mem => ?_, ?_⟩)
    · exact (idle exchange mem).polls jobId
    · exact run.forall_within (Poll.within_awaitCompletion settings)
  | container earlier idle elsewhere =>
    exact .finished earlier fun exchange mem => (idle exchange mem).downloads _
  | head earlier idle here run =>
    refine .finished earlier (List.forall_mem_append.mpr
      ⟨fun exchange mem => ?_, fun exchange mem => ?_⟩)
    · exact (idle exchange mem).downloads _
    · exact .inl (run.forall_within (BlobStore.within_head _) exchange mem)
  | ranges earlier idle parsed run =>
    obtain ⟨before, rest, rfl, completed, downloads⟩ := earlier.downloading rfl
    rw [List.append_assoc]
    refine .finished completed (List.forall_mem_append.mpr ⟨downloads, ?_⟩)
    refine List.forall_mem_append.mpr ⟨fun exchange mem => ?_, fun exchange mem => ?_⟩
    · exact (idle exchange mem).downloads _
    · exact .inl (run.forall_within (Download.within_fetchAll parsed _ _ _) exchange mem)
  | sink earlier run =>
    obtain ⟨before, rest, rfl, completed, downloads⟩ := earlier.downloading rfl
    rw [List.append_assoc]
    refine .finished completed (List.forall_mem_append.mpr ⟨downloads, fun exchange mem => ?_⟩)
    exact .inr (run.forall_within (Download.within_writeInOrder _ _) exchange mem)

end Build

end GraphOffload
