import GraphOffload.Build.Execute
import GraphOffload.Proofs.Runs.Traces

/-!
# The milestones of a remote build

A remote build is a sequence of operations, each of which needs what the ones before it gave. What a
trace of it can look like is described here step by step: which milestone was reached, or which
operation was the first to fail. Between the operations the time is read and things are counted, and
nothing else is done.

## Main definitions

* `GraphOffload.Milestone` : how far a remote build came, with what it has in hand.
* `GraphOffload.Build.Reaches` : the operations of a trace all succeeded, up to a milestone.
* `GraphOffload.Build.FailsFirst` : the last operation of a trace failed, and those before it did not.
* `GraphOffload.Build.Leaves` : the keys whose upload succeeded before a remote build came to its end.

## Main results

* `GraphOffload.Build.run_attempt` : a remote build reaches the last milestone, or it stops with the
  first operation that failed and names its stage.
-/

namespace GraphOffload

/-! ### Idle calls -/

/-- The call asks the time, or tells or counts something. -/
def Call.IsIdle : Call → Prop
  | .now | .wallClock | .notify _ | .count _ => True
  | _ => False

/-- A trace of idle calls. -/
def Trace.Idle (trace : Trace) : Prop := ∀ exchange ∈ trace, exchange.1.IsIdle

/-- Idle calls after idle calls are idle. -/
theorem Trace.Idle.append {front back : Trace} (h : front.Idle) (h' : back.Idle) :
    Trace.Idle (front ++ back) :=
  List.forall_mem_append.mpr ⟨h, h'⟩

/-! ### Milestones -/

/-- How far a remote build came, with what it has in hand. -/
inductive Milestone
  | named (keys : StagedKeys)
  | vectorsStaged (keys : StagedKeys) (vectorBytes : Nat)
  | docIdsRead (keys : StagedKeys) (vectorBytes : Nat) (docIds : Bytes)
  | staged (blobs : StagedBlobs)
  | submitted (blobs : StagedBlobs) (jobId : String)
  | completed (blobs : StagedBlobs) (jobId : String) (location : GraphLocation)
  | sized (blobs : StagedBlobs) (jobId : String) (location : GraphLocation) (size : UInt64)
  | fetched (blobs : StagedBlobs) (jobId : String) (location : GraphLocation) (size : UInt64)
    (chunks : List (Nat × Bytes))
  | delivered (blobs : StagedBlobs) (jobId : String) (location : GraphLocation) (written : Nat)

namespace Build

open Attempting

/-- The graph is said to lie in another container. -/
abbrev LiesElsewhere (area : StagingArea) (location : GraphLocation) : Prop :=
  location.bucketName ≠ "" ∧ location.bucketName ≠ area.container

section

variable (area : StagingArea) (settings : BuildSettings) (request : BuildRequest)

/-- The job for staged blobs. -/
def jobOf (blobs : StagedBlobs) : BuildJob :=
  .ofStaged blobs request.field request.totalLiveDocs settings.tenant

/-- All operations of a trace succeeded, and with the last one a milestone was reached. -/
inductive Reaches : Trace → Milestone → Prop
  | named {pause : Trace} {name : Ulid} (right : requestFault? area settings request = none)
    (idle : pause.Idle) :
    Reaches (pause ++ [⟨.freshName, name⟩])
      (.named (.ofName settings.keyPrefix name request.field.name request.buildUnit))
  | vectorsStaged {before trace : Trace} {keys : StagedKeys} {vectorBytes : Nat}
    (earlier : Reaches before (.named keys))
    (run : Run (Upload.vectors (area.alignedTo request.shape.bytesPerVector) keys.vectorKey
      request.shape.totalBytes) trace (.ok vectorBytes)) :
    Reaches (before ++ trace) (.vectorsStaged keys vectorBytes)
  | docIdsRead {before : Trace} {keys : StagedKeys} {vectorBytes : Nat} {docIds : Bytes}
    (earlier : Reaches before (.vectorsStaged keys vectorBytes)) :
    Reaches (before ++ [⟨.readDocIds, .ok docIds⟩]) (.docIdsRead keys vectorBytes docIds)
  | staged {before trace : Trace} {keys : StagedKeys} {vectorBytes docIdBytes : Nat} {docIds : Bytes}
    {duration : Span} {stagedAt : Timestamp}
    (earlier : Reaches before (.docIdsRead keys vectorBytes docIds))
    (run : Run (Upload.blob keys.docIdKey docIds) trace (.ok docIdBytes)) :
    Reaches (before ++ trace) (.staged {
      container := area.container
      vectorKey := keys.vectorKey
      docIdKey := keys.docIdKey
      vectorBytes := .ofNat vectorBytes
      docIdBytes := .ofNat docIdBytes
      duration := duration
      stagedAt := stagedAt })
  | submitted {before pause : Trace} {blobs : StagedBlobs} {jobId : String}
    (earlier : Reaches before (.staged blobs)) (idle : pause.Idle) :
    Reaches (before ++ (pause ++ [⟨.submit (jobOf settings request blobs), .ok jobId⟩]))
      (.submitted blobs jobId)
  | completed {before pause trace : Trace} {blobs : StagedBlobs} {jobId : String}
    {location : GraphLocation}
    (earlier : Reaches before (.submitted blobs jobId)) (idle : pause.Idle)
    (run : Run (Poll.awaitCompletion settings jobId) trace (.ok location)) :
    Reaches (before ++ (pause ++ trace)) (.completed blobs jobId location)
  | sized {before pause trace : Trace} {blobs : StagedBlobs} {jobId : String} {location : GraphLocation}
    {size : UInt64} (earlier : Reaches before (.completed blobs jobId location)) (idle : pause.Idle)
    (here : ¬ LiesElsewhere area location)
    (run : Run (BlobStore.head location.graphKey) trace (.ok size)) :
    Reaches (before ++ (pause ++ trace)) (.sized blobs jobId location size)
  | fetched {before pause trace : Trace} {blobs : StagedBlobs} {jobId : String}
    {location : GraphLocation} {size : UInt64} {path : ObjectPath} {chunks : List (Nat × Bytes)}
    (earlier : Reaches before (.sized blobs jobId location size)) (idle : pause.Idle)
    (parsed : ObjectPath.parse location.graphKey = .ok path)
    (run : Run (Download.fetchAll location.graphKey path size.toNat area.options.atOnce
      (Chunk.plan size area.options.chunkSize)) trace (.ok chunks)) :
    Reaches (before ++ (pause ++ trace)) (.fetched blobs jobId location size chunks)
  | delivered {before trace after : Trace} {blobs : StagedBlobs} {jobId : String}
    {location : GraphLocation} {size : UInt64} {chunks : List (Nat × Bytes)} {written : Nat}
    (earlier : Reaches before (.fetched blobs jobId location size chunks)) (idle : after.Idle)
    (run : Run (Download.writeInOrder location.graphKey chunks
      (Chunk.plan size area.options.chunkSize).length) trace (.ok written)) :
    Reaches (before ++ (trace ++ after)) (.delivered blobs jobId location written)

/-- All operations of a trace but the last one succeeded, and the last one failed; it belongs to the
stage. -/
inductive FailsFirst : Trace → Stage → Failure → Prop
  | request {pause : Trace} {failure : Failure} (idle : pause.Idle)
    (wrong : requestFault? area settings request = some failure) :
    FailsFirst pause .staging failure
  | vectors {before trace : Trace} {keys : StagedKeys} {failure : Failure}
    (earlier : Reaches area settings request before (.named keys))
    (run : Run (Upload.vectors (area.alignedTo request.shape.bytesPerVector) keys.vectorKey
      request.shape.totalBytes) trace (.error failure)) :
    FailsFirst (before ++ trace) .staging failure
  | docIds {before : Trace} {keys : StagedKeys} {vectorBytes : Nat} {fault : Fault}
    (earlier : Reaches area settings request before (.vectorsStaged keys vectorBytes)) :
    FailsFirst (before ++ [⟨.readDocIds, .error fault⟩]) .staging (.device fault)
  | docIdBlob {before trace : Trace} {keys : StagedKeys} {vectorBytes : Nat} {docIds : Bytes}
    {failure : Failure}
    (earlier : Reaches area settings request before (.docIdsRead keys vectorBytes docIds))
    (run : Run (Upload.blob keys.docIdKey docIds) trace (.error failure)) :
    FailsFirst (before ++ trace) .staging failure
  | submit {before pause : Trace} {blobs : StagedBlobs} {failure : Failure}
    (earlier : Reaches area settings request before (.staged blobs)) (idle : pause.Idle) :
    FailsFirst (before ++ (pause ++ [⟨.submit (jobOf settings request blobs), .error failure⟩]))
      .submitted failure
  | completion {before pause trace : Trace} {blobs : StagedBlobs} {jobId : String} {failure : Failure}
    (earlier : Reaches area settings request before (.submitted blobs jobId)) (idle : pause.Idle)
    (run : Run (Poll.awaitCompletion settings jobId) trace (.error failure)) :
    FailsFirst (before ++ (pause ++ trace)) .polling failure
  | container {before pause : Trace} {blobs : StagedBlobs} {jobId : String} {location : GraphLocation}
    (earlier : Reaches area settings request before (.completed blobs jobId location))
    (idle : pause.Idle) (elsewhere : LiesElsewhere area location) :
    FailsFirst (before ++ pause) .downloading
      (.mismatch (.graphContainer location.bucketName area.container))
  | head {before pause trace : Trace} {blobs : StagedBlobs} {jobId : String} {location : GraphLocation}
    {failure : Failure}
    (earlier : Reaches area settings request before (.completed blobs jobId location))
    (idle : pause.Idle) (here : ¬ LiesElsewhere area location)
    (run : Run (BlobStore.head location.graphKey) trace (.error failure)) :
    FailsFirst (before ++ (pause ++ trace)) .downloading failure
  | ranges {before pause trace : Trace} {blobs : StagedBlobs} {jobId : String} {location : GraphLocation}
    {size : UInt64} {path : ObjectPath} {failure : Failure}
    (earlier : Reaches area settings request before (.sized blobs jobId location size))
    (idle : pause.Idle) (parsed : ObjectPath.parse location.graphKey = .ok path)
    (run : Run (Download.fetchAll location.graphKey path size.toNat area.options.atOnce
      (Chunk.plan size area.options.chunkSize)) trace (.error failure)) :
    FailsFirst (before ++ (pause ++ trace)) .downloading failure
  | sink {before trace : Trace} {blobs : StagedBlobs} {jobId : String} {location : GraphLocation}
    {size : UInt64} {chunks : List (Nat × Bytes)} {failure : Failure}
    (earlier : Reaches area settings request before (.fetched blobs jobId location size chunks))
    (run : Run (Download.writeInOrder location.graphKey chunks
      (Chunk.plan size area.options.chunkSize).length) trace (.error failure)) :
    FailsFirst (before ++ trace) .downloading failure

/-- The keys under which an attempt leaves blobs, in the order of their uploads: those whose upload
succeeded before the attempt came to its end. -/
inductive Leaves : Trace → List String → Prop
  | unnamed {pause : Trace} (idle : pause.Idle) : Leaves pause []
  | vectors {before trace : Trace} {keys : StagedKeys} {failure : Failure}
    (earlier : Reaches area settings request before (.named keys))
    (run : Run (Upload.vectors (area.alignedTo request.shape.bytesPerVector) keys.vectorKey
      request.shape.totalBytes) trace (.error failure)) :
    Leaves (before ++ trace) []
  | docIds {before : Trace} {keys : StagedKeys} {vectorBytes : Nat} {fault : Fault}
    (earlier : Reaches area settings request before (.vectorsStaged keys vectorBytes)) :
    Leaves (before ++ [⟨.readDocIds, .error fault⟩]) [keys.vectorKey]
  | docIdBlob {before trace : Trace} {keys : StagedKeys} {vectorBytes : Nat} {docIds : Bytes}
    {failure : Failure}
    (earlier : Reaches area settings request before (.docIdsRead keys vectorBytes docIds))
    (run : Run (Upload.blob keys.docIdKey docIds) trace (.error failure)) :
    Leaves (before ++ trace) [keys.vectorKey]
  | staged {before rest : Trace} {blobs : StagedBlobs}
    (earlier : Reaches area settings request before (.staged blobs))
    (quiet : ∀ exchange ∈ rest, ¬ exchange.1.Writes) :
    Leaves (before ++ rest) [blobs.vectorKey, blobs.docIdKey]

end

variable {area : StagingArea} {settings : BuildSettings} {request : BuildRequest} {trace : Trace}

/-- No operation of a remote build belongs to a stage that nothing follows. -/
theorem FailsFirst.not_isTerminal {stage : Stage} {failure : Failure}
    (fails : FailsFirst area settings request trace stage failure) : stage.isTerminal = false := by
  cases fails <;> rfl

/-! ### Runs -/

/-- The staging reaches its milestone or fails first.

**Proof sketch.** One operation after the other; each one that succeeds takes the trace to the next
milestone. -/
theorem run_stageCorpus {pause : Trace} {staging : Staging} (idle : pause.Idle)
    (run : Dialogue.Run (stageCorpus area settings request) trace staging) :
    (∃ blobs front finished, staging.result = .ok blobs ∧
      staging.uploaded = [blobs.vectorKey, blobs.docIdKey] ∧ trace = front ++ [⟨.now, finished⟩] ∧
      Reaches area settings request (pause ++ front) (.staged blobs)) ∨
    ∃ failure, staging.result = .error failure ∧
      FailsFirst area settings request (pause ++ trace) .staging failure ∧
      Leaves area settings request (pause ++ trace) staging.uploaded := by
  unfold stageCorpus at run
  cases fault : requestFault? area settings request with
  | some failure =>
    rw [fault] at run
    obtain ⟨rfl, rfl⟩ := Dialogue.run_done_iff.mp run
    exact .inr ⟨failure, rfl, by simpa using .request idle fault, by simpa using .unnamed idle⟩
  | none =>
    rw [fault] at run
    obtain ⟨stagedAt, rest, rfl, run₁⟩ := Dialogue.run_request_bind_iff.mp run
    obtain ⟨started, rest, rfl, run₂⟩ := Dialogue.run_request_bind_iff.mp run₁
    obtain ⟨name, rest, rfl, run₃⟩ := Dialogue.run_request_bind_iff.mp run₂
    have waiting : Trace.Idle (pause ++ [⟨.wallClock, stagedAt⟩, ⟨.now, started⟩]) :=
      List.forall_mem_append.mpr ⟨idle, by simp [Call.IsIdle]⟩
    have named := @Reaches.named area settings request _ name fault waiting
    obtain ⟨vectors, sent, rest, rfl, sending, run₄⟩ := Dialogue.run_bind_iff.mp run₃
    cases vectors with
    | error failure =>
      obtain ⟨rfl, rfl⟩ := Dialogue.run_done_iff.mp run₄
      exact .inr ⟨failure, rfl, by simpa using FailsFirst.vectors named sending,
        by simpa using Leaves.vectors named sending⟩
    | ok vectorBytes =>
      -- from here on the vectors have to be deleted, whatever fails
      have vectorsStaged := named.vectorsStaged sending
      obtain ⟨read, rest, rfl, run₅⟩ := Dialogue.run_request_bind_iff.mp run₄
      cases read with
      | error fault =>
        obtain ⟨rfl, rfl⟩ := Dialogue.run_done_iff.mp run₅
        have fails := @FailsFirst.docIds area settings request _ _ _ fault vectorsStaged
        have leaves := @Leaves.docIds area settings request _ _ _ fault vectorsStaged
        exact .inr ⟨_, rfl, by simpa using fails, by simpa using leaves⟩
      | ok docIds =>
        have docIdsRead := @Reaches.docIdsRead area settings request _ _ _ docIds vectorsStaged
        obtain ⟨blob, sent', rest, rfl, sending', run₆⟩ := Dialogue.run_bind_iff.mp run₅
        cases blob with
        | error failure =>
          obtain ⟨rfl, rfl⟩ := Dialogue.run_done_iff.mp run₆
          exact .inr ⟨failure, rfl, by simpa using FailsFirst.docIdBlob docIdsRead sending',
            by simpa using Leaves.docIdBlob docIdsRead sending'⟩
        | ok docIdBytes =>
          obtain ⟨finished, rest, rfl, run₇⟩ := Dialogue.run_request_bind_iff.mp run₆
          obtain ⟨rfl, rfl⟩ := Dialogue.run_done_iff.mp run₇
          refine .inl ⟨_, _, finished, rfl, rfl, ?_, by simpa using docIdsRead.staged sending'⟩
          simp

/-- The last milestone stays reached while nothing but idle calls is made. -/
theorem Reaches.idle {blobs : StagedBlobs} {jobId : String} {location : GraphLocation} {written : Nat}
    (delivered : Reaches area settings request trace (.delivered blobs jobId location written))
    {pause : Trace} (idle : pause.Idle) :
    Reaches area settings request (trace ++ pause) (.delivered blobs jobId location written) := by
  cases delivered with
  | delivered earlier idle' run =>
    have longer := earlier.delivered (List.forall_mem_append.mpr ⟨idle', idle⟩) run
    simpa using longer

/-- The size of an object is what the store says it is. -/
theorem run_head_ok {key : String} {size : UInt64} (run : Run (BlobStore.head key) trace (.ok size)) :
    ∃ path, ObjectPath.parse key = .ok path ∧ trace = [⟨.head path, .ok size⟩] := by
  rw [BlobStore.head, BlobStore.pathOf] at run
  cases parsed : ObjectPath.parse key with
  | error error =>
    rw [parsed] at run
    exact nomatch (run_ofExcept_bind_iff.mp run).2
  | ok path =>
    rw [parsed] at run
    obtain ⟨reply, rfl, means⟩ := run_attempt_iff.mp (run_ofExcept_bind_iff.mp run)
    cases reply with
    | error error => exact nomatch means
    | ok size' =>
      obtain rfl := Except.ok.inj means
      exact ⟨path, rfl, rfl⟩

/-- The download of a finished graph reaches its milestone or fails first.

**Proof sketch.** The operations one by one: each fails, so that the build ends, or gives what the next
one needs. -/
theorem run_fetchGraph {before pause : Trace} {blobs : StagedBlobs} {jobId : String}
    {location : GraphLocation} {outcome : Except Failure Nat}
    (completed : Reaches area settings request before (.completed blobs jobId location))
    (idle : pause.Idle) (run : Run (fetchGraph area location) trace outcome) :
    (∃ written, outcome = .ok written ∧ Reaches area settings request (before ++ (pause ++ trace))
      (.delivered blobs jobId location written)) ∨
    ∃ failure, outcome = .error failure ∧
      FailsFirst area settings request (before ++ (pause ++ trace)) .downloading failure := by
  by_cases elsewhere : LiesElsewhere area location
  · rw [fetchGraph, if_pos elsewhere] at run
    obtain ⟨rfl, rfl⟩ := run_throw_iff.mp run
    exact .inr ⟨_, rfl, by simpa using FailsFirst.container completed idle elsewhere⟩
  rw [fetchGraph, if_neg elsewhere] at run
  rcases run_bind_iff.mp run with ⟨failure, rfl, asking⟩ | ⟨size, asked, rest, rfl, asking, run₁⟩
  · exact .inr ⟨failure, rfl, .head completed idle elsewhere asking⟩
  have sized := completed.sized idle elsewhere asking
  obtain ⟨path, parsed, rfl⟩ := run_head_ok asking
  rw [BlobStore.pathOf, parsed] at run₁
  obtain ⟨rest, rfl, run₂⟩ := run_notify_bind_iff.mp (run_ofExcept_bind_iff.mp run₁)
  have telling : Trace.Idle [⟨.notify (.started location.graphKey size.toNat), ()⟩] := by
    simp [Trace.Idle, Call.IsIdle]
  rcases run_bind_iff.mp run₂ with ⟨failure, rfl, fetching⟩ |
    ⟨chunks, fetches, rest, rfl, fetching, run₃⟩
  · exact .inr ⟨failure, rfl, by simpa using FailsFirst.ranges sized telling parsed fetching⟩
  have fetched := sized.fetched telling parsed fetching
  rcases run_bind_iff.mp run₃ with ⟨failure, rfl, writing⟩ | ⟨written, writes, rest, rfl, writing, run₄⟩
  · exact .inr ⟨failure, rfl, by simpa using FailsFirst.sink fetched writing⟩
  obtain ⟨rest, rfl, run₅⟩ := run_count_bind_iff.mp run₄
  obtain ⟨rest, rfl, run₆⟩ := run_notify_bind_iff.mp run₅
  obtain ⟨rfl, rfl⟩ := run_pure_iff.mp run₆
  have reporting : Trace.Idle [⟨.count (.moved .download written), ()⟩,
      ⟨.notify (.complete location.graphKey written), ()⟩] := by
    simp [Trace.Idle, Call.IsIdle]
  exact .inl ⟨written, rfl, by simpa using fetched.delivered reporting writing⟩

/-- A stage begins and ends with the time, and is counted if it succeeds. If it fails, that is the
failure of the stage; else what follows goes on with its value. -/
theorem run_inStage_bind_cases {α β : Type} {stage : Stage} {program : Program (Except Failure α)}
    {next : α × Nat → ExceptT (Stage × Failure) (Dialogue Call.Reply) β}
    {result : Except (Stage × Failure) β}
    (run : Dialogue.Run (ExceptT.mk (inStage stage program) >>= next).run trace result) :
    ∃ started inner, (∃ failure, trace = ⟨.now, started⟩ :: inner ∧
        Dialogue.Run program inner (.error failure) ∧ result = .error (stage, failure)) ∨
      ∃ value finished rest, trace = ⟨.now, started⟩ :: (inner ++ ⟨.now, finished⟩ ::
          ⟨.count (.stageTime stage (finished - started)), ()⟩ :: rest) ∧
        Dialogue.Run program inner (.ok value) ∧
          Dialogue.Run (next (value, finished - started)).run rest result := by
  obtain ⟨ended, front, back, rfl, staged, run₀⟩ := Dialogue.run_bind_iff.mp run
  obtain ⟨started, rest, rfl, run₁⟩ := Dialogue.run_request_bind_iff.mp staged
  obtain ⟨outcome, inner, rest, rfl, working, run₂⟩ := Dialogue.run_bind_iff.mp run₁
  refine ⟨started, inner, ?_⟩
  cases outcome with
  | error failure =>
    obtain ⟨rfl, rfl⟩ := Dialogue.run_done_iff.mp run₂
    obtain ⟨rfl, rfl⟩ := Dialogue.run_done_iff.mp run₀
    exact .inl ⟨failure, by simp, working, rfl⟩
  | ok value =>
    obtain ⟨finished, rest, rfl, run₃⟩ := Dialogue.run_request_bind_iff.mp run₂
    obtain ⟨_, rest, rfl, run₄⟩ := Dialogue.run_request_bind_iff.mp run₃
    obtain ⟨rfl, rfl⟩ := Dialogue.run_done_iff.mp run₄
    exact .inr ⟨value, finished, back, by simp, working, run₀⟩

/-- Before and after the program of a stage only idle calls are made. -/
theorem run_inStage_bind {α β : Type} {stage : Stage} {program : Program (Except Failure α)}
    {next : α × Nat → ExceptT (Stage × Failure) (Dialogue Call.Reply) β}
    {result : Except (Stage × Failure) β}
    (run : Dialogue.Run (ExceptT.mk (inStage stage program) >>= next).run trace result) :
    ∃ pause inner, Trace.Idle pause ∧ ((∃ failure, trace = pause ++ inner ∧
        Dialogue.Run program inner (.error failure) ∧ result = .error (stage, failure)) ∨
      ∃ value elapsed after rest, trace = pause ++ (inner ++ (after ++ rest)) ∧ Trace.Idle after ∧
        Dialogue.Run program inner (.ok value) ∧
          Dialogue.Run (next (value, elapsed)).run rest result) := by
  obtain ⟨started, inner, ⟨failure, rfl, working, failed⟩ | ⟨value, finished, rest, rfl, working, later⟩⟩ :=
    run_inStage_bind_cases run
  · exact ⟨[⟨.now, started⟩], inner, by simp [Trace.Idle, Call.IsIdle],
      .inl ⟨failure, rfl, working, failed⟩⟩
  · refine ⟨[⟨.now, started⟩], inner, by simp [Trace.Idle, Call.IsIdle], .inr ⟨value, _,
      [⟨.now, finished⟩, ⟨.count (.stageTime stage (finished - started)), ()⟩], rest, rfl, ?_, working,
      later⟩⟩
    simp [Trace.Idle, Call.IsIdle]

/-- What follows the staging reaches the last milestone or fails first.

**Proof sketch.** The three stages one by one (`run_inStage_bind`): each fails, so that the build ends,
or reaches the milestone that the next one starts from. The download is known from `run_fetchGraph`. -/
theorem run_finish {before pause : Trace} {blobs : StagedBlobs} {stagingTime : Nat}
    {result : Except (Stage × Failure) BuildReport}
    (staged : Reaches area settings request before (.staged blobs)) (idle : pause.Idle)
    (run : Dialogue.Run (finish area settings request blobs stagingTime).run trace result) :
    (∃ report location, result = .ok report ∧ report.staged = blobs ∧
      report.graphKey = location.graphKey ∧
      Reaches area settings request (before ++ (pause ++ trace))
        (.delivered blobs report.jobId location report.bytesWritten)) ∨
    ∃ stage failure, result = .error (stage, failure) ∧
      FailsFirst area settings request (before ++ (pause ++ trace)) stage failure := by
  obtain ⟨pause₁, submitting, quiet₁, ⟨failure, rfl, submits, rfl⟩ |
    ⟨jobId, _, after₁, rest, rfl, quiet₁', submits, run₁⟩⟩ := run_inStage_bind run
  · obtain ⟨reply, rest, rfl, ended⟩ := Dialogue.run_ask_iff.mp submits
    obtain ⟨rfl, rfl⟩ := Dialogue.run_done_iff.mp ended
    exact .inr ⟨_, failure, rfl, by
      simpa [jobOf] using FailsFirst.submit staged (idle.append quiet₁)⟩
  obtain ⟨reply, rest, rfl, ended⟩ := Dialogue.run_ask_iff.mp submits
  obtain ⟨rfl, rfl⟩ := Dialogue.run_done_iff.mp ended
  have submitted := @Reaches.submitted area settings request _ _ _ jobId staged (idle.append quiet₁)
  obtain ⟨pause₂, polling, quiet₂, ⟨failure, rfl, polls, rfl⟩ |
    ⟨location, _, after₂, rest, rfl, quiet₂', polls, run₂⟩⟩ := run_inStage_bind run₁
  · exact .inr ⟨_, failure, rfl, by
      simpa [jobOf] using FailsFirst.completion submitted (quiet₁'.append quiet₂) polls⟩
  have completed := submitted.completed (quiet₁'.append quiet₂) polls
  obtain ⟨pause₃, downloading, quiet₃, ⟨failure, rfl, downloads, rfl⟩ |
    ⟨written, _, after₃, rest, rfl, quiet₃', downloads, run₃⟩⟩ := run_inStage_bind run₂
  all_goals rcases run_fetchGraph completed (quiet₂'.append quiet₃) downloads with
    ⟨_, same, delivered⟩ | ⟨_, same, fails⟩
  · exact nomatch same
  · obtain rfl := Except.error.inj same
    exact .inr ⟨_, _, rfl, by simpa [jobOf] using fails⟩
  · obtain rfl := Except.ok.inj same
    obtain ⟨rfl, rfl⟩ := Dialogue.run_done_iff.mp run₃
    exact .inl ⟨_, location, rfl, rfl, rfl, by simpa [jobOf] using delivered.idle quiet₃'⟩
  · exact nomatch same

/-- A remote build is its staging and, if that succeeds, what follows.

**Proof sketch.** The calls in their order, with the time before and after the staging; what follows
depends on whether that succeeds. -/
theorem run_attempt_cases {attempted : Attempt}
    (run : Dialogue.Run (attempt area settings request) trace attempted) :
    ∃ begun staging staged rest, trace = ⟨.now, begun⟩ :: (staged ++ rest) ∧
      Dialogue.Run (stageCorpus area settings request) staged staging ∧
      attempted.uploaded = staging.uploaded ∧
      ((∃ failure, staging.result = .error failure ∧ rest = [] ∧
          attempted.result = .error (.staging, failure)) ∨
        ∃ blobs ended finishing, staging.result = .ok blobs ∧
          rest = ⟨.now, ended⟩ :: ⟨.count (.stageTime .staging (ended - begun)), ()⟩ :: finishing ∧
          Dialogue.Run (finish area settings request blobs (ended - begun)).run finishing
            attempted.result) := by
  obtain ⟨begun, rest, rfl, run₁⟩ := Dialogue.run_request_bind_iff.mp run
  obtain ⟨staging, staged, rest, rfl, stages, run₂⟩ := Dialogue.run_bind_iff.mp run₁
  refine ⟨begun, staging, staged, rest, rfl, stages, ?_⟩
  cases same : staging.result with
  | error failure =>
    rw [same] at run₂
    obtain ⟨rfl, rfl⟩ := Dialogue.run_done_iff.mp run₂
    exact ⟨rfl, .inl ⟨failure, rfl, rfl, rfl⟩⟩
  | ok blobs =>
    rw [same] at run₂
    obtain ⟨ended, rest, rfl, run₃⟩ := Dialogue.run_request_bind_iff.mp run₂
    obtain ⟨_, rest, rfl, run₄⟩ := Dialogue.run_request_bind_iff.mp run₃
    obtain ⟨result, finishing, rest, rfl, finishes, run₅⟩ := Dialogue.run_bind_iff.mp run₄
    obtain ⟨rfl, rfl⟩ := Dialogue.run_done_iff.mp run₅
    exact ⟨rfl, .inr ⟨blobs, ended, finishing, rfl, by simp, finishes⟩⟩

/-- **A remote build reaches the last milestone, or it stops with the first operation that failed and
names its stage.** -/
theorem run_attempt {remote : Attempt}
    (run : Dialogue.Run (attempt area settings request) trace remote) :
    (∃ report location, remote.result = .ok report ∧ report.graphKey = location.graphKey ∧
      Reaches area settings request trace
        (.delivered report.staged report.jobId location report.bytesWritten)) ∨
    ∃ stage failure, remote.result = .error (stage, failure) ∧
      FailsFirst area settings request trace stage failure := by
  obtain ⟨begun, staging, staged, rest, rfl, stages, _, ended⟩ := run_attempt_cases run
  have beginning : Trace.Idle [⟨.now, begun⟩] := by simp [Trace.Idle, Call.IsIdle]
  rcases run_stageCorpus beginning stages with ⟨blobs, front, finished, same, _, rfl, staged⟩ |
    ⟨failure, same, fails, _⟩
  all_goals rcases ended with ⟨_, same', rfl, result_eq⟩ | ⟨_, ended, finishing, same', rfl, finishes⟩
  · cases same.symm.trans same'
  · obtain rfl := Except.ok.inj (same.symm.trans same')
    have pause : Trace.Idle [⟨.now, finished⟩, ⟨.now, ended⟩,
        ⟨.count (.stageTime .staging (ended - begun)), ()⟩] := by
      simp [Trace.Idle, Call.IsIdle]
    rcases run_finish staged pause finishes with
      ⟨report, location, result_eq, rfl, graph, delivered⟩ | ⟨stage, failure, result_eq, fails⟩
    · exact .inl ⟨report, location, result_eq, graph, by simpa using delivered⟩
    · exact .inr ⟨stage, failure, result_eq, by simpa using fails⟩
  · obtain rfl := Except.error.inj (same.symm.trans same')
    exact .inr ⟨.staging, failure, result_eq, by simpa using fails⟩
  · cases same.symm.trans same'

/-! ### Whole builds -/

/-- Staged blobs are cleaned up by deleting them. -/
theorem within_cleanUp (keys : List String) :
    (cleanUp keys).Within fun call => ∃ path, call = .delete path := by
  induction keys with
  | nil => trivial
  | cons key keys ih =>
    refine Dialogue.within_bind ?_ fun _ => ih
    exact within_bind (within_ofExcept _) fun path => within_attempt ⟨path, rfl⟩

/-- Whether or not blobs are cleaned up, the program goes on. -/
theorem run_mayCleanUp {α : Type} {clean : Bool} {keys : List String} {next : Unit → Program α}
    {value : α}
    (run : Dialogue.Run (if clean then cleanUp keys >>= next else next ()) trace value) :
    ∃ cleanup rest, trace = cleanup ++ rest ∧ (∀ exchange ∈ cleanup, ∃ path, exchange.1 = .delete path) ∧
      Dialogue.Run (next ()) rest value := by
  split at run
  · obtain ⟨_, cleanup, rest, rfl, cleaning, later⟩ := Dialogue.run_bind_iff.mp run
    exact ⟨cleanup, rest, rfl, cleaning.forall_within (within_cleanUp keys), later⟩
  · exact ⟨[], trace, rfl, by simp, run⟩

/-- How a whole build ends. -/
inductive Ends (area : StagingArea) (settings : BuildSettings) (request : BuildRequest) :
    Trace → Except Failure BuildOutcome → Prop
  | ineligible {why : Ineligible} {reply : Except Failure Unit}
    (reason : settings.ineligible? request.shape = some why) :
    Ends area settings request [⟨.count (.outcome .ineligible), ()⟩, ⟨.buildLocally request, reply⟩]
      (reply.map fun _ => .localBuild none)
  | remote {remote cleanup : Trace} {report : BuildReport} {location : GraphLocation}
    (eligible : settings.ineligible? request.shape = none) (graph : report.graphKey = location.graphKey)
    (delivered : Reaches area settings request remote
      (.delivered report.staged report.jobId location report.bytesWritten))
    (cleans : ∀ exchange ∈ cleanup, ∃ path, exchange.1 = .delete path) :
    Ends area settings request (remote ++ (cleanup ++ [⟨.count (.outcome .installed), ()⟩]))
      (.ok (.remote report))
  | fallback {remote cleanup : Trace} {stage : Stage} {failure : Failure} {reply : Except Failure Unit}
    (eligible : settings.ineligible? request.shape = none)
    (fails : FailsFirst area settings request remote stage failure)
    (cleans : ∀ exchange ∈ cleanup, ∃ path, exchange.1 = .delete path) :
    Ends area settings request
      (remote ++ (cleanup ++ [⟨.count (.fallback stage failure.label), ()⟩,
        ⟨.count (.outcome .fallback), ()⟩, ⟨.buildLocally request, reply⟩]))
      (reply.map fun _ => .localBuild (some stage))

/-- The local builder decides how a local build ends. -/
theorem run_locally {fallbackFrom : Option Stage} {outcome : Except Failure BuildOutcome}
    (run : Run (locally request fallbackFrom) trace outcome) :
    ∃ reply : Except Failure Unit, trace = [⟨.buildLocally request, reply⟩] ∧
      outcome = reply.map fun _ => .localBuild fallbackFrom := by
  obtain ⟨reply, rfl, rfl⟩ := run_attempt_iff.mp run
  exact ⟨reply, rfl, by cases reply <;> rfl⟩

/-- **Every build ends in one of these ways.**

**Proof sketch.** A remote build reaches the last milestone or fails first; the cleanup in between
makes no difference. -/
theorem run_execute {outcome : Except Failure BuildOutcome}
    (run : Run (execute area settings request) trace outcome) :
    Ends area settings request trace outcome := by
  cases reason : settings.ineligible? request.shape with
  | some why =>
    rw [execute, if_pos (by simp [reason])] at run
    obtain ⟨rest, rfl, run₁⟩ := run_count_bind_iff.mp run
    obtain ⟨reply, rfl, rfl⟩ := run_locally run₁
    exact .ineligible reason
  | none =>
    rw [execute, if_neg (by simp [reason])] at run
    obtain ⟨attempted, remote, rest, rfl, attempts, run₁⟩ := Dialogue.run_bind_iff.mp run
    obtain ⟨cleanup, rest, rfl, cleans, run₂⟩ := run_mayCleanUp run₁
    rcases run_attempt attempts with ⟨report, location, same, graph, delivered⟩ |
      ⟨stage, failure, same, fails⟩
    · rw [same] at run₂
      obtain ⟨_, rest, rfl, run₃⟩ := Dialogue.run_request_bind_iff.mp run₂
      obtain ⟨rfl, rfl⟩ := Dialogue.run_done_iff.mp run₃
      exact .remote reason graph delivered cleans
    · rw [same] at run₂
      obtain ⟨_, rest, rfl, run₃⟩ := Dialogue.run_request_bind_iff.mp run₂
      obtain ⟨_, rest, rfl, run₄⟩ := Dialogue.run_request_bind_iff.mp run₃
      obtain ⟨reply, rfl, rfl⟩ := run_locally run₄
      exact .fallback reason fails cleans

end Build

end GraphOffload
