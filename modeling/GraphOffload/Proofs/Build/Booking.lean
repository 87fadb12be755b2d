import GraphOffload.Proofs.Build.Cleanup
import GraphOffload.Proofs.Transfer.Listening

/-!
# What a build enters into the ledger

A build counts at many places: in its transfers, at the end of each stage, and when it is known how it
ends. Which entries a build makes is known from how far it came; status calls are counted as often as
they are made and are left out here.

## Main definitions

* `GraphOffload.Trace.booked` : the ledger of a trace without status calls.
* `GraphOffload.Trace.Uploads` : a blob of a given size was uploaded under a key.
* `GraphOffload.Build.Stages` : so were several, and nothing else was entered.
* `GraphOffload.Build.remoteEntries` : what the stages of a remote build enter.
* `GraphOffload.Build.closingEntries` : what is entered when a remote build has come to its end.

## Main results

* `GraphOffload.Build.booked_attempt` : what a remote build enters.
* `GraphOffload.Build.booked_conclude` : what is entered after it.
-/

namespace GraphOffload

open Attempting

/-! ### Ledgers without status calls -/

/-- The counter is one of status calls. -/
def Counter.isPoll : Counter → Bool
  | polled _ => true
  | _ => false

namespace Trace

/-- The ledger of a trace without status calls. -/
def booked (trace : Trace) : Ledger := trace.ledger.filter fun entry => !entry.1.isPoll

variable {trace : Trace}

/-- What two traces book is what each of them does. -/
@[simp] theorem booked_append {front back : Trace} :
    booked (front ++ back) = front.booked ++ back.booked := by
  simp [booked]

/-- To ask the time is not entered. -/
theorem booked_now {time : Call.Reply .now} : booked (⟨.now, time⟩ :: trace) = booked trace := rfl

/-- Where nothing is counted, nothing is booked. -/
theorem booked_eq_nil (uncounted : ∀ exchange ∈ trace, exchange.Uncounted) : trace.booked = [] := by
  rw [booked, ledger, measured_eq_nil uncounted]
  rfl

/-- Under all other counters the same is entered. -/
theorem total_ledger {counter : Counter} (other : counter.isPoll = false) :
    trace.ledger.total counter = trace.booked.total counter := by
  rw [booked, Ledger.total, Ledger.total, List.filter_filter]
  congr 2
  refine List.filter_congr fun entry _ => ?_
  by_cases same : entry.1 = counter <;> simp [same, other]

/-- Who waits for a job counts nothing but status calls. -/
theorem booked_eq_nil_of_waits {jobId : String}
    (waits : ∀ exchange ∈ trace, exchange.1.Waits jobId) : trace.booked = [] := by
  induction trace with
  | nil => rfl
  | cons exchange rest ih =>
    obtain ⟨first, others⟩ := List.forall_mem_cons.mp waits
    obtain ⟨call, reply⟩ := exchange
    cases call with
    | count measurement =>
      cases measurement with
      | polled result => exact ih others
      | _ => exact first.elim
    | _ => exact ih others

/-- A blob of a size was uploaded under a key. -/
def Uploads (key : String) (size : Nat) (trace : Trace) : Prop :=
  ∃ before sending after, ∃ source : UploadSource, trace = before ++ (sending ++ after) ∧
    Run (source.upload key) sending (.ok size) ∧ size = source.length

/-- So it was in any longer trace. -/
theorem Uploads.within {key : String} {size : Nat} (uploads : trace.Uploads key size)
    (front back : Trace) : Uploads key size (front ++ (trace ++ back)) := by
  obtain ⟨before, sending, after, source, rfl, run, whole⟩ := uploads
  exact ⟨front ++ before, sending, after ++ back, source, by simp, run, whole⟩

end Trace

/-- What a transfer enters. -/
theorem Transfer.booked_of_run {transfer : Transfer} {key : String} {trace : Trace}
    {outcome : Except Failure Nat} (run : Run (transfer.program key) trace outcome) :
    trace.booked = (outcome.toOption.map fun moved => (.moved transfer.direction, moved)).toList := by
  rw [Trace.booked, Trace.ledger, measured_of_run run]
  cases outcome <;> rfl

namespace Build

variable {area : StagingArea} {settings : BuildSettings} {request : BuildRequest} {trace : Trace}

/-! ### Entries -/

/-- What is entered for blobs that were uploaded. -/
def stagedEntries (blobs : List (String × Nat)) : Ledger :=
  blobs.map fun blob => (.moved .upload, blob.2)

/-- The stages of a remote build, in their order. -/
def remoteStages : List Stage := [.staging, .submitted, .polling, .downloading]

/-- What is entered for stages that were completed. -/
def stageEntries (stages : List Stage) : Ledger := stages.map fun stage => (.stageTime stage, 1)

/-- What the stages of a remote build enter, but for the blobs: those before the one it failed in. -/
def remoteEntries : Except (Stage × Failure) BuildReport → Ledger
  | .ok report => stageEntries [.staging, .submitted, .polling] ++
      ((.moved .download, report.bytesWritten) :: stageEntries [.downloading])
  | .error (stage, _) => stageEntries (remoteStages.takeWhile (· ≠ stage))

/-- What is entered when a remote build has come to its end. -/
def closingEntries : Except (Stage × Failure) BuildReport → Ledger
  | .ok _ => [(.outcome .installed, 1)]
  | .error (stage, failure) => [(.fallback stage failure.label, 1), (.outcome .fallback, 1)]

/-! ### The staging -/

/-- An upload books the bytes it has sent, and if it fails nothing. -/
theorem booked_upload {key : String} {outcome : Except Failure Nat} (source : UploadSource)
    (run : Run (source.upload key) trace outcome) :
    trace.booked = (outcome.toOption.map fun sent => (.moved .upload, sent)).toList :=
  @Transfer.booked_of_run (.upload source) _ _ _ run

/-- Blobs of the given sizes were uploaded under the given keys, and that is all that was entered. -/
structure Stages (trace : Trace) (keys : List String) (blobs : List (String × Nat)) : Prop where
  keys_eq : blobs.map Prod.fst = keys
  uploads : ∀ blob ∈ blobs, trace.Uploads blob.1 blob.2
  booked_eq : trace.booked = stagedEntries blobs

namespace Stages

variable {keys : List String} {blobs : List (String × Nat)}

/-- Where nothing is booked, nothing was staged. -/
theorem of_booked (nothing : trace.booked = []) : Stages trace [] [] :=
  ⟨rfl, List.forall_mem_nil _, nothing⟩

/-- The trace goes on without entries. -/
theorem append (stages : Stages trace keys blobs) {more : Trace} (nothing : more.booked = []) :
    Stages (trace ++ more) keys blobs where
  keys_eq := stages.keys_eq
  uploads blob mem := (stages.uploads blob mem).within [] more
  booked_eq := by rw [Trace.booked_append, stages.booked_eq, nothing, List.append_nil]

/-- One more blob is uploaded. -/
theorem upload (stages : Stages trace keys blobs) (source : UploadSource) {key : String} {sent : Nat}
    {sending : Trace} (run : Run (source.upload key) sending (.ok sent)) :
    Stages (trace ++ sending) (keys ++ [key]) (blobs ++ [(key, sent)]) where
  keys_eq := by rw [List.map_append, stages.keys_eq, List.map_singleton]
  uploads := by
    refine List.forall_mem_append.mpr ⟨fun blob mem => (stages.uploads blob mem).within [] sending, ?_⟩
    exact List.forall_mem_singleton.mpr
      ⟨trace, sending, [], source, by simp, run, Transfer.eq_length_of_run run⟩
  booked_eq := by
    rw [Trace.booked_append, stages.booked_eq, booked_upload source run, stagedEntries, stagedEntries,
      List.map_append]
    rfl

end Stages

/-- The staging enters the blobs that it uploads.

**Proof sketch.** One operation after the other; only an upload that succeeds enters something. -/
theorem stages_stageCorpus {staging : Staging}
    (run : Dialogue.Run (stageCorpus area settings request) trace staging) :
    ∃ blobs, Stages trace staging.uploaded blobs := by
  unfold stageCorpus at run
  cases fault : requestFault? area settings request with
  | some failure =>
    rw [fault] at run
    obtain ⟨rfl, rfl⟩ := Dialogue.run_done_iff.mp run
    exact ⟨[], .of_booked rfl⟩
  | none =>
    rw [fault] at run
    obtain ⟨stagedAt, rest, rfl, run₁⟩ := Dialogue.run_request_bind_iff.mp run
    obtain ⟨started, rest, rfl, run₂⟩ := Dialogue.run_request_bind_iff.mp run₁
    obtain ⟨name, rest, rfl, run₃⟩ := Dialogue.run_request_bind_iff.mp run₂
    have named : Stages [⟨.wallClock, stagedAt⟩, ⟨.now, started⟩, ⟨.freshName, name⟩] [] [] :=
      .of_booked rfl
    obtain ⟨vectors, sent, rest, rfl, sending, run₄⟩ := Dialogue.run_bind_iff.mp run₃
    cases vectors with
    | error failure =>
      obtain ⟨rfl, rfl⟩ := Dialogue.run_done_iff.mp run₄
      exact ⟨_, by simpa using named.append (booked_upload (vectorSource area request) sending)⟩
    | ok vectorBytes =>
      have vectorsStaged := named.upload (vectorSource area request) sending
      obtain ⟨read, rest, rfl, run₅⟩ := Dialogue.run_request_bind_iff.mp run₄
      have docIdsRead := @Stages.append _ _ _ vectorsStaged [⟨.readDocIds, read⟩] rfl
      cases read with
      | error fault =>
        obtain ⟨rfl, rfl⟩ := Dialogue.run_done_iff.mp run₅
        exact ⟨_, by simpa using docIdsRead⟩
      | ok docIds =>
        obtain ⟨blob, sent', rest, rfl, sending', run₆⟩ := Dialogue.run_bind_iff.mp run₅
        cases blob with
        | error failure =>
          obtain ⟨rfl, rfl⟩ := Dialogue.run_done_iff.mp run₆
          exact ⟨_, by simpa using docIdsRead.append (booked_upload (.bytes docIds) sending')⟩
        | ok docIdBytes =>
          obtain ⟨finished, rest, rfl, run₇⟩ := Dialogue.run_request_bind_iff.mp run₆
          obtain ⟨rfl, rfl⟩ := Dialogue.run_done_iff.mp run₇
          have staged := docIdsRead.upload (.bytes docIds) sending'
          exact ⟨_, by simpa using @Stages.append _ _ _ staged [⟨.now, finished⟩] rfl⟩

/-! ### The stages after it -/

/-- The download of a finished graph enters its bytes, if it succeeds. -/
theorem booked_fetchGraph {location : GraphLocation} {outcome : Except Failure Nat}
    (run : Run (fetchGraph area location) trace outcome) :
    trace.booked = (outcome.toOption.map fun written => (.moved .download, written)).toList := by
  by_cases elsewhere : LiesElsewhere area location
  · rw [fetchGraph, if_pos elsewhere] at run
    obtain ⟨rfl, rfl⟩ := run_throw_iff.mp run
    rfl
  · rw [fetchGraph, if_neg elsewhere] at run
    exact @Transfer.booked_of_run (.download area.options) _ _ _ run

/-- Waiting for a job enters nothing. -/
theorem booked_awaitCompletion {jobId : String} {outcome : Except Failure GraphLocation}
    (run : Run (Poll.awaitCompletion settings jobId) trace outcome) : trace.booked = [] :=
  Trace.booked_eq_nil_of_waits (run.forall_within (Poll.within_awaitCompletion_waits settings))

/-- A stage enters what its program does, and that it is completed unless it fails. -/
theorem booked_inStage_bind {α β : Type} {stage : Stage} {program : Program (Except Failure α)}
    {next : α × Nat → ExceptT (Stage × Failure) (Dialogue Call.Reply) β}
    {result : Except (Stage × Failure) β}
    (run : Dialogue.Run (ExceptT.mk (inStage stage program) >>= next).run trace result) :
    ∃ inner, (∃ failure, trace.booked = Trace.booked inner ∧ Dialogue.Run program inner (.error failure) ∧
        result = .error (stage, failure)) ∨
      ∃ value elapsed rest, trace.booked = Trace.booked inner ++ stageEntries [stage] ++ Trace.booked rest ∧
        Dialogue.Run program inner (.ok value) ∧
          Dialogue.Run (next (value, elapsed)).run rest result := by
  obtain ⟨started, inner, ⟨failure, rfl, working, failed⟩ | ⟨value, finished, rest, rfl, working, later⟩⟩ :=
    run_inStage_bind_cases run
  · exact ⟨inner, .inl ⟨failure, Trace.booked_now, working, failed⟩⟩
  · refine ⟨inner, .inr ⟨value, _, rest, ?_, working, later⟩⟩
    rw [Trace.booked_now, Trace.booked_append, Trace.booked_now, List.append_assoc]
    rfl

/-- What follows the staging enters the stages that it completes, and the bytes of the graph. -/
theorem booked_finish {blobs : StagedBlobs} {stagingTime : Nat}
    {result : Except (Stage × Failure) BuildReport}
    (run : Dialogue.Run (finish area settings request blobs stagingTime).run trace result) :
    stageEntries [.staging] ++ trace.booked = remoteEntries result := by
  obtain ⟨submitting, ⟨failure, booked_eq, submits, rfl⟩ |
    ⟨jobId, _, rest, booked_eq, submits, run₁⟩⟩ := booked_inStage_bind run
  all_goals
    obtain ⟨reply, _, rfl, ended⟩ := Dialogue.run_ask_iff.mp submits
    obtain ⟨rfl, rfl⟩ := Dialogue.run_done_iff.mp ended
  · rw [booked_eq]
    rfl
  obtain ⟨polling, ⟨failure, booked_eq₁, polls, rfl⟩ |
    ⟨location, _, rest, booked_eq₁, polls, run₂⟩⟩ := booked_inStage_bind run₁
  all_goals rw [booked_awaitCompletion polls] at booked_eq₁
  · rw [booked_eq, booked_eq₁]
    rfl
  obtain ⟨downloading, ⟨failure, booked_eq₂, downloads, rfl⟩ |
    ⟨written, _, rest, booked_eq₂, downloads, run₃⟩⟩ := booked_inStage_bind run₂
  all_goals rw [booked_fetchGraph downloads] at booked_eq₂
  · rw [booked_eq, booked_eq₁, booked_eq₂]
    rfl
  · obtain ⟨rfl, rfl⟩ := Dialogue.run_done_iff.mp run₃
    rw [booked_eq, booked_eq₁, booked_eq₂]
    rfl

/-! ### The remote build -/

/-- **A remote build enters the blobs that it uploads, the stages that it completes and the bytes of the
graph.** -/
theorem booked_attempt {attempted : Attempt}
    (run : Dialogue.Run (attempt area settings request) trace attempted) :
    ∃ blobs : List (String × Nat), blobs.map Prod.fst = attempted.uploaded ∧
      (∀ blob ∈ blobs, trace.Uploads blob.1 blob.2) ∧
      trace.booked = stagedEntries blobs ++ remoteEntries attempted.result := by
  obtain ⟨begun, staging, staged, rest, rfl, stages, uploaded_eq, ended⟩ := run_attempt_cases run
  obtain ⟨blobs, stages⟩ := stages_stageCorpus stages
  refine ⟨blobs, stages.keys_eq.trans uploaded_eq.symm, ?_, ?_⟩
  · exact fun blob mem => (stages.uploads blob mem).within [⟨.now, begun⟩] rest
  · rw [Trace.booked_now, Trace.booked_append, stages.booked_eq]
    congr 1
    rcases ended with ⟨failure, _, rfl, result_eq⟩ | ⟨corpus, ended, finishing, _, rfl, finishes⟩
    · rw [result_eq]
      rfl
    · rw [← booked_finish finishes, Trace.booked_now]
      rfl

/-- Deletes enter nothing. -/
theorem booked_cleanUp {keys : List String} (run : Dialogue.Run (cleanUp keys) trace ()) :
    trace.booked = [] := by
  refine Trace.booked_eq_nil fun exchange mem => ?_
  obtain ⟨path, is_delete⟩ := run.forall_within (within_cleanUp keys) exchange mem
  obtain ⟨call, reply⟩ := exchange
  cases is_delete
  rfl

/-- **When a remote build has come to its end, that is entered**, and if it failed, in which stage and
with which label. -/
theorem booked_conclude {result : Except (Stage × Failure) BuildReport}
    {outcome : Except Failure BuildOutcome} (run : Dialogue.Run (conclude request result) trace outcome) :
    trace.booked = closingEntries result := by
  rcases result with ⟨stage, failure⟩ | report
  · obtain ⟨_, rest, rfl, run₁⟩ := Dialogue.run_request_bind_iff.mp run
    obtain ⟨_, rest, rfl, run₂⟩ := Dialogue.run_request_bind_iff.mp run₁
    obtain ⟨reply, rfl, _⟩ := run_locally run₂
    rfl
  · obtain ⟨_, rest, rfl, run₁⟩ := Dialogue.run_request_bind_iff.mp run
    obtain ⟨rfl, _⟩ := Dialogue.run_done_iff.mp run₁
    rfl

/-- A build is remote if the attempt succeeded, and then their reports are the same. -/
theorem remote_iff_of_conclude {result : Except (Stage × Failure) BuildReport}
    {outcome : Except Failure BuildOutcome} (run : Dialogue.Run (conclude request result) trace outcome)
    (report : BuildReport) : outcome = .ok (.remote report) ↔ result = .ok report := by
  rcases result with ⟨stage, failure⟩ | reported
  · obtain ⟨_, rest, rfl, run₁⟩ := Dialogue.run_request_bind_iff.mp run
    obtain ⟨_, rest, rfl, run₂⟩ := Dialogue.run_request_bind_iff.mp run₁
    obtain ⟨reply, _, rfl⟩ := run_locally run₂
    cases reply <;> simp [Except.map]
  · obtain ⟨_, rest, rfl, run₁⟩ := Dialogue.run_request_bind_iff.mp run
    obtain ⟨_, rfl⟩ := Dialogue.run_done_iff.mp run₁
    simp

end Build

end GraphOffload
