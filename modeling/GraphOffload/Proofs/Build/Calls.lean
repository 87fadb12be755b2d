import GraphOffload.Proofs.Build.Milestones
import GraphOffload.Proofs.Transfer.Atomicity
import Mathlib.Order.Basic

/-!
# The calls of each operation

Each operation of a build makes calls of its own kinds, whatever it is replied. So the sink is not
touched before the graph was fetched, no job is submitted before the staging is done, and the local
builder is called by no operation of a remote build.

## Main definitions

* `GraphOffload.Call.Uploads`, `GraphOffload.Call.Polls`, `GraphOffload.Call.Fetches`,
  `GraphOffload.Call.Sinks` : the calls by which a blob is uploaded, a job waited for, a graph
  fetched and written.
* `GraphOffload.Call.phase`, `GraphOffload.Milestone.phase` : the part of a build that a call or a
  milestone belongs to.

## Main results

* `GraphOffload.Build.Reaches.upTo` : a milestone is reached by the calls of its part of the build
  and those before.
* `GraphOffload.Build.FailsFirst.upTo_or_sink` : a failed remote build did not touch the sink unless
  it failed at the sink.
-/

namespace GraphOffload

open Attempting

/-! ### Kinds of calls -/

namespace Call

/-- The calls by which a blob is uploaded under a key. -/
def Uploads (key : String) : Call → Prop
  | .head path | .put path _ | .openUpload path => ObjectPath.parse key = .ok path
  | .beginPart .. | .endPart _ | .completeUpload | .abortUpload => True
  | .beginRead .. | .endRead .. | .choose _ => True
  | call => call.IsIdle

/-- The calls by which a job is waited for. -/
def Polls (jobId : String) : Call → Prop
  | .status asked _ => asked = jobId
  | .sleepUntil _ => True
  | call => call.IsIdle

/-- Those of them that are made: nothing is told, and only status calls are counted. -/
def Waits (jobId : String) : Call → Prop
  | .status asked _ => asked = jobId
  | .sleepUntil _ | .now | .count (.polled _) => True
  | _ => False

/-- What is made for waiting belongs to the waiting. -/
theorem Waits.polls {jobId : String} {call : Call} (h : call.Waits jobId) : call.Polls jobId := by
  cases call <;> first | exact h | trivial

/-- The calls by which the graph under a key is fetched. -/
def Fetches (key : String) : Call → Prop
  | .head path | .beginRange path _ _ | .endRange path _ _ => ObjectPath.parse key = .ok path
  | .choose _ => True
  | call => call.IsIdle

/-- The calls by which a graph is written. -/
def Sinks : Call → Prop
  | .write _ | .flush => True
  | _ => False

end Call

/-! ### Uploads -/

namespace Upload

variable {key : String}

/-- The calls by which an object is sent are some of those of its upload. -/
theorem Transmits.uploads {plan : List Part} {call : Call} (h : Transmits key plan call) :
    call.Uploads key := by
  cases call <;> first | exact h | trivial

/-- To see that there is no object makes calls of the upload. -/
theorem within_ensureAbsent : Within (Call.Uploads key) (ensureAbsent key) := by
  refine within_caught (within_caught ?_ fun size => ?_) fun contained => ?_
  · exact BlobStore.within_pathOf_bind fun path parsed => within_attempt parsed
  · rcases size with failure | size
    · cases failure <;> trivial
    · trivial
  · rcases contained with failure | _ | _ <;> trivial

/-- An upload makes calls under its key. -/
theorem within_upload (source : UploadSource) : Within (Call.Uploads key) (source.upload key) := by
  rw [UploadSource.upload_eq]
  have sends : Within (Call.Uploads key) (source.send key) :=
    (source.within_send key).mono fun _ => Transmits.uploads
  refine within_bind within_ensureAbsent fun _ => within_bind (within_attempt trivial) fun _ => ?_
  refine within_bind sends fun sent => within_bind (within_attempt trivial) fun _ => ?_
  exact within_bind (within_attempt trivial) fun _ => within_pure _

end Upload

/-! ### Waiting -/

namespace Poll

variable {jobId : String}

/-- When the time is up only the clock is read. -/
theorem within_timeUp {α : Type} (started : Nat) :
    Within (Call.Waits jobId) (timeUp jobId started : Attempting α) :=
  within_attempt trivial

/-- A pause sleeps and reads the clock. -/
theorem within_pause (interval deadline : Nat) :
    Within (Call.Waits jobId) (pause interval deadline) :=
  within_bind (within_attempt trivial) fun _ =>
    within_bind (within_attempt trivial) fun _ => within_attempt trivial

/-- Waiting for a job asks for no other job. -/
theorem within_pollFrom (settings : BuildSettings) (started calls failed : Nat) :
    Within (Call.Waits jobId) (pollFrom settings jobId started calls failed) := by
  induction calls generalizing failed with
  | zero => exact within_timeUp started
  | succ calls ih =>
    have goOn (failed : Nat) : Within (Call.Waits jobId) (do
        if ← pause settings.pollInterval (started + settings.pollTimeout) then timeUp jobId started
        else pollFrom settings jobId started calls failed) := by
      refine within_bind (within_pause _ _) fun late => ?_
      cases late with
      | true => exact within_timeUp started
      | false => exact ih failed
    refine within_bind (within_attempt rfl) fun reply => ?_
    rcases reply with _ | failure | reply
    · exact within_bind (within_attempt trivial) fun _ => within_timeUp started
    · refine within_bind (within_attempt trivial) fun _ => ?_
      split
      · exact within_throw failure
      · exact goOn _
    · refine within_bind (within_attempt trivial) fun _ => ?_
      split
      · exact within_ofExcept _
      · exact goOn 0

/-- Nor does it tell anyone, or count anything but the status calls. -/
theorem within_awaitCompletion_waits (settings : BuildSettings) :
    Within (Call.Waits jobId) (awaitCompletion settings jobId) :=
  within_bind (within_attempt trivial) fun _ => within_pollFrom settings _ _ _

/-- Waiting for a job makes calls of the waiting. -/
theorem within_awaitCompletion (settings : BuildSettings) :
    Within (Call.Polls jobId) (awaitCompletion settings jobId) :=
  (within_awaitCompletion_waits settings).mono fun _ => Call.Waits.polls

end Poll

/-! ### Downloads -/

/-- Asking for the size of a graph belongs to fetching it. -/
theorem BlobStore.within_head (key : String) : Within (Call.Fetches key) (head key) :=
  within_pathOf_bind fun _ parsed => within_attempt parsed

namespace Download

section

variable {key : String} {path : ObjectPath} (parsed : ObjectPath.parse key = .ok path)
include parsed

/-- One step of the fetching makes calls on the graph's path only. -/
theorem within_step (total atOnce : Nat) (fetching : Fetching) :
    Within (Call.Fetches key) (step key path total atOnce fetching) := by
  refine within_bind (within_attempt trivial) fun index => ?_
  dsimp only
  split
  · exact within_bind (within_attempt parsed) fun _ => within_bind (within_attempt trivial) fun _ =>
      within_pure _
  · exact within_bind (within_attempt parsed) fun _ => within_pure _
  · exact within_pure _

/-- Fetching makes calls of the fetching, and fetches nothing but the graph. -/
theorem within_fetch (total atOnce steps : Nat) (fetching : Fetching) :
    Within (Call.Fetches key) (fetch key path total atOnce steps fetching) := by
  induction steps generalizing fetching with
  | zero => exact within_pure _
  | succ steps ih => exact within_bind (within_step parsed total atOnce fetching) ih

/-- So do all of them. -/
theorem within_fetchAll (total atOnce : Nat) (chunks : List Chunk) :
    Within (Call.Fetches key) (fetchAll key path total atOnce chunks) :=
  within_fetch parsed total atOnce _ _

end

section

variable {P : Call → Prop} (offers : ∀ data, P (.write data))
include offers

/-- Writing bytes offers them to the sink.

**Proof sketch.** Induction on the number of bytes: a write that took some leaves fewer. -/
theorem within_writeAll (data : Bytes) : Within P (writeAll data) := by
  induction length : data.length using Nat.strong_induction_on generalizing data with
  | _ count ih =>
    unfold writeAll
    split
    · exact within_pure _
    · rename_i nonempty
      refine ⟨offers data, fun reply => ?_⟩
      cases reply with
      | error fault => trivial
      | ok taken =>
        change Dialogue.Within _ (if _ : taken.val = 0 then
          (pure (.error (.device Fault.nothingWritten)) : Program (Except Failure Unit))
          else (writeAll (data.drop taken.val)).run)
        split
        · trivial
        · have fewer : (data.drop taken.val).length < count := by
            have := List.length_pos_iff.mpr nonempty
            rw [List.length_drop]
            omega
          exact ih _ fewer _ rfl

/-- Pieces that are written one after the other are offered to the sink. -/
theorem within_writeEach (pieces : List Bytes) : Within P (writeEach pieces) := by
  induction pieces with
  | nil => exact within_pure _
  | cons data rest ih =>
    exact within_bind (within_writeAll offers data) fun _ => within_bind ih fun _ => within_pure _

end

/-- Writing chunks makes calls on the sink. -/
theorem within_writeInOrder {key : String} (chunks : List (Nat × Bytes)) (count : Nat) :
    Within Call.Sinks (writeInOrder key chunks count) :=
  within_bind (within_ofExcept _) fun ordered =>
    within_bind (within_writeEach (fun _ => trivial) ordered) fun _ =>
      within_bind (within_attempt trivial) fun _ => within_pure _

end Download

/-! ### Milestones -/

/-- The part of a build in which a call may be made first: the staging, the submission, the waiting,
the fetching or the writing, in this order; or none of a remote build. -/
def Call.phase : Call → Nat
  | .submit _ => 1
  | .status .. | .sleepUntil _ => 2
  | .beginRange .. | .endRange .. => 3
  | .write _ | .flush => 4
  | .get _ | .delete _ | .list _ | .buildLocally _ => 5
  | _ => 0

/-- The part of a build that ends with a milestone. -/
def Milestone.phase : Milestone → Nat
  | .named _ | .vectorsStaged .. | .docIdsRead .. | .staged _ => 0
  | .submitted .. => 1
  | .completed .. => 2
  | .sized .. | .fetched .. => 3
  | .delivered .. => 4

namespace Call

variable {call : Call}

/-- Idle calls may be made from the first part on. -/
theorem IsIdle.phase_eq (h : call.IsIdle) : call.phase = 0 := by
  cases call <;> first | rfl | exact h.elim

/-- Calls of an upload belong to the staging. -/
theorem Uploads.phase_eq {key : String} (h : call.Uploads key) : call.phase = 0 := by
  cases call <;> first | rfl | exact h.elim

/-- Calls of the waiting are made no later than that. -/
theorem Polls.phase_le {jobId : String} (h : call.Polls jobId) : call.phase ≤ 2 := by
  cases call <;> first | exact h.elim | simp [phase]

/-- Calls of the fetching are made no later than that. -/
theorem Fetches.phase_le {key : String} (h : call.Fetches key) : call.phase ≤ 3 := by
  cases call <;> first | exact h.elim | simp [phase]

/-- Calls on the sink belong to the writing. -/
theorem Sinks.phase_eq (h : call.Sinks) : call.phase = 4 := by
  cases call <;> first | rfl | exact h.elim

end Call

namespace Build

variable {area : StagingArea} {settings : BuildSettings} {request : BuildRequest} {trace : Trace}

/-- All calls of a trace may be made up to a part of the build. -/
def UpTo (phase : Nat) (trace : Trace) : Prop := ∀ exchange ∈ trace, exchange.1.phase ≤ phase

/-- What may be made up to a part may be made up to a later one. -/
theorem UpTo.mono {phase phase' : Nat} (h : UpTo phase trace) (le : phase ≤ phase') :
    UpTo phase' trace :=
  fun e mem => (h e mem).trans le

/-- Two traces up to a part make one up to it. -/
theorem UpTo.append {phase : Nat} {front back : Trace} (h : UpTo phase front) (h' : UpTo phase back) :
    UpTo phase (front ++ back) :=
  List.forall_mem_append.mpr ⟨h, h'⟩

/-- One call makes a trace up to its part. -/
theorem UpTo.singleton {phase : Nat} {exchange : Exchange} (le : exchange.1.phase ≤ phase) :
    UpTo phase [exchange] := by
  simpa [UpTo] using le

/-- Idle calls may be made up to any part. -/
theorem UpTo.of_idle {phase : Nat} (h : trace.Idle) : UpTo phase trace :=
  fun e mem => (h e mem).phase_eq ▸ Nat.zero_le phase

/-- A program with calls up to a part only leaves such a trace. -/
theorem UpTo.of_within {α : Type} {P : Call → Prop} {program : Attempting α} {outcome : Except Failure α}
    {phase : Nat} (run : Run program trace outcome) (within : Within P program)
    (le : ∀ {call : Call}, P call → call.phase ≤ phase) : UpTo phase trace :=
  fun e mem => le (run.forall_within within e mem)

/-- An upload belongs to the staging. -/
theorem UpTo.of_upload {key : String} (source : UploadSource) {outcome : Except Failure Nat}
    (run : Run (source.upload key) trace outcome) : UpTo 0 trace :=
  .of_within run (Upload.within_upload source) fun h => h.phase_eq.le

/-- **A milestone is reached by the calls of its part of the build and those before.** -/
theorem Reaches.upTo {milestone : Milestone} (reaches : Reaches area settings request trace milestone) :
    UpTo milestone.phase trace := by
  induction reaches with
  | named right idle => exact (UpTo.of_idle idle).append (.singleton le_rfl)
  | vectorsStaged earlier run ih => exact ih.append (.of_upload (.read _ _) run)
  | docIdsRead earlier ih => exact ih.append (.singleton le_rfl)
  | staged earlier run ih => exact ih.append (.of_upload (.bytes _) run)
  | submitted earlier idle ih =>
    exact (ih.mono (Nat.zero_le 1)).append ((UpTo.of_idle idle).append (.singleton le_rfl))
  | completed earlier idle run ih =>
    refine (ih.mono (Nat.le_succ 1)).append ((UpTo.of_idle idle).append ?_)
    exact .of_within run (Poll.within_awaitCompletion _) fun h => h.phase_le
  | sized earlier idle here run ih =>
    refine (ih.mono (Nat.le_succ 2)).append ((UpTo.of_idle idle).append ?_)
    exact .of_within run (BlobStore.within_head _) fun h => h.phase_le
  | fetched earlier idle parsed run ih =>
    refine ih.append ((UpTo.of_idle idle).append ?_)
    exact .of_within run (Download.within_fetchAll parsed _ _ _) fun h => h.phase_le
  | delivered earlier idle run ih =>
    refine (ih.mono (Nat.le_succ 3)).append (UpTo.append ?_ (.of_idle idle))
    exact .of_within run (Download.within_writeInOrder _ _) fun h => h.phase_eq.le

/-- A remote build whose staging failed made no calls but those of the staging. -/
theorem FailsFirst.upTo_staging {failure : Failure}
    (fails : FailsFirst area settings request trace .staging failure) : UpTo 0 trace := by
  cases fails with
  | request idle wrong => exact .of_idle idle
  | vectors earlier run => exact earlier.upTo.append (.of_upload (.read _ _) run)
  | docIds earlier => exact earlier.upTo.append (.singleton le_rfl)
  | docIdBlob earlier run => exact earlier.upTo.append (.of_upload (.bytes _) run)

/-- A failed remote build did not touch the sink, unless it failed when it wrote the graph.

**Proof sketch.** By the operation that failed: what was done before it belongs to earlier parts of the
build, and what the operation did itself to its own. Only the writing belongs to the last part. -/
theorem FailsFirst.upTo_or_sink {stage : Stage} {failure : Failure}
    (fails : FailsFirst area settings request trace stage failure) :
    UpTo 3 trace ∨ ∃ before writes blobs jobId location size chunks, trace = before ++ writes ∧
      Reaches area settings request before (.fetched blobs jobId location size chunks) ∧
      Run (Download.writeInOrder location.graphKey chunks
        (Chunk.plan size area.options.chunkSize).length)
        writes (.error failure) := by
  cases fails with
  | request idle wrong => exact .inl (.of_idle idle)
  | vectors earlier run =>
    exact .inl ((FailsFirst.vectors earlier run).upTo_staging.mono (Nat.zero_le 3))
  | docIds earlier => exact .inl ((FailsFirst.docIds earlier).upTo_staging.mono (Nat.zero_le 3))
  | docIdBlob earlier run =>
    exact .inl ((FailsFirst.docIdBlob earlier run).upTo_staging.mono (Nat.zero_le 3))
  | submit earlier idle =>
    refine .inl ((earlier.upTo.mono (Nat.zero_le 3)).append ((UpTo.of_idle idle).append ?_))
    exact .singleton (Nat.le_add_left 1 2)
  | completion earlier idle run =>
    refine .inl ((earlier.upTo.mono (Nat.le_add_left 1 2)).append ((UpTo.of_idle idle).append ?_))
    exact .of_within run (Poll.within_awaitCompletion _) fun h => h.phase_le.trans (Nat.le_succ 2)
  | container earlier idle elsewhere =>
    exact .inl ((earlier.upTo.mono (Nat.le_succ 2)).append (.of_idle idle))
  | head earlier idle here run =>
    refine .inl ((earlier.upTo.mono (Nat.le_succ 2)).append ((UpTo.of_idle idle).append ?_))
    exact .of_within run (BlobStore.within_head _) fun h => h.phase_le
  | ranges earlier idle parsed run =>
    refine .inl (earlier.upTo.append ((UpTo.of_idle idle).append ?_))
    exact .of_within run (Download.within_fetchAll parsed _ _ _) fun h => h.phase_le
  | sink earlier run => exact .inr ⟨_, _, _, _, _, _, _, rfl, earlier, run⟩

/-- A failed remote build made no calls but its own. -/
theorem FailsFirst.upTo {stage : Stage} {failure : Failure}
    (fails : FailsFirst area settings request trace stage failure) : UpTo 4 trace := by
  rcases fails.upTo_or_sink with untouched | ⟨before, writes, _, _, _, _, _, rfl, fetched, run⟩
  · exact untouched.mono (Nat.le_succ 3)
  · refine (fetched.upTo.mono (Nat.le_succ 3)).append ?_
    exact .of_within run (Download.within_writeInOrder _ _) fun h => h.phase_eq.le

end Build

end GraphOffload
