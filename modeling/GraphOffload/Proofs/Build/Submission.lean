import GraphOffload.Proofs.Build.Calls

/-!
# The submission of a job

A build submits at most one job, and it does so right after the staging, for the blobs that were
staged. If it submits none, it was not worth a remote build or the staging failed.

## Main definitions

* `GraphOffload.Build.Submits` : a job was submitted for staged blobs, and no other one.
* `GraphOffload.Build.Submission` : whether a build submits a job, and why not.

## Main results

* `GraphOffload.Build.run_execute_submission` : every build is one of these.
-/

namespace GraphOffload

open Attempting

/-! ### Traces without a job -/

/-- No job is submitted. -/
def Trace.SubmitsNothing (trace : Trace) : Prop := ∀ exchange ∈ trace, exchange.1.phase ≠ 1

/-- The blobs for which a job was submitted before a milestone. -/
def Milestone.submittedFor? : Milestone → Option StagedBlobs
  | .submitted blobs .. | .completed blobs .. | .sized blobs .. | .fetched blobs .. |
    .delivered blobs .. =>
    some blobs
  | _ => none

namespace Trace

variable {trace front back : Trace}

/-- Without calls no job is submitted. -/
@[simp] theorem submitsNothing_nil : SubmitsNothing [] := List.forall_mem_nil _

/-- Two traces without a submission make one. -/
theorem SubmitsNothing.append (h : front.SubmitsNothing) (h' : back.SubmitsNothing) :
    Trace.SubmitsNothing (front ++ back) :=
  List.forall_mem_append.mpr ⟨h, h'⟩

/-- Idle calls submit no job. -/
theorem Idle.submitsNothing (idle : trace.Idle) : trace.SubmitsNothing :=
  fun e mem => by rw [(idle e mem).phase_eq]; exact Nat.zero_ne_one

end Trace

/-! ### Operations without a job -/

/-- A call of the waiting is no submission. -/
theorem Call.Polls.phase_ne {call : Call} {jobId : String} (h : call.Polls jobId) :
    call.phase ≠ 1 := by
  cases call <;> first | exact h.elim | simp [phase]

/-- A call of the fetching is no submission. -/
theorem Call.Fetches.phase_ne {call : Call} {key : String} (h : call.Fetches key) :
    call.phase ≠ 1 := by
  cases call <;> first | exact h.elim | simp [phase]

section

variable {trace : Trace}

/-- Waiting for a job submits none. -/
theorem Poll.submitsNothing {settings : BuildSettings} {jobId : String}
    {outcome : Except Failure GraphLocation}
    (run : Run (awaitCompletion settings jobId) trace outcome) : trace.SubmitsNothing :=
  fun exchange mem => (run.forall_within (within_awaitCompletion settings) exchange mem).phase_ne

/-- Asking for a size submits no job. -/
theorem BlobStore.submitsNothing_head {key : String} {outcome : Except Failure UInt64}
    (run : Run (head key) trace outcome) : trace.SubmitsNothing :=
  fun exchange mem => (run.forall_within (within_head key) exchange mem).phase_ne

/-- Fetching a graph submits no job. -/
theorem Download.submitsNothing_fetchAll {key : String} {path : ObjectPath} {total atOnce : Nat}
    {chunks : List Chunk} {outcome : Except Failure (List (Nat × Bytes))}
    (parsed : ObjectPath.parse key = .ok path)
    (run : Run (fetchAll key path total atOnce chunks) trace outcome) : trace.SubmitsNothing :=
  fun exchange mem =>
    (run.forall_within (within_fetchAll parsed total atOnce chunks) exchange mem).phase_ne

/-- Writing a graph submits no job. -/
theorem Download.submitsNothing_writeInOrder {key : String} {chunks : List (Nat × Bytes)} {count : Nat}
    {outcome : Except Failure Nat} (run : Run (writeInOrder key chunks count) trace outcome) :
    trace.SubmitsNothing := by
  intro exchange mem
  rw [(run.forall_within (within_writeInOrder chunks count) exchange mem).phase_eq]
  omega

end

namespace Build

variable {area : StagingArea} {settings : BuildSettings} {request : BuildRequest} {trace : Trace}

/-- In the staging no job is submitted. -/
theorem UpTo.submitsNothing (h : UpTo 0 trace) : trace.SubmitsNothing :=
  fun e mem => by have := h e mem; omega

/-! ### One job -/

/-- A job was submitted for staged blobs right after they had been staged, and no other one. -/
def Submits (area : StagingArea) (settings : BuildSettings) (request : BuildRequest) (trace : Trace)
    (blobs : StagedBlobs) : Prop :=
  ∃ before pause reply rest,
    trace = before ++ (pause ++ ⟨.submit (jobOf settings request blobs), reply⟩ :: rest) ∧
    Reaches area settings request before (.staged blobs) ∧ Trace.Idle pause ∧ Trace.SubmitsNothing rest

/-- What is done later does not matter as long as no job is submitted. -/
theorem Submits.append {blobs : StagedBlobs} (submits : Submits area settings request trace blobs)
    {later : Trace} (nothing : later.SubmitsNothing) :
    Submits area settings request (trace ++ later) blobs := by
  obtain ⟨before, pause, reply, rest, rfl, staged, idle, none_else⟩ := submits
  exact ⟨before, pause, reply, rest ++ later, by simp, staged, idle, none_else.append nothing⟩

/-- A submitted job is the one for the staged blobs, and was submitted right after the staging. -/
theorem Submits.eq_of_split {blobs : StagedBlobs} (submits : Submits area settings request trace blobs)
    {front back : Trace} {job : BuildJob} {reply : Except Failure String}
    (split : trace = front ++ ⟨.submit job, reply⟩ :: back) :
    job = jobOf settings request blobs ∧ ∃ before pause, front = before ++ pause ∧ Trace.Idle pause ∧
      Reaches area settings request before (.staged blobs) := by
  obtain ⟨before, pause, reply', rest, rfl, staged, idle, none_else⟩ := submits
  rw [← List.append_assoc] at split
  obtain ⟨rfl, same, _⟩ := Trace.eq_of_append_cons_eq (fun exchange => exchange.1.phase = 1) split rfl
    (staged.upTo.submitsNothing.append idle.submitsNothing) none_else
  obtain ⟨same_call, _⟩ := Sigma.mk.inj same
  exact ⟨Call.submit.inj same_call, before, pause, rfl, idle, staged⟩

/-- After the submission no other job is submitted on the way to a milestone. -/
theorem Reaches.submits {milestone : Milestone} (reaches : Reaches area settings request trace milestone)
    {blobs : StagedBlobs} (submitted : milestone.submittedFor? = some blobs) :
    Submits area settings request trace blobs := by
  induction reaches with
  | named | vectorsStaged | docIdsRead | staged => exact nomatch submitted
  | @submitted before pause _ jobId earlier idle ih =>
    obtain rfl := Option.some.inj submitted
    exact ⟨before, pause, .ok jobId, [], rfl, earlier, idle, Trace.submitsNothing_nil⟩
  | completed earlier idle run ih =>
    refine (ih submitted).append (idle.submitsNothing.append ?_)
    exact Poll.submitsNothing run
  | sized earlier idle here run ih =>
    refine (ih submitted).append (idle.submitsNothing.append ?_)
    exact BlobStore.submitsNothing_head run
  | fetched earlier idle parsed run ih =>
    refine (ih submitted).append (idle.submitsNothing.append ?_)
    exact Download.submitsNothing_fetchAll parsed run
  | delivered earlier idle run ih =>
    refine (ih submitted).append (Trace.SubmitsNothing.append ?_ idle.submitsNothing)
    exact Download.submitsNothing_writeInOrder run

/-- A remote build that failed did so in the staging, or a job had been submitted. -/
theorem FailsFirst.staging_or_submits {stage : Stage} {failure : Failure}
    (fails : FailsFirst area settings request trace stage failure) :
    stage = .staging ∨ ∃ blobs, Submits area settings request trace blobs := by
  cases fails with
  | request | vectors | docIds | docIdBlob => exact .inl rfl
  | @submit before pause blobs _ earlier idle =>
    exact .inr ⟨blobs, before, pause, .error failure, [], rfl, earlier, idle, Trace.submitsNothing_nil⟩
  | completion earlier idle run =>
    refine .inr ⟨_, (earlier.submits rfl).append (idle.submitsNothing.append ?_)⟩
    exact Poll.submitsNothing run
  | container earlier idle elsewhere => exact .inr ⟨_, (earlier.submits rfl).append idle.submitsNothing⟩
  | head earlier idle here run =>
    refine .inr ⟨_, (earlier.submits rfl).append (idle.submitsNothing.append ?_)⟩
    exact BlobStore.submitsNothing_head run
  | ranges earlier idle parsed run =>
    refine .inr ⟨_, (earlier.submits rfl).append (idle.submitsNothing.append ?_)⟩
    exact Download.submitsNothing_fetchAll parsed run
  | sink earlier run =>
    refine .inr ⟨_, (earlier.submits rfl).append ?_⟩
    exact Download.submitsNothing_writeInOrder run

/-! ### Whole builds -/

/-- Whether a build submits a job, and why not. -/
inductive Submission (area : StagingArea) (settings : BuildSettings) (request : BuildRequest)
    (trace : Trace) (outcome : Except Failure BuildOutcome) : Prop
  | ineligible (reason : settings.ineligible? request.shape ≠ none) (nothing : trace.SubmitsNothing)
    (not_remote : ∀ report, outcome ≠ .ok (.remote report))
  | unstaged {front back : Trace} {failure : Failure} (split : trace = front ++ back)
    (fails : FailsFirst area settings request front .staging failure) (nothing : trace.SubmitsNothing)
    (not_remote : ∀ report, outcome ≠ .ok (.remote report))
  | submitted {blobs : StagedBlobs} (eligible : settings.ineligible? request.shape = none)
    (submits : Submits area settings request trace blobs)
    (same : ∀ report, outcome = .ok (.remote report) → report.staged = blobs)

/-- The cleanup submits nothing. -/
theorem submitsNothing_cleanup (cleans : ∀ exchange ∈ trace, ∃ path, exchange.1 = .delete path) :
    trace.SubmitsNothing := by
  intro exchange mem
  obtain ⟨path, is_delete⟩ := cleans exchange mem
  simp [is_delete, Call.phase]

/-- **Every build submits one job for what it staged, or it has a reason not to.** -/
theorem run_execute_submission {outcome : Except Failure BuildOutcome}
    (run : Run (execute area settings request) trace outcome) :
    Submission area settings request trace outcome := by
  have local_not_remote (reply : Except Failure Unit) (stage : Option Stage) (report : BuildReport) :
      (reply.map fun _ => BuildOutcome.localBuild stage) ≠ .ok (.remote report) := by
    cases reply <;> simp [Except.map]
  cases run_execute run with
  | @ineligible why reply reason =>
    exact .ineligible (by simp [reason]) (by simp [Trace.SubmitsNothing, Call.phase])
      (local_not_remote _ _)
  | @remote remote cleanup report location eligible graph delivered cleans =>
    refine .submitted eligible ((delivered.submits rfl).append ?_) fun report' same => ?_
    · exact (submitsNothing_cleanup cleans).append (by simp [Trace.SubmitsNothing, Call.phase])
    · obtain rfl := BuildOutcome.remote.inj (Except.ok.inj same)
      rfl
  | @fallback remote cleanup stage failure reply eligible fails cleans =>
    have nothing : Trace.SubmitsNothing (cleanup ++ [⟨.count (.fallback stage failure.label), ()⟩,
        ⟨.count (.outcome .fallback), ()⟩, ⟨.buildLocally request, reply⟩]) :=
      (submitsNothing_cleanup cleans).append (by simp [Trace.SubmitsNothing, Call.phase])
    rcases fails.staging_or_submits with rfl | ⟨blobs, submits⟩
    · exact .unstaged rfl fails (fails.upTo_staging.submitsNothing.append nothing) (local_not_remote _ _)
    · exact .submitted eligible (submits.append nothing) fun report same =>
        absurd same (local_not_remote _ _ report)

end Build

end GraphOffload
