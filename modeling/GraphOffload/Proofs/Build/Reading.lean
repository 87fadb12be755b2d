import GraphOffload.Proofs.Build.Course
import GraphOffload.Proofs.Transfer.Background

/-!
# When the vectors are read

A build reads the parts of the vectors in one upload, and nowhere else. If that upload succeeds all
parts were waited for, so that nothing is being read any more when the ids are read, and when the service
is called. If it fails, parts may be left that have begun to be read and that nobody waits for; then the
ids are not read, and the service is not called.

## Main definitions

* `GraphOffload.Call.FollowsVectors` : the call is made only when the vectors are stored.
* `GraphOffload.Build.Uploads` : the vectors were uploaded in a trace, and nothing else was read.
* `GraphOffload.Build.ReadsOnce` : the parts of the vectors are read in one upload, if at all.

## Main results

* `GraphOffload.Build.Ends.readsOnce` : every build reads the vectors in one upload.
* `GraphOffload.Build.ReadsOnce.exists_through` : it never has more parts unawaited than may be read at
  once.
* `GraphOffload.Build.ReadsOnce.unawaited_eq_nil` : it has none when the service is called.
-/

namespace GraphOffload

open Attempting

/-! ### Calls that read nothing -/

namespace Call

variable {call : Call}

/-- The call is made only when the vectors are stored: the ids are read, or the service is called. -/
def FollowsVectors : Call → Prop
  | .readDocIds | .submit _ | .status .. => True
  | _ => False

/-- Waiting for a job reads no part. -/
theorem Polls.not_isPartRead {jobId : String} (h : call.Polls jobId) : ¬ call.IsPartRead := by
  cases call <;> first | exact id | exact h.elim

/-- Fetching a graph reads no part. -/
theorem Fetches.not_isPartRead {key : String} (h : call.Fetches key) : ¬ call.IsPartRead := by
  cases call <;> first | exact id | exact h.elim

/-- Writing a graph reads no part. -/
theorem Sinks.not_isPartRead (h : call.Sinks) : ¬ call.IsPartRead := by
  cases call <;> first | exact id | exact h.elim

/-- An upload calls neither the service nor for the ids. -/
theorem Uploads.not_followsVectors {key : String} (h : call.Uploads key) : ¬ call.FollowsVectors := by
  cases call <;> first | exact id | exact h.elim

end Call

namespace Trace

variable {trace front back : Trace}

/-- Two traces in which no part is read make one. -/
theorem Unread.append (h : front.Unread) (h' : back.Unread) : Trace.Unread (front ++ back) :=
  List.forall_mem_append.mpr ⟨h, h'⟩

/-- No part is read in a trace, and neither the service nor for the ids is called. -/
def Quiet (trace : Trace) : Prop :=
  ∀ exchange ∈ trace, ¬ exchange.1.IsPartRead ∧ ¬ exchange.1.FollowsVectors

/-- In a quiet trace no part is read. -/
theorem Quiet.unread (quiet : trace.Quiet) : trace.Unread := fun exchange mem => (quiet exchange mem).1

/-- Idle calls are quiet. -/
theorem Idle.quiet (idle : trace.Idle) : trace.Quiet := by
  intro exchange mem
  refine ⟨idle.unread exchange mem, ?_⟩
  obtain ⟨call, reply⟩ := exchange
  have idles := idle _ mem
  cases call <;> first | exact id | exact idles.elim

end Trace

/-- An upload of bytes at hand reads no part.

**Proof sketch.** It asks for the size of an object, puts one, tells the listener and counts. -/
theorem Upload.unread_blob {key : String} {data : Bytes} {trace : Trace} {outcome : Except Failure Nat}
    (run : Run (blob key data) trace outcome) : trace.Unread := by
  cases parsed : ObjectPath.parse key with
  | error error =>
    obtain ⟨rfl, _⟩ := run_whole_of_error parsed run
    exact List.forall_mem_nil _
  | ok path =>
    rcases run_whole parsed run with ⟨_, _, rfl, _⟩ | ⟨_, sending, _, ⟨_, rfl, run', _⟩ | ⟨_, rfl, run', _⟩⟩
    · exact List.forall_mem_singleton.mpr id
    all_goals
      obtain ⟨_, rfl, _⟩ := run_putWhole run' parsed
      simp [Trace.Unread, Call.IsPartRead]

namespace Build

variable {area : StagingArea} {settings : BuildSettings} {request : BuildRequest}
  {trace front back : Trace}

/-! ### The upload of the vectors -/

section

variable (area : StagingArea) (request : BuildRequest)

/-- The vectors were uploaded in a trace, and no part was read before that or afterwards. -/
def Uploads (trace : Trace) : Prop :=
  ∃ before sending rest key sent, trace = before ++ sending ++ rest ∧ Trace.Quiet before ∧
    Run (Upload.vectors (area.alignedTo request.shape.bytesPerVector) key request.shape.totalBytes)
      sending (.ok sent) ∧ Trace.Unread rest

/-- The parts of the vectors are read in one upload, if at all. What follows an upload that fails reads
no part, and calls neither the service nor for the ids. -/
inductive ReadsOnce : Trace → Prop
  | never {trace : Trace} (unread : trace.Unread) : ReadsOnce trace
  | whole {trace : Trace} (uploads : Uploads area request trace) : ReadsOnce trace
  | broken {before sending rest : Trace} {key : String} {failure : Failure} (early : before.Quiet)
    (run : Run (Upload.vectors (area.alignedTo request.shape.bytesPerVector) key
      request.shape.totalBytes) sending (.error failure))
    (late : rest.Quiet) : ReadsOnce (before ++ sending ++ rest)

end

/-- What follows reads no part, so that the vectors still were uploaded once. -/
theorem Uploads.append (uploads : Uploads area request front) (unread : back.Unread) :
    Uploads area request (front ++ back) := by
  obtain ⟨before, sending, rest, key, sent, rfl, quiet, run, late⟩ := uploads
  exact ⟨before, sending, rest ++ back, key, sent, by simp, quiet, run, late.append unread⟩

/-- Until the keys are made no part is read. -/
theorem Reaches.quiet_named {keys : StagedKeys}
    (named : Reaches area settings request trace (.named keys)) : trace.Quiet := by
  cases named with
  | named right idle =>
    exact List.forall_mem_append.mpr ⟨idle.quiet, List.forall_mem_singleton.mpr ⟨id, id⟩⟩

/-- **At every milestone after the first one the vectors were uploaded**, and nothing else was read.

**Proof sketch.** Induction on the way to the milestone: no operation but the upload of the vectors reads
a part. -/
theorem Reaches.uploads {milestone : Milestone}
    (reaches : Reaches area settings request trace milestone)
    (later : ∀ keys, milestone ≠ .named keys) : Uploads area request trace := by
  induction reaches with
  | named => exact absurd rfl (later _)
  | @vectorsStaged before sending keys vectorBytes earlier run =>
    exact ⟨before, sending, [], _, _, by simp, earlier.quiet_named, run, List.forall_mem_nil _⟩
  | docIdsRead earlier ih => exact (ih nofun).append (List.forall_mem_singleton.mpr id)
  | staged earlier run ih => exact (ih nofun).append (Upload.unread_blob run)
  | submitted earlier idle ih =>
    exact (ih nofun).append (idle.unread.append (List.forall_mem_singleton.mpr id))
  | completed earlier idle run ih =>
    refine (ih nofun).append (idle.unread.append fun exchange mem => ?_)
    exact (run.forall_within (Poll.within_awaitCompletion settings) exchange mem).not_isPartRead
  | sized earlier idle here run ih =>
    refine (ih nofun).append (idle.unread.append fun exchange mem => ?_)
    exact (run.forall_within (BlobStore.within_head _) exchange mem).not_isPartRead
  | fetched earlier idle parsed run ih =>
    refine (ih nofun).append (idle.unread.append fun exchange mem => ?_)
    exact (run.forall_within (Download.within_fetchAll parsed _ _ _) exchange mem).not_isPartRead
  | delivered earlier idle run ih =>
    refine (ih nofun).append (Trace.Unread.append (fun exchange mem => ?_) idle.unread)
    exact (run.forall_within (Download.within_writeInOrder _ _) exchange mem).not_isPartRead

/-- **A remote build that failed read the vectors in one upload**, and so did all that was done later.

**Proof sketch.** If the upload of the vectors is what failed, the calls up to then are its own and those
before. Every later operation needs the vectors to be stored, and reads no part itself. -/
theorem FailsFirst.readsOnce {stage : Stage} {failure : Failure}
    (fails : FailsFirst area settings request front stage failure) (late : back.Quiet) :
    ReadsOnce area request (front ++ back) := by
  cases fails with
  | request idle wrong => exact .never (idle.unread.append late.unread)
  | vectors earlier run => exact .broken earlier.quiet_named run late
  | docIds earlier =>
    refine .whole (((earlier.uploads nofun).append ?_).append late.unread)
    exact List.forall_mem_singleton.mpr id
  | docIdBlob earlier run =>
    exact .whole (((earlier.uploads nofun).append (Upload.unread_blob run)).append late.unread)
  | submit earlier idle =>
    refine .whole (((earlier.uploads nofun).append (idle.unread.append ?_)).append late.unread)
    exact List.forall_mem_singleton.mpr id
  | completion earlier idle run =>
    refine .whole (((earlier.uploads nofun).append (idle.unread.append ?_)).append late.unread)
    exact fun exchange mem =>
      (run.forall_within (Poll.within_awaitCompletion settings) exchange mem).not_isPartRead
  | container earlier idle elsewhere =>
    exact .whole (((earlier.uploads nofun).append idle.unread).append late.unread)
  | head earlier idle here run =>
    refine .whole (((earlier.uploads nofun).append (idle.unread.append ?_)).append late.unread)
    exact fun exchange mem =>
      (run.forall_within (BlobStore.within_head _) exchange mem).not_isPartRead
  | ranges earlier idle parsed run =>
    refine .whole (((earlier.uploads nofun).append (idle.unread.append ?_)).append late.unread)
    exact fun exchange mem =>
      (run.forall_within (Download.within_fetchAll parsed _ _ _) exchange mem).not_isPartRead
  | sink earlier run =>
    refine .whole (((earlier.uploads nofun).append ?_).append late.unread)
    exact fun exchange mem =>
      (run.forall_within (Download.within_writeInOrder _ _) exchange mem).not_isPartRead

/-- **Every build reads the vectors in one upload, if at all.** -/
theorem Ends.readsOnce {outcome : Except Failure BuildOutcome}
    (ends : Ends area settings request trace outcome) : ReadsOnce area request trace := by
  have deletes {cleanup : Trace} (cleans : ∀ exchange ∈ cleanup, ∃ path, exchange.1 = .delete path) :
      cleanup.Quiet := by
    intro exchange mem
    obtain ⟨path, is_delete⟩ := cleans exchange mem
    rw [is_delete]
    exact ⟨id, id⟩
  cases ends with
  | ineligible reason =>
    exact .never (List.forall_mem_cons.mpr ⟨id, List.forall_mem_singleton.mpr id⟩)
  | remote eligible graph delivered cleans =>
    refine .whole ((delivered.uploads nofun).append ((deletes cleans).unread.append ?_))
    exact List.forall_mem_singleton.mpr id
  | fallback eligible fails cleans =>
    refine fails.readsOnce (List.forall_mem_append.mpr ⟨deletes cleans, ?_⟩)
    exact List.forall_mem_cons.mpr ⟨⟨id, id⟩, List.forall_mem_cons.mpr ⟨⟨id, id⟩,
      List.forall_mem_singleton.mpr ⟨id, id⟩⟩⟩

/-! ### What is left unawaited -/

namespace ReadsOnce

/-- Around one upload the parts that were not waited for are those of the upload. -/
theorem through_around {limit : Nat} {before sending rest : Trace} {left : List Part}
    (early : before.Unread) (through : Trace.Through (Trace.ReadStep limit) [] sending left)
    (late : rest.Unread) : Trace.Through (Trace.ReadStep limit) [] (before ++ sending ++ rest) left := by
  refine Trace.through_append_iff.mpr ⟨left, ?_, Trace.through_of_unread late left⟩
  exact Trace.through_append_iff.mpr ⟨[], Trace.through_of_unread early [], through⟩

/-- **A build never has more parts unawaited than may be read at once.** -/
theorem exists_through (reads : ReadsOnce area request trace) :
    ∃ left, Trace.Through (Trace.ReadStep area.options.atOnce) [] trace left := by
  cases reads with
  | never unread => exact ⟨[], Trace.through_of_unread unread []⟩
  | whole uploads =>
    obtain ⟨before, sending, rest, key, sent, rfl, quiet, run, late⟩ := uploads
    obtain ⟨left, through, _⟩ := Upload.exists_through_vectors run
    exact ⟨left, through_around quiet.unread through late⟩
  | broken early run late =>
    obtain ⟨left, through, _⟩ := Upload.exists_through_vectors run
    exact ⟨left, through_around early.unread through late.unread⟩

/-- An upload of the vectors calls neither the service nor for the ids. -/
theorem not_followsVectors {key : String} {total : UInt64} {outcome : Except Failure Nat}
    (run : Run (Upload.vectors area key total) trace outcome) :
    ∀ exchange ∈ trace, ¬ exchange.1.FollowsVectors := fun exchange mem =>
  (run.forall_within (Upload.within_upload (.read area total)) exchange mem).not_followsVectors

/-- **When the ids are read, and when the service is called, every part was waited for that had begun to be
read**, and it is so from then on.

**Proof sketch.** Such a call comes after an upload that has succeeded, which leaves no part unawaited;
and afterwards no part is read. -/
theorem unawaited_eq_nil (reads : ReadsOnce area request (front ++ back)) {exchange : Exchange}
    (mem : exchange ∈ front) (follows : exchange.1.FollowsVectors) : front.unawaited = [] := by
  have settled {trace : Trace} (through : Trace.Through (Trace.ReadStep area.options.atOnce) [] trace []) :
      trace.unawaited = [] :=
    (Trace.unawaited_perm (Trace.perm_of_through through)).eq_nil
  generalize whole_eq : front ++ back = trace at reads
  cases reads with
  | never unread =>
    refine settled (Trace.through_of_unread (fun other mem => unread other ?_) [])
    exact whole_eq ▸ List.mem_append_left back mem
  | whole uploads =>
    obtain ⟨before, sending, rest, key, sent, rfl, quiet, run, late⟩ := uploads
    have not_yet : ∀ other ∈ before ++ sending, ¬ other.1.FollowsVectors :=
      List.forall_mem_append.mpr ⟨fun other mem => (quiet other mem).2, not_followsVectors run⟩
    rcases List.append_eq_append_iff.mp whole_eq with ⟨middle, early_eq, _⟩ | ⟨middle, rfl, rfl⟩
    · exact absurd follows (not_yet exchange (early_eq ▸ List.mem_append_left middle mem))
    · obtain ⟨left, through, ended⟩ := Upload.exists_through_vectors run
      obtain rfl := ended sent rfl
      exact settled (through_around quiet.unread through fun other mem =>
        late other (List.mem_append_left back mem))
  | @broken before sending rest key failure early run late =>
    have never : ∀ other ∈ before ++ sending ++ rest, ¬ other.1.FollowsVectors :=
      List.forall_mem_append.mpr ⟨List.forall_mem_append.mpr
        ⟨fun other mem => (early other mem).2, not_followsVectors run⟩, fun other mem => (late other mem).2⟩
    exact absurd follows (never exchange (whole_eq ▸ List.mem_append_left back mem))

end ReadsOnce

end Build

end GraphOffload
