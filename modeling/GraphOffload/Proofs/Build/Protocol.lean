import GraphOffload.Proofs.Build.Delivery
import GraphOffload.Proofs.Build.Reading

/-!
# The protocol of a build

A build makes its calls in an order that the service and other users of the store can rely on: a job
is submitted once, when its blobs are stored; its status is asked for under the id it was given; the
graph is read where the service says that it lies; blobs are deleted when nobody needs them any more;
and the local builder is called last. Only the reads in the background that an upload began before it
failed, and that nobody waits for any more, may still go on then.

## Main definitions

* `GraphOffload.Call.IsOnStore`, `GraphOffload.Call.IsOnService`, `GraphOffload.Call.IsOnCorpus` : whom
  a call is made on.
* `GraphOffload.Call.Reads` : the call asks for the size of an object, or for a range of it.
* `GraphOffload.Trace.Locates` : the service said where the graph lies, and was asked nothing since.
* `GraphOffload.Build.Grounded` : what has to have happened when a call is made.
* `GraphOffload.Build.KeepsProtocol` : the order of the calls of a build, and of its readers' work.

## Main results

* `GraphOffload.Build.Course.orderly` : every call of a remote build is grounded.
* `GraphOffload.Build.execute_keepsProtocol` : every build keeps the protocol.
* `GraphOffload.Build.exists_read_after_builder` : a part that a build did not wait for may be read after
  the local builder was called.
-/

namespace GraphOffload

open Attempting ReadingEvent

/-! ### Whom a call is made on -/

namespace Call

/-- The call is one on the store. -/
def IsOnStore : Call → Prop
  | .head _ | .put .. | .get _ | .delete _ | .list _ | .beginRange .. | .endRange .. => True
  | .openUpload _ | .beginPart .. | .endPart _ | .completeUpload | .abortUpload => True
  | _ => False

/-- The call is one on the build service. -/
def IsOnService : Call → Prop
  | .submit _ | .status .. => True
  | _ => False

/-- The call opens a cursor of the corpus, or waits for what is read with one. -/
def IsOnCorpus : Call → Prop
  | .beginRead .. | .endRead .. | .readDocIds => True
  | _ => False

/-- The call asks for the size of an object, or for a range of it. -/
def Reads (path : ObjectPath) : Call → Prop
  | .head other | .beginRange other _ _ | .endRange other _ _ => other = path
  | _ => False

variable {call : Call}

/-- The service is called in the middle of a build. -/
theorem IsOnService.phase_eq (h : call.IsOnService) : call.phase = 1 ∨ call.phase = 2 := by
  cases call <;> first | exact h.elim | simp [phase]

/-- Idle calls are not made on the service. -/
theorem IsIdle.not_isOnService (h : call.IsIdle) : ¬ call.IsOnService := by
  cases call <;> first | exact h.elim | exact id

/-- Idle calls read no object. -/
theorem IsIdle.not_reads (h : call.IsIdle) (path : ObjectPath) : ¬ call.Reads path := by
  cases call <;> first | exact h.elim | exact id

/-- A download is not made on the service. -/
theorem Downloads.not_isOnService {key : String} (h : call.Downloads key) : ¬ call.IsOnService := by
  intro on_service
  cases call <;> first | exact on_service.elim | exact h.elim id id

/-- Such calls belong to the staging. -/
theorem Stages.phase_eq {keys : StagedKeys} (h : call.Stages keys) : call.phase = 0 := by
  rcases h with uploads | uploads | rfl
  · exact uploads.phase_eq
  · exact uploads.phase_eq
  · rfl

end Call

/-- The last that the service was asked for was the status of a job, and it said that the job is done
and that its graph lies under a path. -/
def Trace.Locates (trace : Trace) (path : ObjectPath) : Prop :=
  ∃ earlier jobId deadline reply location later,
    trace = earlier ++ ⟨.status jobId deadline, some (.ok reply)⟩ :: later ∧
      reply.status = .completed ∧ reply.result = some location ∧
      ObjectPath.parse location.graphKey = .ok path ∧ ∀ exchange ∈ later, ¬ exchange.1.IsOnService

/-- Nothing changes that while the service is not called. -/
theorem Trace.Concludes.locates {trace later : Trace} {jobId : String} {location : GraphLocation}
    {path : ObjectPath} (concludes : trace.Concludes jobId location)
    (parsed : ObjectPath.parse location.graphKey = .ok path)
    (silent : ∀ exchange ∈ later, ¬ exchange.1.IsOnService) : Trace.Locates (trace ++ later) path := by
  obtain ⟨front, deadline, reply, back, rfl, completed, found, idle⟩ := concludes
  refine ⟨front, jobId, deadline, reply, location, back ++ later, by simp, completed, found, parsed, ?_⟩
  refine List.forall_mem_append.mpr ⟨fun exchange mem => ?_, silent⟩
  exact (idle exchange mem).not_isOnService

namespace Build

variable {area : StagingArea} {settings : BuildSettings} {request : BuildRequest} {trace : Trace}

/-! ### What has to have happened -/

section

variable (settings : BuildSettings) (request : BuildRequest)

/-- A path is one of those under which the blobs of a name that was given are to lie. -/
def IsStagedPath (front : Trace) (path : ObjectPath) : Prop :=
  ∃ name ∈ front.names, ∃ key,
    (StagedKeys.ofName settings.keyPrefix name request.field.name request.buildUnit).Has key ∧
      ObjectPath.parse key = .ok path

/-- What has to have happened when a call is made. -/
structure Grounded (front : Trace) (exchange : Exchange) : Prop where
  /-- A job is the first that the service is called for, and its blobs are stored. -/
  submit : ∀ job, exchange.1 = .submit job → (∀ earlier ∈ front, ¬ earlier.1.IsOnService) ∧
    front.Commits job.vectorKey ∧ front.Commits job.docIdKey
  /-- A job that is asked for was submitted. -/
  status : ∀ jobId deadline, exchange.1 = .status jobId deadline →
    ∃ job, ⟨.submit job, .ok jobId⟩ ∈ front
  /-- An object that is read is the graph, unless its size is asked for before blobs are stored. -/
  reads : ∀ path, exchange.1.Reads path → front.Locates path ∨ exchange.1 = .head path ∧
    (∀ earlier ∈ front, ¬ earlier.1.IsOnService) ∧ IsStagedPath settings request front path

end

/-- A call on neither service nor objects needs nothing. -/
theorem Grounded.of_else {front : Trace} {exchange : Exchange}
    (off_service : ¬ exchange.1.IsOnService) (no_read : ∀ path, ¬ exchange.1.Reads path) :
    Grounded settings request front exchange where
  submit _ same := absurd (same ▸ trivial) off_service
  status _ _ same := absurd (same ▸ trivial) off_service
  reads path reads := absurd reads (no_read path)

/-- The service is not called in the staging. -/
theorem UpTo.not_isOnService (h : UpTo 0 trace) : ∀ exchange ∈ trace, ¬ exchange.1.IsOnService := by
  intro exchange mem on_service
  have := h exchange mem
  rcases on_service.phase_eq with same | same <;> omega

/-- Idle calls need nothing. -/
theorem orderly_of_idle {earlier : Trace} (idle : trace.Idle) :
    Trace.Orderly (Grounded settings request) earlier trace := by
  intro front exchange back split
  have quiet := idle exchange (by simp [split])
  exact .of_else quiet.not_isOnService quiet.not_reads

/-- The keys are made before anything else. -/
theorem Reaches.orderly_named {keys : StagedKeys}
    (named : Reaches area settings request trace (.named keys)) :
    Trace.Orderly (Grounded settings request) [] trace := by
  cases named with
  | named right idle => exact (orderly_of_idle idle).append (.singleton (.of_else id fun _ => id))

/-- While blobs are staged, the store is asked for nothing but their paths.

**Proof sketch.** By the call. Of those on the store only the question for a size needs a ground, and it
is for one of the two keys, which are made of a name that was given (`Reaches.exists_name`). -/
theorem orderly_of_stages {earlier : Trace} {keys : StagedKeys}
    (named : Reaches area settings request earlier (.named keys))
    (stages : ∀ exchange ∈ trace, exchange.1.Stages keys) :
    Trace.Orderly (Grounded settings request) earlier trace := by
  rintro front ⟨call, reply⟩ back rfl
  have early : UpTo 0 (earlier ++ front) :=
    named.upTo.append fun e mem => (stages e (List.mem_append_left _ mem)).phase_eq.le
  obtain ⟨name, given, rfl⟩ := named.exists_name
  have mem : name ∈ Trace.names (earlier ++ front) := by
    rw [Trace.names, List.filterMap_append]
    exact List.mem_append_left _ given
  have made := stages ⟨call, reply⟩ (by simp)
  cases call with
  | head path =>
    constructor
    case submit =>
      intro job same
      cases same
    case status =>
      intro jobId deadline same
      cases same
    case reads =>
      rintro other rfl
      refine .inr ⟨rfl, early.not_isOnService, name, mem, ?_⟩
      rcases made with parsed | parsed | same
      · exact ⟨_, .inl rfl, parsed⟩
      · exact ⟨_, .inr rfl, parsed⟩
      · cases same
  | beginRange | endRange | submit | status =>
    rcases made with uploads | uploads | same
    · exact uploads.elim
    · exact uploads.elim
    · cases same
  | _ => exact .of_else id fun _ => id

/-- A job may be submitted when its blobs were staged. -/
theorem Reaches.grounded_submit {pause : Trace} {blobs : StagedBlobs} {reply : Except Failure String}
    (staged : Reaches area settings request trace (.staged blobs)) (idle : pause.Idle) :
    Grounded settings request (trace ++ pause) ⟨.submit (jobOf settings request blobs), reply⟩ := by
  obtain ⟨_, keys, _, _, _, _, vector_eq, docId_eq, vectors, docIds⟩ := staged.staging
  have early : UpTo 0 (trace ++ pause) := staged.upTo.append (.of_idle idle)
  refine ⟨?_, nofun, fun _ => False.elim⟩
  rintro job same
  obtain rfl := Call.submit.inj same
  refine ⟨early.not_isOnService, ?_, ?_⟩
  · rw [jobOf, BuildJob.ofStaged, vector_eq]
    exact vectors.before pause
  · rw [jobOf, BuildJob.ofStaged, docId_eq]
    exact docIds.before pause

/-- A job may be asked for when it was submitted. -/
theorem orderly_of_polls {earlier : Trace} {job : BuildJob} {jobId : String}
    (submitted : ⟨.submit job, .ok jobId⟩ ∈ earlier)
    (polls : ∀ exchange ∈ trace, exchange.1.Polls jobId) :
    Trace.Orderly (Grounded settings request) earlier trace := by
  rintro front ⟨call, reply⟩ back rfl
  have made := polls ⟨call, reply⟩ (by simp)
  cases call with
  | status asked deadline =>
    refine ⟨nofun, ?_, fun _ => False.elim⟩
    rintro asked' deadline' same
    obtain ⟨rfl, rfl⟩ := Call.status.inj same
    obtain rfl : asked = jobId := made
    exact ⟨job, List.mem_append_left _ submitted⟩
  | submit | head | beginRange | endRange => exact made.elim
  | _ => exact .of_else id fun _ => id

/-- The graph may be read where the service said that it lies. -/
theorem orderly_of_downloads {earlier : Trace} {jobId : String} {location : GraphLocation}
    (concludes : earlier.Concludes jobId location)
    (downloads : ∀ exchange ∈ trace, exchange.1.Downloads location.graphKey) :
    Trace.Orderly (Grounded settings request) earlier trace := by
  rintro front exchange back rfl
  have made := downloads exchange (by simp)
  have silent : ∀ exchange ∈ front, ¬ exchange.1.IsOnService :=
    fun e mem => (downloads e (List.mem_append_left _ mem)).not_isOnService
  have off_service := made.not_isOnService
  refine ⟨fun _ same => absurd (same ▸ trivial) off_service,
    fun _ _ same => absurd (same ▸ trivial) off_service, fun path reads => .inl ?_⟩
  refine concludes.locates ?_ silent
  obtain ⟨call, reply⟩ := exchange
  cases call with
  | head other | beginRange other start finish | endRange other start finish =>
    obtain rfl : other = path := reads
    exact made.elim id False.elim
  | _ => exact reads.elim

/-! ### Remote builds -/

/-- Until the blobs are staged every call is grounded. -/
theorem Reaches.orderly_staged {blobs : StagedBlobs}
    (staged : Reaches area settings request trace (.staged blobs)) :
    Trace.Orderly (Grounded settings request) [] trace := by
  obtain ⟨naming, keys, rest, rfl, named, stages, _⟩ := staged.staging
  exact named.orderly_named.append (orderly_of_stages named stages)

/-- A job that was submitted is known by the id that it was given. -/
theorem Reaches.orderly_submitted {blobs : StagedBlobs} {jobId : String}
    (submitted : Reaches area settings request trace (.submitted blobs jobId)) :
    Trace.Orderly (Grounded settings request) [] trace ∧ ∃ job, ⟨.submit job, .ok jobId⟩ ∈ trace := by
  cases submitted with
  | submitted earlier idle =>
    refine ⟨earlier.orderly_staged.append ((orderly_of_idle idle).append (.singleton ?_)),
      jobOf settings request blobs, by simp⟩
    exact earlier.grounded_submit idle

/-- A job that is done was asked for, and the service said where its graph lies. -/
theorem Reaches.orderly_completed {blobs : StagedBlobs} {jobId : String} {location : GraphLocation}
    (completed : Reaches area settings request trace (.completed blobs jobId location)) :
    Trace.Orderly (Grounded settings request) [] trace ∧ trace.Concludes jobId location := by
  cases completed with
  | @completed before pause polls _ _ _ earlier idle run =>
    obtain ⟨orderly, job, submitted⟩ := earlier.orderly_submitted
    refine ⟨orderly.append ((orderly_of_idle idle).append ?_),
      ((Poll.run_awaitCompletion run).after pause).after before⟩
    exact orderly_of_polls (List.mem_append_left _ submitted)
      (run.forall_within (Poll.within_awaitCompletion settings))

/-- **Every call of a remote build is grounded**, wherever the build stops. -/
theorem Course.orderly (course : Course area settings request trace) :
    Trace.Orderly (Grounded settings request) [] trace := by
  cases course with
  | unnamed idle => exact orderly_of_idle idle
  | unstaged named stages => exact named.orderly_named.append (orderly_of_stages named stages)
  | refused staged idle =>
    exact staged.orderly_staged.append ((orderly_of_idle idle).append
      (.singleton (staged.grounded_submit idle)))
  | unfinished submitted polls =>
    obtain ⟨orderly, job, sent⟩ := submitted.orderly_submitted
    exact orderly.append (orderly_of_polls sent polls)
  | finished completed downloads =>
    obtain ⟨orderly, concludes⟩ := completed.orderly_completed
    exact orderly.append (orderly_of_downloads concludes downloads)

/-! ### Whole builds -/

/-- A build is a remote one as far as it comes, then what is done later, and then the local one if it
is called for. -/
theorem Ends.parts {outcome : Except Failure BuildOutcome}
    (ends : Ends area settings request trace outcome) :
    ∃ remote later ending, trace = remote ++ (later ++ ending) ∧ Course area settings request remote ∧
      UpTo 4 remote ∧ Later later ∧
      (ending = [] ∨ ∃ reply, ending = [⟨.buildLocally request, reply⟩]) := by
  cases ends with
  | @ineligible why reply reason =>
    have none_made : Trace.Idle [] := List.forall_mem_nil _
    refine ⟨[], [⟨.count (.outcome .ineligible), ()⟩], [⟨.buildLocally request, reply⟩], rfl,
      .unnamed none_made, .of_idle none_made, ?_, .inr ⟨reply, rfl⟩⟩
    exact List.forall_mem_singleton.mpr (.inr trivial)
  | @remote remote cleanup report location eligible graph delivered cleans =>
    refine ⟨remote, cleanup ++ [⟨.count (.outcome .installed), ()⟩], [], by simp, delivered.course,
      delivered.upTo, ?_, .inl rfl⟩
    exact List.forall_mem_append.mpr ⟨fun e mem => .inl (cleans e mem), by simp [Call.IsIdle]⟩
  | @fallback remote cleanup stage failure reply eligible fails cleans =>
    refine ⟨remote, cleanup ++ [⟨.count (.fallback stage failure.label), ()⟩,
      ⟨.count (.outcome .fallback), ()⟩], [⟨.buildLocally request, reply⟩], by simp, fails.course,
      fails.upTo, ?_, .inr ⟨reply, rfl⟩⟩
    exact List.forall_mem_append.mpr ⟨fun e mem => .inl (cleans e mem), by simp [Call.IsIdle]⟩

/-- What is done after a remote build is done without the service, and reads nothing. -/
theorem off_service_of_later {later ending : Trace} (after : Later later)
    (last : ending = [] ∨ ∃ reply, ending = [⟨.buildLocally request, reply⟩]) :
    ∀ exchange ∈ later ++ ending,
      ¬ exchange.1.IsOnService ∧ ∀ path, ¬ exchange.1.Reads path := by
  refine List.forall_mem_append.mpr ⟨fun exchange mem => ?_, ?_⟩
  · rcases after exchange mem with ⟨path, is_delete⟩ | idle
    · rw [is_delete]
      exact ⟨id, fun _ => id⟩
    · exact ⟨idle.not_isOnService, idle.not_reads⟩
  · rcases last with rfl | ⟨reply, rfl⟩
    · exact List.forall_mem_nil _
    · exact List.forall_mem_singleton.mpr ⟨id, fun _ => id⟩

/-- A build that is not worth a remote one counts that, and calls the local builder. -/
theorem Ends.quiet_of_ineligible {outcome : Except Failure BuildOutcome}
    (ends : Ends area settings request trace outcome)
    (reason : settings.ineligible? request.shape ≠ none) :
    ∀ exchange ∈ trace,
      ¬ exchange.1.IsOnStore ∧ ¬ exchange.1.IsOnService ∧ ¬ exchange.1.IsOnCorpus := by
  cases ends with
  | ineligible =>
    exact List.forall_mem_cons.mpr ⟨⟨id, id, id⟩, List.forall_mem_singleton.mpr ⟨id, id, id⟩⟩
  | remote eligible | fallback eligible => exact absurd eligible reason

/-- The local builder is called at the end, if it is called. -/
theorem builder_last {remote later ending front back : Trace} {other : BuildRequest}
    {reply : Call.Reply (.buildLocally other)} (upTo : UpTo 4 remote) (after : Later later)
    (last : ending = [] ∨ ∃ reply, ending = [⟨.buildLocally request, reply⟩])
    (same : remote ++ (later ++ ending) = front ++ ⟨.buildLocally other, reply⟩ :: back) :
    other = request ∧ back = [] := by
  rw [← List.append_assoc] at same
  rcases last with rfl | ⟨reply', rfl⟩
  · rw [List.append_nil] at same
    have mem : ⟨.buildLocally other, reply⟩ ∈ remote ++ later := by
      rw [same]
      exact List.mem_append_right _ List.mem_cons_self
    exact absurd rfl (ne_buildLocally upTo after _ mem other)
  · obtain ⟨rfl, rfl⟩ := eq_of_calls_builder _ same (ne_buildLocally upTo after)
    obtain ⟨call_eq, _⟩ := Sigma.mk.inj (List.cons.inj (List.append_cancel_left same)).1
    exact ⟨(Call.buildLocally.inj call_eq).symm, rfl⟩

/-- Where every call is grounded, a job is submitted at most once: a second one would be submitted
after a call on the service. -/
theorem submits_once {front back : Trace} {job : BuildJob} {reply : Call.Reply (.submit job)}
    (orderly : Trace.Orderly (Grounded settings request) [] trace)
    (same : trace = front ++ ⟨.submit job, reply⟩ :: back) :
    ∀ exchange ∈ front ++ back, ∀ other, exchange.1 ≠ .submit other := by
  obtain ⟨first, _, _⟩ := (orderly _ _ _ same).submit job rfl
  refine List.forall_mem_append.mpr ⟨fun exchange mem other is_submit => ?_, ?_⟩
  · exact first exchange mem (is_submit ▸ trivial)
  · intro exchange mem other is_submit
    obtain ⟨middle, rest, rfl⟩ := List.append_of_mem mem
    have again := (orderly (front ++ ⟨.submit job, reply⟩ :: middle) exchange rest
      (by simp [same])).submit other is_submit
    exact again.1 ⟨.submit job, reply⟩ (by simp) trivial

/-! ### The protocol -/

/-- The order of the calls of a build, and of what its readers do in the background. -/
structure KeepsProtocol (area : StagingArea) (settings : BuildSettings) (request : BuildRequest)
    (history : List ReadingEvent) : Prop where
  /-- If the corpus is not worth a remote build, no call is made on store, service or corpus, and nothing
  is read in the background. -/
  ineligible : settings.ineligible? request.shape ≠ none → ∀ event ∈ history,
    ∃ exchange, event = .call exchange ∧
      ¬ exchange.1.IsOnStore ∧ ¬ exchange.1.IsOnService ∧ ¬ exchange.1.IsOnCorpus
  /-- A job is submitted at most once, and only when both blobs that it names are stored. -/
  submit : ∀ (front : Trace) job reply back, callsIn history = front ++ ⟨.submit job, reply⟩ :: back →
    (∀ exchange ∈ front ++ back, ∀ other, exchange.1 ≠ .submit other) ∧
    front.Commits job.vectorKey ∧ front.Commits job.docIdKey
  /-- A status is asked for only of the job that was submitted, under the id that it was given. -/
  status : ∀ (front : Trace) jobId deadline reply back,
    callsIn history = front ++ ⟨.status jobId deadline, reply⟩ :: back →
      ∃ job, ⟨.submit job, .ok jobId⟩ ∈ front
  /-- Only the graph is read, where the last reply of the service said that it lies. Before that, and
  before a job is submitted, sizes are asked for under the keys of the blobs. -/
  reads : ∀ (front : Trace) call reply back path, callsIn history = front ++ ⟨call, reply⟩ :: back →
    call.Reads path → front.Locates path ∨ call = .head path ∧
      (∀ earlier ∈ front, ¬ earlier.1.IsOnService) ∧ IsStagedPath settings request front path
  /-- When something is deleted, the service is not called any more, and nothing is read. -/
  deletes : ∀ (front : Trace) path reply back, callsIn history = front ++ ⟨.delete path, reply⟩ :: back →
    ∀ exchange ∈ back, ¬ exchange.1.IsOnService ∧ ∀ other, ¬ exchange.1.Reads other
  /-- A reader in the background works on a part that has begun to be read and was not waited for. There
  are never more of these than parts may be read at once. -/
  background : ∀ front event back part, history = front ++ event :: back → event.part? = some part →
    part ∈ (callsIn front).unawaited ∧ (callsIn front).unawaited.length ≤ area.options.atOnce
  /-- When the ids are read, and when the service is called, no reader is left, and none comes later. -/
  settled : ∀ front exchange back, history = front ++ .call exchange :: back →
    exchange.1.FollowsVectors → ∀ event ∈ back, event.part? = none
  /-- The local builder is the last that is called, and so it is called at most once. What goes on after
  that is the reading of parts that the build has begun to read and never waits for. -/
  builder : ∀ front other reply back, history = front ++ .call ⟨.buildLocally other, reply⟩ :: back →
    other = request ∧ ∀ event ∈ back, ∃ part ∈ (callsIn front).unawaited, event.part? = some part

/-- The calls that a build makes are in the order of the protocol.

**Proof sketch.** Each call of a remote build has its ground in those before it, since it belongs to a
part of the build that begins only when the part before has ended well. What comes later are deletes,
counts, and at last the local builder. -/
theorem Ends.orderly {outcome : Except Failure BuildOutcome}
    (ends : Ends area settings request trace outcome) :
    Trace.Orderly (Grounded settings request) [] trace ∧
    (∀ (front : Trace) path reply back, trace = front ++ ⟨.delete path, reply⟩ :: back →
      ∀ exchange ∈ back, ¬ exchange.1.IsOnService ∧ ∀ other, ¬ exchange.1.Reads other) ∧
    ∀ (front : Trace) other reply back, trace = front ++ ⟨.buildLocally other, reply⟩ :: back →
      other = request ∧ back = [] := by
  obtain ⟨remote, later, ending, split, course, upTo, after, last⟩ := ends.parts
  have off_service := off_service_of_later after last
  refine ⟨?_, fun front path reply back same exchange mem => ?_, fun front other reply back same => ?_⟩
  · rw [split]
    refine course.orderly.append fun front exchange back same => ?_
    obtain ⟨not_on_service, no_read⟩ := off_service exchange (by simp [same])
    exact .of_else not_on_service no_read
  · have inside : back ⊆ later ++ ending :=
      Trace.subset_of_append_eq_append_cons (fun exchange => exchange.1.phase = 5)
        (split.symm.trans same) rfl fun e came => by have := upTo e came; omega
    exact off_service exchange (inside mem)
  · exact builder_last upTo after last (split.symm.trans same)

/-- A build that is not worth a remote one has no reader in the background.

**Proof sketch.** It makes no call on the corpus, so that no part is left unawaited that a reader could
work on. -/
theorem Ends.part?_eq_none_of_ineligible {history : List ReadingEvent} {readers : Readers}
    {outcome : Except Failure BuildOutcome}
    (ends : Ends area settings request (callsIn history) outcome)
    (follows : Readers.Follows {} history readers) (reason : settings.ineligible? request.shape ≠ none) :
    ∀ event ∈ history, event.part? = none := by
  intro event mem
  obtain ⟨front, back, rfl⟩ := List.append_of_mem mem
  cases works : event.part? with
  | none => rfl
  | some part =>
    have unread : Trace.Unread (callsIn front) := by
      intro exchange came reads
      have quiet := ends.quiet_of_ineligible reason exchange
        (callsIn_append front _ ▸ List.mem_append_left _ came)
      obtain ⟨call, reply⟩ := exchange
      cases call <;> first | exact quiet.2.2 trivial | exact reads
    have through : Trace.Through (Trace.ReadStep 0) [] (callsIn front) [] :=
      Trace.through_of_unread unread []
    have nothing := (Trace.unawaited_perm (Trace.perm_of_through through)).eq_nil
    have came := Readers.mem_unawaited follows works
    rw [nothing] at came
    cases came

/-- When the vectors are stored no reader is left in the background, and none comes later.

**Proof sketch.** A reader works on a part that was not waited for, of which there is none since then
(`ReadsOnce.unawaited_eq_nil`). -/
theorem Ends.part?_eq_none_of_followsVectors {front back : List ReadingEvent} {readers : Readers}
    {exchange : Exchange} {outcome : Except Failure BuildOutcome}
    (ends : Ends area settings request (callsIn (front ++ .call exchange :: back)) outcome)
    (follows : Readers.Follows {} (front ++ .call exchange :: back) readers)
    (after : exchange.1.FollowsVectors) : ∀ event ∈ back, event.part? = none := by
  intro event mem
  cases works : event.part? with
  | none => rfl
  | some part =>
    rw [List.append_cons] at ends follows
    obtain ⟨between, rest, rfl, came⟩ := Readers.mem_unawaited_of_mem follows mem works
    have reads := ends.readsOnce
    rw [← List.append_assoc, callsIn_append] at reads
    rw [reads.unawaited_eq_nil (by simp) after] at came
    cases came

/-- **Every build keeps the protocol**, whatever fails, whatever the service says, and whenever the reads
in the background go on.

**Proof sketch.** The calls are in order whatever the readers do. A reader works only on parts that were
not waited for, of which there are none when the vectors are stored; and after the last call no other
part begins to be read. -/
theorem execute_keepsProtocol {history : List ReadingEvent} {readers : Readers}
    {outcome : Except Failure BuildOutcome}
    (run : Run (execute area settings request) (callsIn history) outcome)
    (follows : Readers.Follows {} history readers) :
    KeepsProtocol area settings request history := by
  have ends := run_execute run
  obtain ⟨orderly, deletes, builder⟩ := ends.orderly
  obtain ⟨left, through⟩ := ends.readsOnce.exists_through
  constructor
  case ineligible =>
    intro reason event mem
    obtain ⟨exchange, rfl⟩ :=
      ReadingEvent.exists_call (ends.part?_eq_none_of_ineligible follows reason event mem)
    exact ⟨exchange, rfl, ends.quiet_of_ineligible reason exchange
      (List.mem_filterMap.mpr ⟨.call exchange, mem, rfl⟩)⟩
  case submit =>
    intro front job reply back same
    obtain ⟨_, vectors, docIds⟩ := (orderly _ _ _ same).submit job rfl
    exact ⟨submits_once orderly same, vectors, docIds⟩
  case status =>
    intro front jobId deadline reply back same
    exact (orderly _ _ _ same).status jobId deadline rfl
  case reads =>
    intro front call reply back path same reads
    exact (orderly _ _ _ same).reads path reads
  case deletes => exact deletes
  case background =>
    rintro front event back part rfl works
    rw [callsIn_append] at through
    exact ⟨Readers.mem_unawaited follows works, Trace.length_unawaited_le through⟩
  case settled =>
    rintro front exchange back rfl after
    exact ends.part?_eq_none_of_followsVectors follows after
  case builder =>
    rintro front other reply back rfl
    obtain ⟨rfl, none_made⟩ := builder (callsIn front) other reply (callsIn back) (by simp)
    exact ⟨rfl, Readers.exists_unawaited_of_last follows id none_made⟩

/-- A service that is done at once: a job is submitted, and the protocol is kept. -/
theorem execute_keepsProtocol_small_graph :
    ∃ history readers outcome,
      Run (execute World.smallArea World.smallSettings World.smallRequest) (callsIn history) outcome ∧
      Readers.Follows {} history readers ∧
      KeepsProtocol World.smallArea World.smallSettings World.smallRequest history ∧
      ∃ front job reply back, callsIn history = front ++ ⟨.submit job, reply⟩ :: back := by
  let program := (execute World.smallArea World.smallSettings World.smallRequest).run
  have run := Dialogue.run_transcript World.answer program (World.small [])
  have submitted : ∃ exchange ∈ program.transcript World.answer (World.small []),
      exchange.1.phase = 1 := by
    decide +kernel
  obtain ⟨left, through⟩ := (run_execute run).readsOnce.exists_through
  obtain ⟨history, calls_eq, follows⟩ := Readers.exists_follows through
  obtain ⟨⟨call, reply⟩, mem, is_submit⟩ := submitted
  rw [← calls_eq] at run mem
  obtain ⟨front, back, split⟩ := List.append_of_mem mem
  cases call with
  | submit job =>
    exact ⟨history, _, _, run, follows, execute_keepsProtocol run follows, front, job, reply, back, split⟩
  | _ => exact absurd is_submit (by simp [Call.phase])

/-! ### After the local builder -/

/-- **A part that a build did not wait for may be read after the local builder was called.**

**Proof sketch.** No call after the failure of the upload waits for the part, so its reader may begin with
its work at any time; the call on the local builder is not the last of these times. -/
theorem exists_read_after_builder {stage : Stage} {part : Part}
    (run : Run (execute area settings request) trace (.ok (.localBuild (some stage))))
    (unawaited : part ∈ trace.unawaited) :
    ∃ front readers, callsIn front ++ [⟨.buildLocally request, .ok ()⟩] = trace ∧
      Readers.Follows {} (front ++ [.call ⟨.buildLocally request, .ok ()⟩,
        .opens part, .advances part, .ends part]) readers := by
  have ends := run_execute run
  obtain ⟨left, through⟩ := ends.readsOnce.exists_through
  generalize same : Except.ok (BuildOutcome.localBuild (some stage)) = outcome at ends
  cases ends with
  | @ineligible why reply reason => cases reply <;> cases same
  | remote => cases same
  | @fallback remote cleanup failed failure reply eligible fails cleans =>
    cases reply with
    | error failure => cases same
    | ok done =>
      have split : remote ++ (cleanup ++ [⟨.count (.fallback failed failure.label), ()⟩,
          ⟨.count (.outcome .fallback), ()⟩, ⟨.buildLocally request, .ok done⟩]) =
          (remote ++ cleanup ++ [⟨.count (.fallback failed failure.label), ()⟩,
            ⟨.count (.outcome .fallback), ()⟩]) ++ [⟨.buildLocally request, .ok done⟩] := by simp
      have last : Trace.Unread [⟨.buildLocally request, .ok done⟩] := List.forall_mem_singleton.mpr id
      rw [split] at through unawaited ⊢
      rw [Trace.unawaited_append_of_unread last] at unawaited
      obtain ⟨middle, earlier, _⟩ := Trace.through_append_iff.mp through
      obtain ⟨front, readers, calls_eq, follows⟩ := Readers.exists_late earlier unawaited last
      exact ⟨front, readers, by rw [calls_eq], follows⟩

/-- The small world with a third document, and a store that fails to take the first part. -/
def brokenWorld : World MemoryCursor :=
  { World.small [⟨.sendPart, some 0, .generic⟩] with
    corpus := MemoryCorpus.toCorpus ⟨1, [(0, [0]), (1, [1]), (2, [2])]⟩ }

/-- The request for the graph of all three documents. -/
def threeRequest : BuildRequest :=
  { World.smallRequest with shape := { dimension := 1, liveCount := 3 }, totalLiveDocs := 3 }

/-- When the first of three parts is not taken, the third one has begun to be read. Its reader may open a
cursor when the local builder was called, as the last thing that the build does. -/
theorem execute_reads_after_builder :
    ∃ front readers,
      Run (execute World.smallArea World.smallSettings threeRequest)
        (callsIn (front ++ [.call ⟨.buildLocally threeRequest, .ok ()⟩, .opens ⟨2, 8, 4⟩,
          .advances ⟨2, 8, 4⟩, .ends ⟨2, 8, 4⟩])) (.ok (.localBuild (some .staging))) ∧
      Readers.Follows {} (front ++ [.call ⟨.buildLocally threeRequest, .ok ()⟩, .opens ⟨2, 8, 4⟩,
        .advances ⟨2, 8, 4⟩, .ends ⟨2, 8, 4⟩]) readers := by
  let program := (execute World.smallArea World.smallSettings threeRequest).run
  have run := Dialogue.run_transcript World.answer program brokenWorld
  have outcome_eq : (program.play World.answer brokenWorld).1 = .ok (.localBuild (some .staging)) := by
    rfl
  have unawaited : ⟨2, 8, 4⟩ ∈ Trace.unawaited (program.transcript World.answer brokenWorld) := by
    decide +kernel
  rw [outcome_eq] at run
  obtain ⟨front, readers, calls_eq, follows⟩ := exists_read_after_builder run unawaited
  refine ⟨front, readers, ?_, follows⟩
  rw [← calls_eq] at run
  rw [callsIn_append]
  exact run

end Build

end GraphOffload
