import GraphOffload.Proofs.Build.Delivery
import GraphOffload.Proofs.Build.Staging

/-!
# Cleaning up

A build that cleans up deletes the blobs that it staged itself, each of them once and in the order of
their uploads, and nothing else. What the deletes come to makes no difference to the build. If they
succeed, the store has what it had before, but for what the service wrote.

## Main definitions

* `GraphOffload.StoreState.FollowsSparing` : what a trace does to a store while the service leaves an
  object alone.
* `GraphOffload.StoreState.Adds` : an object is the one that was there, or one that was uploaded where
  there was none.
* `GraphOffload.Build.conclude` : what a build does after the cleanup.
* `GraphOffload.Build.CleansUp` : what the cleanup of a build does, and what it leaves.

## Main results

* `GraphOffload.Build.run_cleanUp_iff` : the cleanup deletes all blobs, whatever the store replies.
* `GraphOffload.Build.Leaves.adds` : the blobs that an attempt leaves are all that it changed.
* `GraphOffload.Build.execute_cleansUp` : every build cleans up after itself and after nobody else.
-/

namespace GraphOffload

open Attempting StoreState

/-- The call deletes an object. -/
def Call.isDelete : Call → Bool
  | .delete _ => true
  | _ => false

/-! ### Objects that the service leaves alone -/

/-- What writes is a call of the program, or the service at work. -/
theorem Exchange.writes_of_storeEvent? {exchange : Exchange} {event : StoreEvent}
    (means : exchange.storeEvent? = some event) (writes : event.Writes) :
    exchange.1.Writes ∨ event = .served := by
  obtain ⟨call, reply⟩ := exchange
  cases call with
  | put | delete | completeUpload => exact .inl trivial
  | submit | status =>
    cases means
    exact .inr rfl
  | head path => exact absurd writes (Upload.not_writes_head means)
  | openUpload | endPart | abortUpload => cases reply <;> cases means <;> exact writes.elim
  | beginPart =>
    cases means
    exact writes.elim
  | _ => exact nomatch means

namespace StoreState

/-- What an exchange does to a store while the service leaves the object under a path alone. -/
def Spares (path : ObjectPath) (exchange : Exchange) (s s' : StoreState) : Prop :=
  Step exchange s s' ∧ (exchange.storeEvent? = some .served → s'.objects path = s.objects path)

/-- What a trace does to a store while the service leaves the object under a path alone. -/
abbrev FollowsSparing (path : ObjectPath) (before : StoreState) (trace : Trace)
    (after : StoreState) : Prop :=
  Trace.Through (Spares path) before trace after

variable {path : ObjectPath} {before after start : StoreState} {trace : Trace}

/-- What a trace does is done part by part. -/
theorem followsSparing_append_iff {front back : Trace} :
    FollowsSparing path before (front ++ back) after ↔
      ∃ middle, FollowsSparing path before front middle ∧ FollowsSparing path middle back after :=
  Trace.through_append_iff

/-- A service that spares an object is one of those that may do anything. -/
theorem FollowsSparing.follows (follows : FollowsSparing path before trace after) :
    Follows before trace after :=
  follows.mono fun _ _ _ => And.left

/-- The object stays what it is while nothing is written. -/
theorem FollowsSparing.object_eq (follows : FollowsSparing path before trace after)
    (quiet : ∀ exchange ∈ trace, ¬ exchange.1.Writes) : after.objects path = before.objects path := by
  refine follows.unchanged (fun state => state.objects path) fun exchange mem s s' taken => ?_
  obtain ⟨step, spared⟩ := taken
  cases event : exchange.storeEvent? with
  | none => rw [(step_iff_eq event).mp step]
  | some happened =>
    by_cases writes : happened.Writes
    · obtain written | rfl := Exchange.writes_of_storeEvent? event writes
      · exact absurd written (quiet exchange mem)
      · exact spared event
    · rw [((step_iff event).mp step).objects_eq writes]

/-- The object under a path is the one that was there at the start, unless one was uploaded under a
key with this path. Then there was none at the start, and now there is. -/
def Adds (uploaded : List String) (path : ObjectPath) (start after : StoreState) : Prop :=
  (∃ key ∈ uploaded, ObjectPath.parse key = .ok path ∧ start.objects path = none ∧
    ∃ data, after.objects path = some data) ∨
  (∀ key ∈ uploaded, ObjectPath.parse key ≠ .ok path) ∧ after.objects path = start.objects path

/-- What leaves the object as it is adds nothing. -/
theorem Adds.keep {uploaded : List String} (adds : Adds uploaded path start before)
    (same : after.objects path = before.objects path) : Adds uploaded path start after := by
  rw [Adds, same]
  exact adds

/-- A successful upload adds its object. -/
theorem Adds.upload {uploaded : List String} {key : String} {sent : Nat}
    (adds : Adds uploaded path start before) (source : UploadSource)
    (run : Run (source.upload key) trace (.ok sent))
    (follows : FollowsSparing path before trace after) : Adds (uploaded ++ [key]) path start after := by
  obtain ⟨place, parsed, absent, _, objects_eq, _⟩ := source.run_upload_ok run follows.follows
  by_cases here : path = place
  · subst here
    have present : after.objects path = some (source.produced trace) := by
      rw [objects_eq, Function.update_self]
    rcases adds with ⟨_, _, _, _, data, staged⟩ | ⟨_, kept⟩
    · exact nomatch staged.symm.trans absent
    · exact .inl ⟨key, by simp, parsed, kept.symm.trans absent, _, present⟩
  · have same : after.objects path = before.objects path := by
      rw [objects_eq, Function.update_of_ne here]
    rcases adds.keep same with ⟨other, mem, added⟩ | ⟨others, kept⟩
    · exact .inl ⟨other, List.mem_append_left _ mem, added⟩
    · refine .inr ⟨List.forall_mem_append.mpr ⟨others, List.forall_mem_singleton.mpr ?_⟩, kept⟩
      intro parsed'
      exact here (Except.ok.inj (parsed'.symm.trans parsed))

/-- A failed upload adds nothing. -/
theorem Adds.upload_error {uploaded : List String} {key : String} {failure : Failure}
    (adds : Adds uploaded path start before) (source : UploadSource)
    (run : Run (source.upload key) trace (.error failure))
    (follows : FollowsSparing path before trace after) : Adds uploaded path start after := by
  refine adds.keep ?_
  cases parsed : ObjectPath.parse key with
  | error error =>
    rw [UploadSource.upload_eq] at run
    obtain ⟨rfl, _⟩ := Upload.run_whole_of_error parsed run
    obtain rfl : after = before := follows
    rfl
  | ok place => rw [(source.sendsOrNot_upload run parsed follows.follows).1]

end StoreState

namespace Build

variable {area : StagingArea} {settings : BuildSettings} {request : BuildRequest} {trace : Trace}
  {path : ObjectPath} {start after : StoreState}

/-! ### What an attempt leaves -/

/-- Idle calls write nothing. -/
theorem Idle.not_writes (idle : trace.Idle) : ∀ exchange ∈ trace, ¬ exchange.1.Writes := by
  intro exchange mem writes
  have quiet := idle exchange mem
  obtain ⟨call, reply⟩ := exchange
  cases call <;> first | exact writes.elim | exact quiet.elim

/-- When the keys are made, nothing was added. -/
theorem Reaches.adds_named {keys : StagedKeys}
    (reaches : Reaches area settings request trace (.named keys))
    (follows : FollowsSparing path start trace after) : Adds [] path start after := by
  cases reaches with
  | named right idle =>
    refine .inr ⟨List.forall_mem_nil _, follows.object_eq (List.forall_mem_append.mpr ⟨?_, ?_⟩)⟩
    · exact Idle.not_writes idle
    · exact List.forall_mem_singleton.mpr id

/-- The first blob to be added are the vectors. -/
theorem Reaches.adds_vectorsStaged {keys : StagedKeys} {vectorBytes : Nat}
    (reaches : Reaches area settings request trace (.vectorsStaged keys vectorBytes))
    (follows : FollowsSparing path start trace after) : Adds [keys.vectorKey] path start after := by
  cases reaches with
  | vectorsStaged earlier run =>
    obtain ⟨middle, naming, uploading⟩ := followsSparing_append_iff.mp follows
    exact (earlier.adds_named naming).upload (vectorSource area request) run uploading

/-- Reading the ids adds nothing. -/
theorem Reaches.adds_docIdsRead {keys : StagedKeys} {vectorBytes : Nat} {docIds : Bytes}
    (reaches : Reaches area settings request trace (.docIdsRead keys vectorBytes docIds))
    (follows : FollowsSparing path start trace after) : Adds [keys.vectorKey] path start after := by
  cases reaches with
  | docIdsRead earlier =>
    obtain ⟨middle, staging, reading⟩ := followsSparing_append_iff.mp follows
    exact (earlier.adds_vectorsStaged staging).keep
      (reading.object_eq (List.forall_mem_singleton.mpr id))

/-- The second one are the ids. -/
theorem Reaches.adds_staged {blobs : StagedBlobs}
    (reaches : Reaches area settings request trace (.staged blobs))
    (follows : FollowsSparing path start trace after) :
    Adds [blobs.vectorKey, blobs.docIdKey] path start after := by
  cases reaches with
  | @staged before trace keys vectorBytes docIdBytes docIds duration stagedAt earlier run =>
    obtain ⟨middle, reading, uploading⟩ := followsSparing_append_iff.mp follows
    exact (earlier.adds_docIdsRead reading).upload (.bytes docIds) run uploading

/-- **The blobs that an attempt leaves are all that it changed.** -/
theorem Leaves.adds {uploaded : List String} (leaves : Leaves area settings request trace uploaded)
    (follows : FollowsSparing path start trace after) : Adds uploaded path start after := by
  cases leaves with
  | unnamed idle => exact .inr ⟨List.forall_mem_nil _, follows.object_eq (Idle.not_writes idle)⟩
  | vectors earlier run =>
    obtain ⟨middle, naming, uploading⟩ := followsSparing_append_iff.mp follows
    exact (earlier.adds_named naming).upload_error (vectorSource area request) run uploading
  | docIds earlier =>
    obtain ⟨middle, staging, reading⟩ := followsSparing_append_iff.mp follows
    exact (earlier.adds_vectorsStaged staging).keep
      (reading.object_eq (List.forall_mem_singleton.mpr id))
  | @docIdBlob _ _ _ _ docIds _ earlier run =>
    obtain ⟨middle, reading, uploading⟩ := followsSparing_append_iff.mp follows
    exact (earlier.adds_docIdsRead reading).upload_error (.bytes docIds) run uploading
  | staged earlier quiet =>
    obtain ⟨middle, staging, later⟩ := followsSparing_append_iff.mp follows
    exact (earlier.adds_staged staging).keep (later.object_eq quiet)

/-! ### The cleanup -/

/-- The paths of keys that have one, in their order. -/
def pathsOf (keys : List String) : List ObjectPath :=
  keys.filterMap fun key => (ObjectPath.parse key).toOption

/-- The path of the first key comes first, if it has one. -/
theorem pathsOf_cons (key : String) (keys : List String) :
    pathsOf (key :: keys) = pathsOf [key] ++ pathsOf keys :=
  List.filterMap_append (l := [key])

/-- A delete takes one call, if the key has a path. -/
theorem run_delete_iff {key : String} :
    (∃ outcome, Run (BlobStore.delete key) trace outcome) ↔
      trace.map Sigma.fst = (pathsOf [key]).map Call.delete := by
  rw [BlobStore.delete, BlobStore.pathOf, pathsOf]
  cases parsed : ObjectPath.parse key with
  | error error =>
    constructor
    · rintro ⟨outcome, run⟩
      obtain ⟨rfl, _⟩ := run_ofExcept_bind_iff.mp run
      simp [parsed, Except.toOption]
    · intro calls
      obtain rfl : trace = [] := by simpa [parsed, Except.toOption] using calls
      exact ⟨_, run_ofExcept_bind_iff.mpr ⟨rfl, rfl⟩⟩
  | ok place =>
    constructor
    · rintro ⟨outcome, run⟩
      obtain ⟨reply, rfl, _⟩ := run_attempt_iff.mp (run_ofExcept_bind_iff.mp run)
      simp [parsed, Except.toOption]
    · intro calls
      obtain ⟨⟨call, reply⟩, rfl, rfl⟩ : ∃ exchange : Exchange, trace = [exchange] ∧
          exchange.1 = .delete place := by
        simpa [parsed, Except.toOption, List.map_eq_singleton_iff] using calls
      exact ⟨_, run_ofExcept_bind_iff.mpr (run_attempt_iff.mpr ⟨reply, rfl, rfl⟩)⟩

/-- **The cleanup deletes all blobs, in their order, whatever the store replies.** -/
theorem run_cleanUp_iff {keys : List String} :
    Dialogue.Run (cleanUp keys) trace () ↔ trace.map Sigma.fst = (pathsOf keys).map Call.delete := by
  induction keys generalizing trace with
  | nil =>
    constructor
    · intro run
      obtain ⟨rfl, _⟩ := Dialogue.run_done_iff.mp run
      rfl
    · intro calls
      obtain rfl : trace = [] := List.map_eq_nil_iff.mp calls
      exact .done ()
  | cons key keys ih =>
    rw [cleanUp, Dialogue.run_bind_iff, pathsOf_cons, List.map_append]
    constructor
    · rintro ⟨outcome, front, back, rfl, deleting, later⟩
      rw [List.map_append, run_delete_iff.mp ⟨outcome, deleting⟩, ih.mp later]
    · intro calls
      obtain ⟨front, back, rfl, front_calls, back_calls⟩ := List.map_eq_append_iff.mp calls
      obtain ⟨outcome, deleting⟩ := run_delete_iff.mpr front_calls
      exact ⟨outcome, front, back, rfl, deleting, ih.mpr back_calls⟩

/-! ### What comes before and after -/

/-- What a build does after the cleanup. -/
def conclude (request : BuildRequest) :
    Except (Stage × Failure) BuildReport → Program (Except Failure BuildOutcome)
  | .ok report => do
    (Call.count (.outcome .installed)).ask
    return .ok (.remote report)
  | .error (stage, failure) => do
    (Call.count (.fallback stage failure.label)).ask
    (Call.count (.outcome .fallback)).ask
    (locally request (some stage)).run

/-- A build that is worth it attempts a remote one, cleans up if it is to, and concludes. -/
theorem run_execute_iff (eligible : settings.ineligible? request.shape = none)
    {outcome : Except Failure BuildOutcome} :
    Run (execute area settings request) trace outcome ↔
      ∃ attempted remote cleanup rest, trace = remote ++ (cleanup ++ rest) ∧
        Dialogue.Run (attempt area settings request) remote attempted ∧
        Dialogue.Run (cleanUp (if settings.cleanup then attempted.uploaded else [])) cleanup () ∧
        Dialogue.Run (conclude request attempted.result) rest outcome := by
  have program_eq : (execute area settings request).run =
      attempt area settings request >>= fun attempted =>
        cleanUp (if settings.cleanup then attempted.uploaded else []) >>= fun _ =>
          conclude request attempted.result := by
    rw [execute, if_neg (by simp [eligible])]
    refine bind_congr fun attempted => ?_
    cases settings.cleanup <;> cases attempted.result <;> rfl
  rw [Run, program_eq, Dialogue.run_bind_iff]
  constructor
  · rintro ⟨attempted, remote, later, rfl, attempts, run⟩
    obtain ⟨_, cleanup, rest, rfl, cleans, concludes⟩ := Dialogue.run_bind_iff.mp run
    exact ⟨attempted, remote, cleanup, rest, rfl, attempts, cleans, concludes⟩
  · rintro ⟨attempted, remote, cleanup, rest, rfl, attempts, cleans, concludes⟩
    exact ⟨attempted, remote, cleanup ++ rest, rfl, attempts,
      Dialogue.run_bind_iff.mpr ⟨(), cleanup, rest, rfl, cleans, concludes⟩⟩

/-- A stage makes the calls of its program, and idle ones; then what follows makes its own. -/
theorem within_inStage_bind {α β : Type} {P : Call → Prop} {stage : Stage}
    {program : Program (Except Failure α)}
    {next : α × Nat → ExceptT (Stage × Failure) (Dialogue Call.Reply) β}
    (idle : ∀ call : Call, call.IsIdle → P call) (first : program.Within P)
    (second : ∀ value, (next value).run.Within P) :
    (ExceptT.mk (inStage stage program) >>= next).run.Within P := by
  have staged : (inStage stage program).Within P := by
    refine Dialogue.within_bind ⟨idle _ trivial, fun _ => trivial⟩ fun started => ?_
    refine Dialogue.within_bind first fun outcome => ?_
    cases outcome with
    | error failure => trivial
    | ok value => exact ⟨idle _ trivial, fun finished => ⟨idle _ trivial, fun _ => trivial⟩⟩
  refine Dialogue.within_bind staged fun ended => ?_
  cases ended with
  | error failed => trivial
  | ok value => exact second value

/-- A download writes nothing. -/
theorem within_object (options : TransferOptions) (key : String) :
    Within (fun call => ¬ call.Writes) (Download.object options key) := by
  have fetches (call : Call) (h : call.Fetches key) : ¬ call.Writes := by
    cases call <;> first | exact id | exact h.elim
  have sinks (call : Call) (h : call.Sinks) : ¬ call.Writes := by
    cases call <;> first | exact id | exact h.elim
  refine within_bind ((BlobStore.within_head key).mono fetches) fun size => ?_
  refine BlobStore.within_pathOf_bind fun place parsed => within_bind (within_attempt id) fun _ => ?_
  refine within_bind ((Download.within_fetchAll parsed _ _ _).mono fetches) fun chunks => ?_
  refine within_bind ((Download.within_writeInOrder _ _).mono sinks) fun written => ?_
  exact within_bind (within_attempt id) fun _ => within_bind (within_attempt id) fun _ =>
    within_pure written

/-- What follows the staging writes nothing. -/
theorem within_finish (blobs : StagedBlobs) (stagingTime : Nat) :
    (finish area settings request blobs stagingTime).run.Within fun call => ¬ call.Writes := by
  have idle (call : Call) (h : call.IsIdle) : ¬ call.Writes := by
    cases call <;> first | exact id | exact h.elim
  refine within_inStage_bind idle ⟨id, fun reply => trivial⟩ fun submitted => ?_
  refine within_inStage_bind idle ?_ fun completed => ?_
  · refine (Poll.within_awaitCompletion settings).mono fun call h => ?_
    cases call <;> first | exact id | exact h.elim
  refine within_inStage_bind idle ?_ fun downloaded => trivial
  change Within (fun call => ¬ call.Writes) (fetchGraph area completed.1)
  unfold fetchGraph
  split
  · exact within_throw _
  · exact within_object _ _

/-- **An attempt says which blobs it leaves**: those whose upload succeeded. -/
theorem run_attempt_leaves {attempted : Attempt}
    (run : Dialogue.Run (attempt area settings request) trace attempted) :
    Leaves area settings request trace attempted.uploaded := by
  obtain ⟨begun, staging, staged, rest, rfl, stages, uploaded_eq, ended⟩ := run_attempt_cases run
  rw [uploaded_eq]
  have beginning : Trace.Idle [⟨.now, begun⟩] := by simp [Trace.Idle, Call.IsIdle]
  rcases run_stageCorpus beginning stages with ⟨blobs, front, finished, same, uploaded, rfl, reached⟩ |
    ⟨failure, same, _, leaves⟩
  all_goals rcases ended with ⟨_, same', rfl, _⟩ | ⟨_, ended, finishing, same', rfl, finishes⟩
  · cases same.symm.trans same'
  · have quiet := finishes.forall_within (within_finish _ _)
    let pause : Trace := [⟨.now, finished⟩, ⟨.now, ended⟩,
      ⟨.count (.stageTime .staging (ended - begun)), ()⟩]
    have quiet' : ∀ exchange ∈ pause ++ finishing, ¬ exchange.1.Writes :=
      List.forall_mem_append.mpr ⟨by simp [pause, Call.Writes], quiet⟩
    rw [uploaded]
    simpa [pause] using Leaves.staged reached quiet'
  · simpa using leaves
  · cases same.symm.trans same'

/-- After the cleanup nothing is written. -/
theorem within_conclude (result : Except (Stage × Failure) BuildReport) :
    (conclude request result).Within fun call => ¬ call.Writes := by
  rcases result with ⟨stage, failure⟩ | report
  · exact ⟨id, fun _ => ⟨id, fun _ => ⟨id, fun _ => trivial⟩⟩⟩
  · exact ⟨id, fun _ => trivial⟩

/-! ### Whole builds -/

/-- Every key under which a blob was uploaded has a path.

**Proof sketch.** An upload under a key without a path fails at once (`Upload.run_whole_of_error`), so
that no key is kept for it. -/
theorem Leaves.exists_path {uploaded : List String}
    (leaves : Leaves area settings request trace uploaded) :
    ∀ key ∈ uploaded, ∃ place, ObjectPath.parse key = .ok place := by
  have of_upload {key : String} {trace : Trace} {sent : Nat} (source : UploadSource)
      (run : Run (source.upload key) trace (.ok sent)) : ∃ place, ObjectPath.parse key = .ok place := by
    cases parsed : ObjectPath.parse key with
    | error error =>
      rw [UploadSource.upload_eq] at run
      exact nomatch (Upload.run_whole_of_error parsed run).2
    | ok place => exact ⟨place, rfl⟩
  have of_vectorsStaged {trace : Trace} {keys : StagedKeys} {vectorBytes : Nat}
      (reaches : Reaches area settings request trace (.vectorsStaged keys vectorBytes)) :
      ∃ place, ObjectPath.parse keys.vectorKey = .ok place := by
    cases reaches with
    | vectorsStaged earlier run => exact of_upload (vectorSource area request) run
  cases leaves with
  | unnamed | vectors => exact List.forall_mem_nil _
  | docIds earlier => exact List.forall_mem_singleton.mpr (of_vectorsStaged earlier)
  | docIdBlob earlier run =>
    cases earlier with
    | docIdsRead earlier => exact List.forall_mem_singleton.mpr (of_vectorsStaged earlier)
  | staged earlier quiet =>
    cases earlier with
    | @staged _ _ _ _ _ docIds _ _ earlier run =>
      cases earlier with
      | docIdsRead earlier =>
        exact List.forall_mem_cons.mpr ⟨of_vectorsStaged earlier,
          List.forall_mem_singleton.mpr (of_upload (.bytes docIds) run)⟩

/-- The paths of keys that all have one stand for the keys. -/
theorem forall₂_pathsOf {keys : List String}
    (have_paths : ∀ key ∈ keys, ∃ place, ObjectPath.parse key = .ok place) :
    List.Forall₂ (fun key place => ObjectPath.parse key = .ok place) keys (pathsOf keys) := by
  induction keys with
  | nil => exact .nil
  | cons key keys ih =>
    obtain ⟨⟨place, parsed⟩, others⟩ := List.forall_mem_cons.mp have_paths
    have first : pathsOf (key :: keys) = place :: pathsOf keys := by
      simp [pathsOf, parsed, Except.toOption]
    rw [first]
    exact .cons parsed (ih others)

/-- The paths of keys are those that one of them has. -/
theorem mem_pathsOf_iff {keys : List String} :
    path ∈ pathsOf keys ↔ ∃ key ∈ keys, ObjectPath.parse key = .ok path := by
  refine List.mem_filterMap.trans ⟨?_, ?_⟩
  · rintro ⟨key, mem, found⟩
    refine ⟨key, mem, ?_⟩
    cases parsed : ObjectPath.parse key with
    | error error => simp [parsed, Except.toOption] at found
    | ok place => simpa [parsed, Except.toOption] using found
  · rintro ⟨key, mem, parsed⟩
    exact ⟨key, mem, by simp [parsed, Except.toOption]⟩

/-- No two of the blobs lie under one path. -/
theorem Leaves.nodup_pathsOf {uploaded : List String}
    (leaves : Leaves area settings request trace uploaded) : (pathsOf uploaded).Nodup := by
  have of_one (key : String) : (pathsOf [key]).Nodup := by
    cases parsed : ObjectPath.parse key <;> simp [pathsOf, parsed, Except.toOption]
  cases leaves with
  | unnamed | vectors => exact List.nodup_nil
  | docIds | docIdBlob => exact of_one _
  | staged earlier quiet =>
    cases earlier with
    | @staged _ _ keys _ _ _ _ _ earlier run =>
      cases earlier with
      | docIdsRead earlier =>
        cases earlier with
        | vectorsStaged earlier run =>
          obtain ⟨name, _, keys_eq⟩ := earlier.exists_name
          refine pathsOf_cons .. ▸ List.nodup_append.mpr ⟨of_one _, of_one _, ?_⟩
          intro path among path' among'
          obtain ⟨_, mem, parsed⟩ := mem_pathsOf_iff.mp among
          obtain ⟨_, mem', parsed'⟩ := mem_pathsOf_iff.mp among'
          rw [List.mem_singleton.mp mem, keys_eq] at parsed
          rw [List.mem_singleton.mp mem', keys_eq] at parsed'
          exact StagedKeys.paths_ne parsed parsed'

/-- Deletes that succeed delete the objects that they are for, and no others. -/
theorem object_eq_of_deletes {paths : List ObjectPath} {cleanup : Trace}
    (calls : cleanup.map Sigma.fst = paths.map Call.delete)
    (work : ∀ place reply, ⟨.delete place, reply⟩ ∈ cleanup → reply = .ok ())
    (follows : FollowsSparing path start cleanup after) :
    after.objects path = if path ∈ paths then none else start.objects path := by
  induction paths generalizing cleanup start with
  | nil =>
    obtain rfl : cleanup = [] := List.map_eq_nil_iff.mp calls
    obtain rfl : after = start := follows
    rfl
  | cons place paths ih =>
    obtain ⟨⟨call, reply⟩, rest, rfl, rfl, rest_calls⟩ := List.map_eq_cons_iff.mp calls
    obtain rfl := work place reply List.mem_cons_self
    obtain ⟨middle, ⟨deleted, _⟩, later⟩ := follows
    have effect : Effect start middle (.replaced place none) := (step_iff rfl).mp deleted
    obtain rfl : middle = start.set place none := effect
    rw [ih rest_calls (fun other reply mem => work other reply (List.mem_cons_of_mem _ mem)) later,
      set_objects_apply]
    by_cases among : path ∈ paths
    · simp [among]
    · simp [among]

/-- What the cleanup of a build does, and what it leaves. The build is its remote part, the cleanup
and the rest. -/
structure CleansUp (area : StagingArea) (settings : BuildSettings) (request : BuildRequest)
    (remote cleanup rest : Trace) (uploaded : List String) (paths : List ObjectPath)
    (outcome : Except Failure BuildOutcome) : Prop where
  /-- The keys are those whose upload succeeded, as far as the attempt came. -/
  leaves : Leaves area settings request remote uploaded
  /-- They have paths. -/
  parsed : List.Forall₂ (fun key path => ObjectPath.parse key = .ok path) uploaded paths
  /-- No two of them are the same. -/
  distinct : paths.Nodup
  /-- The blobs are deleted in the order of their uploads, each of them once, if there is to be a
  cleanup. -/
  deletes : cleanup.map Sigma.fst = if settings.cleanup then paths.map Call.delete else []
  /-- Nothing else is deleted at any time. -/
  elsewhere : ∀ exchange ∈ remote ++ rest, ∀ path, exchange.1 ≠ .delete path
  /-- Whatever the deletes come to, the same ones are made, the build ends in the same way, and the
  sink gets the same. -/
  regardless : ∀ cleanup' : Trace, cleanup'.map Sigma.fst = cleanup.map Sigma.fst →
    Run (execute area settings request) (remote ++ (cleanup' ++ rest)) outcome ∧
      Trace.sunk (remote ++ (cleanup' ++ rest)) = Trace.sunk (remote ++ (cleanup ++ rest))
  /-- If all deletes succeed, the store has what it had, but for what the service wrote. -/
  restored : settings.cleanup = true →
    (∀ path reply, ⟨.delete path, reply⟩ ∈ cleanup → reply = .ok ()) → ∀ path start after,
      FollowsSparing path start (remote ++ (cleanup ++ rest)) after →
        after.objects path = start.objects path
  /-- Without a cleanup it also has the blobs that were uploaded, where it had nothing. -/
  kept : settings.cleanup = false → ∀ path start after,
    FollowsSparing path start (remote ++ (cleanup ++ rest)) after → Adds uploaded path start after

/-- Deletes sink nothing. -/
theorem sunk_eq_nil_of_deletes {paths : List ObjectPath} {cleanup : Trace}
    (calls : cleanup.map Sigma.fst = paths.map Call.delete) : cleanup.sunk = [] := by
  refine Trace.sunk_eq_nil fun exchange mem is_sink => ?_
  have made : exchange.1 ∈ cleanup.map Sigma.fst := List.mem_map_of_mem mem
  rw [calls] at made
  obtain ⟨place, _, is_delete⟩ := List.mem_map.mp made
  simp [← is_delete, Call.phase] at is_sink

/-- Deleting the blobs that an attempt leaves undoes all that it changed. -/
theorem Leaves.object_eq_of_deletes {uploaded : List String} {cleanup : Trace}
    (leaves : Leaves area settings request trace uploaded)
    (calls : cleanup.map Sigma.fst = (pathsOf uploaded).map Call.delete)
    (work : ∀ place reply, ⟨.delete place, reply⟩ ∈ cleanup → reply = .ok ())
    (follows : FollowsSparing path start (trace ++ cleanup) after) :
    after.objects path = start.objects path := by
  obtain ⟨staged, attempting, cleaning⟩ := followsSparing_append_iff.mp follows
  rw [Build.object_eq_of_deletes calls work cleaning]
  rcases leaves.adds attempting with ⟨key, mem, parsed, absent, _⟩ | ⟨others, kept⟩
  · rw [if_pos (mem_pathsOf_iff.mpr ⟨key, mem, parsed⟩), absent]
  · have not_among : path ∉ pathsOf uploaded := fun among => by
      obtain ⟨key, mem, parsed⟩ := mem_pathsOf_iff.mp among
      exact others key mem parsed
    rw [if_neg not_among, kept]

/-- A build that is not attempted remotely has nothing to clean up. -/
theorem CleansUp.of_ineligible {why : Ineligible} {outcome : Except Failure BuildOutcome}
    (run : Run (execute area settings request) trace outcome)
    (reason : settings.ineligible? request.shape = some why) :
    CleansUp area settings request [] [] trace [] [] outcome := by
  have quiet : ∀ exchange ∈ trace, ¬ exchange.1.Writes := by
    cases run_execute run with
    | ineligible => simp [Call.Writes]
    | remote eligible | fallback eligible => exact nomatch eligible.symm.trans reason
  constructor
  case leaves => exact .unnamed (List.forall_mem_nil _)
  case parsed => exact .nil
  case distinct => exact .nil
  case deletes => simp
  case elsewhere => exact fun exchange mem path is_delete => quiet exchange mem (is_delete ▸ trivial)
  case regardless =>
    intro cleanup' calls
    obtain rfl : cleanup' = [] := List.map_eq_nil_iff.mp calls
    exact ⟨run, rfl⟩
  case restored => exact fun _ _ path start after follows => follows.object_eq quiet
  case kept =>
    exact fun _ path start after follows => .inr ⟨List.forall_mem_nil _, follows.object_eq quiet⟩

/-- **Every build cleans up after itself and after nobody else.**

**Proof sketch.** An attempt remembers a key when its upload has succeeded. An upload succeeds only
where no object is, so that deleting it afterwards leaves what was there before. The replies to the
deletes are not looked at, so that others would do as well. -/
theorem execute_cleansUp {outcome : Except Failure BuildOutcome}
    (run : Run (execute area settings request) trace outcome) :
    ∃ remote cleanup rest uploaded paths, trace = remote ++ (cleanup ++ rest) ∧
      CleansUp area settings request remote cleanup rest uploaded paths outcome := by
  cases reason : settings.ineligible? request.shape with
  | some why => exact ⟨[], [], trace, [], [], rfl, .of_ineligible run reason⟩
  | none =>
    obtain ⟨attempted, remote, cleanup, rest, rfl, attempts, cleans, concludes⟩ :=
      (run_execute_iff reason).mp run
    have leaves := run_attempt_leaves attempts
    have quiet := concludes.forall_within (within_conclude attempted.result)
    have calls := run_cleanUp_iff.mp cleans
    have upTo : UpTo 4 remote := by
      rcases run_attempt attempts with ⟨_, _, _, _, delivered⟩ | ⟨_, _, _, fails⟩
      · exact delivered.upTo
      · exact fails.upTo
    refine ⟨remote, cleanup, rest, attempted.uploaded, pathsOf attempted.uploaded, rfl, ?_⟩
    constructor
    case leaves => exact leaves
    case parsed => exact forall₂_pathsOf leaves.exists_path
    case distinct => exact leaves.nodup_pathsOf
    case deletes =>
      rw [calls]
      cases settings.cleanup <;> rfl
    case elsewhere =>
      refine List.forall_mem_append.mpr ⟨fun exchange mem place is_delete => ?_, ?_⟩
      · have := upTo exchange mem
        simp [is_delete, Call.phase] at this
      · exact fun exchange mem place is_delete => quiet exchange mem (is_delete ▸ trivial)
    case regardless =>
      -- a run looks at no reply to a delete, so that any others make a run as well
      intro cleanup' calls'
      refine ⟨(run_execute_iff reason).mpr ⟨attempted, remote, cleanup', rest, rfl, attempts,
        run_cleanUp_iff.mpr (calls'.trans calls), concludes⟩, ?_⟩
      simp only [Trace.sunk_append, sunk_eq_nil_of_deletes (calls'.trans calls),
        sunk_eq_nil_of_deletes calls]
    case restored =>
      intro on work path start after follows
      rw [if_pos on] at calls
      rw [← List.append_assoc] at follows
      obtain ⟨cleaned, cleaning, concluding⟩ := followsSparing_append_iff.mp follows
      rw [concluding.object_eq quiet, leaves.object_eq_of_deletes calls work cleaning]
    case kept =>
      intro off path start after follows
      obtain ⟨staged, attempting, later⟩ := followsSparing_append_iff.mp follows
      have none_deleted : cleanup = [] := by simpa [off, pathsOf] using calls
      subst none_deleted
      exact (leaves.adds attempting).keep (later.object_eq quiet)

/-- The build of a small graph deletes what it staged. -/
theorem execute_cleansUp_small_graph :
    ∃ remote cleanup rest uploaded paths outcome,
      CleansUp World.smallArea World.smallSettings World.smallRequest remote cleanup rest uploaded paths
        outcome ∧ ∃ path reply, ⟨.delete path, reply⟩ ∈ cleanup := by
  let program := (execute World.smallArea World.smallSettings World.smallRequest).run
  have deleted : ∃ exchange ∈ program.transcript World.answer (World.small []),
      exchange.1.isDelete = true := by
    decide +kernel
  obtain ⟨⟨call, reply⟩, mem, is_delete⟩ := deleted
  have run := Dialogue.run_transcript World.answer program (World.small [])
  obtain ⟨remote, cleanup, rest, uploaded, paths, split, cleans⟩ := execute_cleansUp run
  refine ⟨remote, cleanup, rest, uploaded, paths, _, cleans, ?_⟩
  cases call with
  | delete path =>
    rw [split, List.mem_append, List.mem_append] at mem
    rcases mem with mem | mem | mem
    · exact absurd rfl (cleans.elsewhere _ (List.mem_append_left _ mem) path)
    · exact ⟨path, reply, mem⟩
    · exact absurd rfl (cleans.elsewhere _ (List.mem_append_right _ mem) path)
  | _ => cases is_delete

end Build

end GraphOffload
