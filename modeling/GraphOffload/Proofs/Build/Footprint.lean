import GraphOffload.Proofs.Build.Cleanup
import GraphOffload.Proofs.Build.Protocol
import GraphOffload.Proofs.Runs.Sharing

/-!
# The footprint of a build

A build stores and deletes objects under the keys of its own name only, and it reads no others, but
for the graph that the service reported.

## Main definitions

* `GraphOffload.Build.stagedPaths` : the paths of the keys that a build made.
* `GraphOffload.Trace.graphPaths` : the paths of the graphs that were reported.
* `GraphOffload.Call.StaysOn` : a call is on such paths.

## Main results

* `GraphOffload.Build.execute_staysOn` : so are all calls of a build.
* `GraphOffload.Build.disjoint_stagedPaths` : builds with different names stage under different paths.
-/

namespace GraphOffload

open Attempting

/-! ### Calls -/

namespace Call

/-- The call is on the blobs of an attempt or, if it only reads, on its graph. -/
def StaysOn (staged graphs : Set ObjectPath) : Call → Prop
  | .head path => path ∈ staged ∪ graphs
  | .put path _ | .delete path | .openUpload path => path ∈ staged
  | .beginRange path _ _ | .endRange path _ _ => path ∈ graphs
  | .get _ | .list _ => False
  | _ => True

variable {staged graphs : Set ObjectPath} {call : Call} {key : String}

/-- Idle calls have nothing to do with the store. -/
theorem IsIdle.staysOn (h : call.IsIdle) : call.StaysOn staged graphs := by
  cases call <;> first | exact trivial | exact h.elim

/-- An upload stays on the blob that it uploads. -/
theorem Uploads.staysOn (h : call.Uploads key)
    (here : ∀ path, ObjectPath.parse key = .ok path → path ∈ staged) : call.StaysOn staged graphs := by
  cases call with
  | head path => exact .inl (here path h)
  | put path | openUpload path => exact here path h
  | _ => first | exact trivial | exact h.elim

/-- Waiting for a job has nothing to do with the store. -/
theorem Polls.staysOn {jobId : String} (h : call.Polls jobId) : call.StaysOn staged graphs := by
  cases call <;> first | exact trivial | exact h.elim

/-- A download stays on the graph, and only reads it. -/
theorem Downloads.staysOn (h : call.Downloads key)
    (here : ∀ path, ObjectPath.parse key = .ok path → path ∈ graphs) : call.StaysOn staged graphs := by
  rcases h with fetches | sinks
  · cases call with
    | head path => exact .inr (here path fetches)
    | beginRange path | endRange path => exact here path fetches
    | _ => first | exact trivial | exact fetches.elim
  · cases call <;> first | exact trivial | exact sinks.elim

variable {target : Option ObjectPath}

/-- What such a call touches lies there, if the open upload does. -/
theorem StaysOn.touched_subset (h : call.StaysOn staged graphs)
    (opened : ∀ path, target = some path → path ∈ staged) : call.touched target ⊆ staged ∪ graphs := by
  intro path on
  cases call with
  | head other =>
    obtain rfl : path = other := on
    exact h
  | put other | delete other | openUpload other =>
    obtain rfl : path = other := on
    exact .inl h
  | beginRange other | endRange other =>
    obtain rfl : path = other := on
    exact .inr h
  | beginPart | endPart | completeUpload | abortUpload => exact .inl (opened path on)
  | _ => first | exact h.elim | exact on.elim

/-- What it changes is a blob of the attempt. -/
theorem StaysOn.touched_subset_of_writes (h : call.StaysOn staged graphs)
    (opened : ∀ path, target = some path → path ∈ staged) (writes : call.Writes) :
    call.touched target ⊆ staged := by
  intro path on
  cases call with
  | put other | delete other =>
    obtain rfl : path = other := on
    exact h
  | completeUpload => exact opened path on
  | _ => exact writes.elim

end Call

/-- The paths of the graphs that were reported in a trace. -/
def Trace.graphPaths (trace : Trace) : Set ObjectPath :=
  {path | ∃ jobId location, trace.Completes jobId location ∧
    ObjectPath.parse location.graphKey = .ok path}

/-- What was reported stays reported. -/
theorem Trace.graphPaths_mono {front trace : Trace} (inside : front ⊆ trace) :
    front.graphPaths ⊆ trace.graphPaths := by
  rintro path ⟨jobId, location, ⟨deadline, reply, mem, said⟩, parsed⟩
  exact ⟨jobId, location, ⟨deadline, reply, inside mem, said⟩, parsed⟩

namespace Build

variable {area : StagingArea} {settings : BuildSettings} {request : BuildRequest} {trace : Trace}
  {staged graphs : Set ObjectPath}

/-- The paths of the keys that a build made. -/
def stagedPaths (settings : BuildSettings) (request : BuildRequest) (trace : Trace) :
    Set ObjectPath :=
  {path | IsStagedPath settings request trace path}

/-- Keys stay made. -/
theorem stagedPaths_mono {front : Trace} (inside : front ⊆ trace) :
    stagedPaths settings request front ⊆ stagedPaths settings request trace := by
  rintro path ⟨name, mem, parsed⟩
  exact ⟨name, List.filterMap_subset _ inside mem, parsed⟩

/-- A key that a build made has its path among them. -/
theorem Reaches.mem_stagedPaths {keys : StagedKeys} {key : String} {path : ObjectPath}
    (named : Reaches area settings request trace (.named keys)) (has : keys.Has key)
    (parsed : ObjectPath.parse key = .ok path) : path ∈ stagedPaths settings request trace := by
  obtain ⟨name, mem, rfl⟩ := named.exists_name
  exact ⟨name, mem, key, has, parsed⟩

/-! ### Remote builds -/

/-- Many idle calls have nothing to do with the store. -/
theorem Idle.staysOn (idle : trace.Idle) : ∀ exchange ∈ trace, exchange.1.StaysOn staged graphs :=
  fun exchange mem => (idle exchange mem).staysOn

/-- Until it has names a build leaves the store alone. -/
theorem Reaches.staysOn_named {keys : StagedKeys}
    (named : Reaches area settings request trace (.named keys)) :
    ∀ exchange ∈ trace, exchange.1.StaysOn staged graphs := by
  cases named with
  | named right idle =>
    exact List.forall_mem_append.mpr ⟨Idle.staysOn idle, List.forall_mem_singleton.mpr trivial⟩

/-- The staging stays on the paths of the keys. -/
theorem staysOn_of_stages {rest : Trace} {keys : StagedKeys}
    (named : Reaches area settings request trace (.named keys))
    (stages : ∀ exchange ∈ rest, exchange.1.Stages keys)
    (inside : stagedPaths settings request (trace ++ rest) ⊆ staged) :
    ∀ exchange ∈ trace ++ rest, exchange.1.StaysOn staged graphs := by
  have here {key : String} (has : keys.Has key) (path : ObjectPath)
      (parsed : ObjectPath.parse key = .ok path) : path ∈ staged :=
    inside (stagedPaths_mono (List.subset_append_left _ _) (named.mem_stagedPaths has parsed))
  refine List.forall_mem_append.mpr ⟨named.staysOn_named, fun exchange mem => ?_⟩
  rcases stages exchange mem with uploads | uploads | same
  · exact uploads.staysOn (here (.inl rfl))
  · exact uploads.staysOn (here (.inr rfl))
  · rw [same]
    trivial

/-- Until its blobs are staged a build stays on them. -/
theorem Reaches.staysOn_staged {blobs : StagedBlobs}
    (reaches : Reaches area settings request trace (.staged blobs))
    (inside : stagedPaths settings request trace ⊆ staged) :
    ∀ exchange ∈ trace, exchange.1.StaysOn staged graphs := by
  obtain ⟨naming, keys, rest, rfl, named, stages, _⟩ := reaches.staging
  exact staysOn_of_stages named stages inside

/-- Until its job is submitted it does so as well. -/
theorem Reaches.staysOn_submitted {blobs : StagedBlobs} {jobId : String}
    (reaches : Reaches area settings request trace (.submitted blobs jobId))
    (inside : stagedPaths settings request trace ⊆ staged) :
    ∀ exchange ∈ trace, exchange.1.StaysOn staged graphs := by
  cases reaches with
  | submitted earlier idle =>
    have before := (stagedPaths_mono (List.subset_append_left _ _)).trans inside
    refine List.forall_mem_append.mpr ⟨earlier.staysOn_staged before, ?_⟩
    exact List.forall_mem_append.mpr ⟨Idle.staysOn idle, List.forall_mem_singleton.mpr trivial⟩

/-- And until the job is done. -/
theorem Reaches.staysOn_completed {blobs : StagedBlobs} {jobId : String} {location : GraphLocation}
    (reaches : Reaches area settings request trace (.completed blobs jobId location))
    (inside : stagedPaths settings request trace ⊆ staged) :
    ∀ exchange ∈ trace, exchange.1.StaysOn staged graphs := by
  cases reaches with
  | completed earlier idle run =>
    have before := (stagedPaths_mono (List.subset_append_left _ _)).trans inside
    refine List.forall_mem_append.mpr ⟨earlier.staysOn_submitted before, ?_⟩
    refine List.forall_mem_append.mpr ⟨Idle.staysOn idle, fun exchange mem => ?_⟩
    exact (run.forall_within (Poll.within_awaitCompletion settings) exchange mem).staysOn

/-- **A remote build stays on its blobs and its graph**, wherever it stops. -/
theorem Course.staysOn (course : Course area settings request trace)
    (inside : stagedPaths settings request trace ⊆ staged) (found : trace.graphPaths ⊆ graphs) :
    ∀ exchange ∈ trace, exchange.1.StaysOn staged graphs := by
  cases course with
  | unnamed idle => exact Idle.staysOn idle
  | unstaged named stages => exact staysOn_of_stages named stages inside
  | refused reaches idle =>
    have before := (stagedPaths_mono (List.subset_append_left _ _)).trans inside
    refine List.forall_mem_append.mpr ⟨reaches.staysOn_staged before, ?_⟩
    exact List.forall_mem_append.mpr ⟨Idle.staysOn idle, List.forall_mem_singleton.mpr trivial⟩
  | unfinished submitted polls =>
    have before := (stagedPaths_mono (List.subset_append_left _ _)).trans inside
    exact List.forall_mem_append.mpr ⟨submitted.staysOn_submitted before,
      fun exchange mem => (polls exchange mem).staysOn⟩
  | @finished first rest blobs jobId location completed downloads =>
    have before := (stagedPaths_mono (List.subset_append_left _ _)).trans inside
    obtain ⟨_, concludes⟩ := completed.orderly_completed
    have here (path : ObjectPath) (parsed : ObjectPath.parse location.graphKey = .ok path) :
        path ∈ graphs := by
      exact found (Trace.graphPaths_mono (List.subset_append_left _ _)
        ⟨jobId, location, concludes.completes, parsed⟩)
    exact List.forall_mem_append.mpr ⟨completed.staysOn_completed before,
      fun exchange mem => (downloads exchange mem).staysOn here⟩

/-! ### Whole builds -/

/-- The keys under which blobs were uploaded are those that the build made. -/
theorem Leaves.mem_stagedPaths {uploaded : List String} {key : String} {path : ObjectPath}
    (leaves : Leaves area settings request trace uploaded) (mem : key ∈ uploaded)
    (parsed : ObjectPath.parse key = .ok path) : path ∈ stagedPaths settings request trace := by
  have of_reached {front back : Trace} {milestone : Milestone} {keys : StagedKeys}
      (reaches : Reaches area settings request front milestone) (keys_eq : milestone.keys? = some keys)
      (has : keys.Has key) : path ∈ stagedPaths settings request (front ++ back) := by
    obtain ⟨naming, rest, rfl, named, _⟩ := reaches.naming keys_eq
    rw [List.append_assoc]
    exact stagedPaths_mono (List.subset_append_left _ _) (named.mem_stagedPaths has parsed)
  cases leaves with
  | unnamed | vectors => exact nomatch mem
  | docIds earlier => exact of_reached earlier rfl (.inl (List.mem_singleton.mp mem))
  | docIdBlob earlier => exact of_reached earlier rfl (.inl (List.mem_singleton.mp mem))
  | staged earlier quiet =>
    obtain ⟨naming, keys, rest, rfl, named, _, vector_eq, docId_eq, _⟩ := earlier.staging
    rw [List.append_assoc]
    refine stagedPaths_mono (List.subset_append_left _ _) (named.mem_stagedPaths ?_ parsed)
    rw [vector_eq, docId_eq] at mem
    simpa [StagedKeys.Has] using mem

/-- The cleanup stays on the paths of the keys. -/
theorem Leaves.staysOn_cleanUp {uploaded keys : List String} {cleanup : Trace}
    (leaves : Leaves area settings request trace uploaded) (among : keys ⊆ uploaded)
    (cleans : Dialogue.Run (cleanUp keys) cleanup ())
    (inside : stagedPaths settings request trace ⊆ staged) :
    ∀ exchange ∈ cleanup, exchange.1.StaysOn staged graphs := by
  intro exchange mem
  have made : exchange.1 ∈ cleanup.map Sigma.fst := List.mem_map_of_mem mem
  rw [run_cleanUp_iff.mp cleans] at made
  obtain ⟨path, of_key, is_delete⟩ := List.mem_map.mp made
  obtain ⟨key, key_mem, parsed⟩ := mem_pathsOf_iff.mp of_key
  rw [← is_delete]
  exact inside (leaves.mem_stagedPaths (among key_mem) parsed)

/-- What comes after the cleanup is on no object at all. -/
theorem within_conclude_staysOn (result : Except (Stage × Failure) BuildReport) :
    (conclude request result).Within (Call.StaysOn staged graphs) := by
  rcases result with ⟨stage, failure⟩ | report
  · exact ⟨trivial, fun _ => ⟨trivial, fun _ => ⟨trivial, fun _ => trivial⟩⟩⟩
  · exact ⟨trivial, fun _ => trivial⟩

/-- **A build stays on its blobs and its graph.**

**Proof sketch.** The remote part does, as far as it comes. The cleanup deletes what was uploaded under
the keys of the build, and what comes after it is on no object at all. -/
theorem execute_staysOn {outcome : Except Failure BuildOutcome}
    (run : Run (execute area settings request) trace outcome) :
    ∀ exchange ∈ trace,
      exchange.1.StaysOn (stagedPaths settings request trace) trace.graphPaths := by
  cases reason : settings.ineligible? request.shape with
  | some why =>
    cases run_execute run with
    | ineligible =>
      exact List.forall_mem_cons.mpr ⟨trivial, List.forall_mem_singleton.mpr trivial⟩
    | remote eligible | fallback eligible => exact nomatch eligible.symm.trans reason
  | none =>
    obtain ⟨attempted, remote, cleanup, rest, rfl, attempts, cleans, concludes⟩ :=
      (run_execute_iff reason).mp run
    have course : Course area settings request remote := by
      rcases run_attempt attempts with ⟨_, _, _, _, delivered⟩ | ⟨_, _, _, fails⟩
      · exact delivered.course
      · exact fails.course
    have early : remote ⊆ remote ++ (cleanup ++ rest) := List.subset_append_left _ _
    have inside : stagedPaths settings request remote ⊆
        stagedPaths settings request (remote ++ (cleanup ++ rest)) := stagedPaths_mono early
    have among : (if settings.cleanup then attempted.uploaded else []) ⊆ attempted.uploaded := by
      split
      · exact List.Subset.refl _
      · exact List.nil_subset _
    refine List.forall_mem_append.mpr ⟨course.staysOn inside (Trace.graphPaths_mono early), ?_⟩
    refine List.forall_mem_append.mpr ⟨?_, ?_⟩
    · exact (run_attempt_leaves attempts).staysOn_cleanUp among cleans inside
    · exact concludes.forall_within (within_conclude_staysOn attempted.result)

/-- **Builds with the same prefix and different names stage under different paths.** -/
theorem disjoint_stagedPaths {settings' : BuildSettings} {request' : BuildRequest} {trace' : Trace}
    (prefix_eq : settings.keyPrefix = settings'.keyPrefix)
    (differ : ∀ name ∈ trace.names, ∀ name' ∈ trace'.names, name ≠ name') :
    Disjoint (stagedPaths settings request trace) (stagedPaths settings' request' trace') := by
  refine Set.disjoint_left.mpr ?_
  rintro path ⟨name, mem, key, has, parsed⟩ ⟨name', mem', key', has', parsed'⟩
  rw [prefix_eq] at has
  exact differ name mem name' mem' (StagedKeys.name_eq_of_path_eq has has' parsed parsed')

end Build

end GraphOffload
