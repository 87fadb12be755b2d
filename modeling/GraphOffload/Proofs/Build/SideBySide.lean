import GraphOffload.Proofs.Build.Footprint
import GraphOffload.Proofs.Storage.SharedWorlds

/-!
# Builds side by side

Several builds run side by side on one store, under the same prefix but with different names, and in
whatever order their calls come. As long as the services keep away from each other's blobs and graphs,
none of the builds notices that it is not alone.

## Main definitions

* `GraphOffload.Neighbor` : a build that shares its store with others.
* `GraphOffload.Neighbor.Apart` : the builds have different names, and their services keep away from
  each other's objects.
* `GraphOffload.Neighbor.Undisturbed` : a build runs as it does alone.

## Main results

* `GraphOffload.Neighbor.Apart.depends`, `GraphOffload.Neighbor.Apart.spares` : no call of a build
  depends on objects of the others or changes them.
* `GraphOffload.Neighbor.execute_undisturbed` : so every build runs as it does alone.
-/

namespace GraphOffload

open Attempting Build

/-- A build that shares its store with others. -/
structure Neighbor where
  State : Type
  surroundings : Surroundings State
  area : StagingArea
  settings : BuildSettings
  request : BuildRequest
  /-- The state of the surroundings when the build begins. -/
  own : State

namespace Neighbor

section

variable (neighbor : Neighbor) (objects : ObjectMap)

/-- The build before its first call. -/
def session : Session neighbor.State (Except Failure BuildOutcome) where
  program := (execute neighbor.area neighbor.settings neighbor.request).run
  own := neighbor.own

/-- The build after so many turns alone. -/
def alone (n : Nat) : Session neighbor.State (Except Failure BuildOutcome) × ObjectMap :=
  neighbor.surroundings.alone (neighbor.session, objects) n

/-- What the build passes alone. -/
def solo : Trace := neighbor.surroundings.ahead (neighbor.session, objects)

/-- How the build ends alone. -/
def outcome : Except Failure BuildOutcome :=
  (neighbor.surroundings.ending (neighbor.session, objects)).1

/-- The paths of its blobs. -/
def staged : Set ObjectPath := stagedPaths neighbor.settings neighbor.request (neighbor.solo objects)

/-- The paths of its graph, and of whatever else its service looks at. -/
def outlook (further : Set ObjectPath) : Set ObjectPath := (neighbor.solo objects).graphPaths ∪ further

/-- All objects that the build or its service have to do with. -/
def reach (further : Set ObjectPath) : Set ObjectPath :=
  neighbor.staged objects ∪ neighbor.outlook objects further

/-- The build run alone is one of its runs. -/
theorem run_solo :
    Run (execute neighbor.area neighbor.settings neighbor.request) (neighbor.solo objects)
      (neighbor.outcome objects) :=
  Dialogue.run_transcript neighbor.surroundings.handle neighbor.session.program
    (neighbor.session.own, objects)

end

variable {ι : Type} {neighbor : ι → Neighbor} {objects : ObjectMap}
  {further : ι → Set ObjectPath}

/-- The builds have the same prefix and different names, and their services keep away from each other's
objects. -/
structure Apart (neighbor : ι → Neighbor) (objects : ObjectMap) (further : ι → Set ObjectPath) :
    Prop where
  prefix_eq : ∀ i j, (neighbor i).settings.keyPrefix = (neighbor j).settings.keyPrefix
  names_ne : ∀ i j, i ≠ j → ∀ name ∈ ((neighbor i).solo objects).names,
    ∀ name' ∈ ((neighbor j).solo objects).names, name ≠ name'
  unopened : ∀ i, (neighbor i).surroundings.target (neighbor i).own = none
  /-- No graph is reported to lie where another build stages its blobs, and there is nothing else that
  a service looks at. -/
  outlook : ∀ i j, i ≠ j →
    Disjoint ((neighbor i).outlook objects (further i)) ((neighbor j).staged objects)
  /-- A service looks at nothing but the blobs of its own build, the graph, and the further objects. -/
  looks : ∀ i n call next,
    let (session, there) := (neighbor i).alone objects n
    session.program = .ask call next → call.IsOnService →
      (neighbor i).surroundings.handle.DependsOn ((neighbor i).reach objects (further i)) call
        session.own there
  /-- It changes neither blobs nor graph of another build, nor what the service of that build looks
  at. -/
  works : ∀ i j, i ≠ j → ∀ n call next,
    let (session, there) := (neighbor i).alone objects n
    session.program = .ask call next → call.IsOnService →
      (neighbor i).surroundings.handle.Spares ((neighbor i).reach objects (further i))
        ((neighbor j).reach objects (further j)) call session.own there

namespace Apart

variable (apart : Apart neighbor objects further)
include apart

/-- Builds stage under different paths. -/
theorem disjoint_staged {i j : ι} (differ : i ≠ j) :
    Disjoint ((neighbor i).staged objects) ((neighbor j).staged objects) :=
  disjoint_stagedPaths (apart.prefix_eq i j) (apart.names_ne i j differ)

/-- A build has no upload open but one of its own blobs. -/
theorem mem_staged_of_target {i : ι} {n : Nat} {path : ObjectPath}
    (target : (neighbor i).surroundings.target ((neighbor i).alone objects n).1.own = some path) :
    path ∈ (neighbor i).staged objects := by
  rcases (neighbor i).surroundings.target_alone target with open_before | ⟨reply, mem⟩
  · exact nomatch (apart.unopened i).symm.trans open_before
  · exact execute_staysOn ((neighbor i).run_solo objects) ⟨.openUpload path, reply⟩ mem

/-- The next call of a build is on its own objects, or on the service. -/
theorem confined_or_service {i : ι} {n : Nat} {call : Call}
    {next : call.Reply → Program (Except Failure BuildOutcome)}
    (asks : ((neighbor i).alone objects n).1.program = .ask call next) :
    call.IsOnService ∨ call.IsConfined ∧
      let touched := call.touched ((neighbor i).surroundings.target ((neighbor i).alone objects n).1.own)
      touched ⊆ (neighbor i).reach objects (further i) ∧
        (call.Writes → touched ⊆ (neighbor i).staged objects) := by
  obtain ⟨reply, mem⟩ := (neighbor i).surroundings.exists_mem_of_asks asks
  have stays := execute_staysOn ((neighbor i).run_solo objects) ⟨call, reply⟩ mem
  have opened : ∀ path,
      (neighbor i).surroundings.target ((neighbor i).alone objects n).1.own = some path →
        path ∈ (neighbor i).staged objects := fun _ => apart.mem_staged_of_target
  by_cases on_service : call.IsOnService
  · exact .inl on_service
  · refine .inr ⟨?_, ?_, stays.touched_subset_of_writes opened⟩
    · cases call with
      | submit | status => exact absurd trivial on_service
      | list => exact stays.elim
      | _ => exact trivial
    · refine (stays.touched_subset opened).trans (Set.union_subset_union_right _ ?_)
      exact Set.subset_union_left

/-- **What a build is about to do depends on its own objects only.** -/
theorem depends (i : ι) (n : Nat) (call : Call)
    (next : call.Reply → Program (Except Failure BuildOutcome)) :
    let (session, there) := (neighbor i).alone objects n
    session.program = .ask call next →
      (neighbor i).surroundings.handle.DependsOn ((neighbor i).reach objects (further i)) call
        session.own there := by
  intro asks
  rcases apart.confined_or_service asks with on_service | ⟨confined, inside, _⟩
  · exact apart.looks i n call next asks on_service
  · exact ((neighbor i).surroundings.staysWithin call _ confined).dependsOn inside _

/-- **It changes no objects of the others.** -/
theorem spares (i j : ι) (differ : i ≠ j) (n : Nat) (call : Call)
    (next : call.Reply → Program (Except Failure BuildOutcome)) :
    let (session, there) := (neighbor i).alone objects n
    session.program = .ask call next →
      (neighbor i).surroundings.handle.Spares ((neighbor i).reach objects (further i))
        ((neighbor j).reach objects (further j)) call session.own there := by
  intro asks
  rcases apart.confined_or_service asks with on_service | ⟨confined, _, inside⟩
  · exact apart.works i j differ n call next asks on_service
  · refine (neighbor i).surroundings.spares_of_disjoint confined fun writes => ?_
    refine Disjoint.mono_left (inside writes) (Set.disjoint_union_right.mpr ⟨?_, ?_⟩)
    · exact apart.disjoint_staged differ
    · exact (apart.outlook j i differ.symm).symm

end Apart

/-! ### Turns -/

variable [DecidableEq ι]

/-- The builds after they took turns. -/
def afterTurns (neighbor : ι → Neighbor) (objects : ObjectMap) (turns : List ι) :
    ((i : ι) → Session (neighbor i).State (Except Failure BuildOutcome)) × ObjectMap :=
  together (fun i => (neighbor i).surroundings) (fun i => (neighbor i).session, objects) turns

/-- A build among others runs as it does alone. -/
structure Undisturbed (neighbor : ι → Neighbor) (objects : ObjectMap) (further : Set ObjectPath)
    (turns : List ι) (i : ι) : Prop where
  /-- Its blobs lie under paths of their own. -/
  distinct : ∀ j, i ≠ j → ∀ name ∈ ((neighbor i).solo objects).names,
    ∀ name' ∈ ((neighbor j).solo objects).names,
      let keys := StagedKeys.ofName (neighbor i).settings.keyPrefix name
        (neighbor i).request.field.name (neighbor i).request.buildUnit
      let keys' := StagedKeys.ofName (neighbor j).settings.keyPrefix name'
        (neighbor j).request.field.name (neighbor j).request.buildUnit
      [keys.vectorKey, keys.docIdKey, keys'.vectorKey, keys'.docIdKey].Pairwise fun key key' =>
        ∀ path, ObjectPath.parse key = .ok path → ObjectPath.parse key' ≠ .ok path
  /-- It made the same calls as it does alone in so many turns, and got the same replies. -/
  replies : ((afterTurns neighbor objects turns).1 i).trace =
    ((neighbor i).solo objects).take (turns.count i)
  /-- Its surroundings are as they are alone. -/
  own : ((afterTurns neighbor objects turns).1 i).own =
    ((neighbor i).alone objects (turns.count i)).1.own
  /-- Its blobs, its graph and what else its service looks at are as they are alone. -/
  reach : Set.EqOn (afterTurns neighbor objects turns).2.get?
    ((neighbor i).alone objects (turns.count i)).2.get? ((neighbor i).reach objects further)
  /-- When it had all its turns, it has come to the same end, and the sink got the same. -/
  ending : ((neighbor i).solo objects).length ≤ turns.count i →
    ((afterTurns neighbor objects turns).1 i).program = .done ((neighbor i).outcome objects) ∧
      ((afterTurns neighbor objects turns).1 i).trace.sunk = ((neighbor i).solo objects).sunk
  /-- None of the others deletes one of its blobs. -/
  deletes : ∀ j, i ≠ j → ∀ exchange ∈ ((afterTurns neighbor objects turns).1 j).trace,
    ∀ path ∈ (neighbor i).staged objects, exchange.1 ≠ .delete path

/-- **Builds side by side run as they do alone**, in whatever order they take turns.

**Proof sketch.** All that a build does to the store it does under the paths of its own keys, which hold
its name. So no call of it reaches what another build depends on, and neither does the service. -/
theorem execute_undisturbed (apart : Apart neighbor objects further) (turns : List ι) (i : ι) :
    Undisturbed neighbor objects (further i) turns i := by
  have as_alone (j : ι) := together_eq_alone apart.depends apart.spares turns j
  have passed (j : ι) : ((afterTurns neighbor objects turns).1 j).trace =
      ((neighbor j).solo objects).take (turns.count j) := by
    rw [afterTurns, (as_alone j).1]
    exact (neighbor j).surroundings.trace_alone _ _
  refine ⟨?_, passed i, ?_, (as_alone i).2, ?_, ?_⟩
  · intro j differ name mem name' mem'
    rw [apart.prefix_eq i j]
    exact StagedKeys.pairwise_paths_ne (apart.names_ne i j differ name mem name' mem')
  · rw [afterTurns, (as_alone i).1]
    rfl
  · intro all
    refine ⟨?_, by rw [passed i, List.take_of_length_le all]⟩
    rw [afterTurns, (as_alone i).1]
    exact ((neighbor i).surroundings.alone_of_length_le all).1
  · intro j differ exchange mem path staged is_delete
    rw [passed j] at mem
    have stays := execute_staysOn ((neighbor j).run_solo objects) exchange (List.mem_of_mem_take mem)
    rw [is_delete] at stays
    exact Set.disjoint_left.mp (apart.disjoint_staged differ) staged stays

/-! ### Two small graphs -/

/-- The key under which the service of one of two builds stores its graph. -/
def smallGraphKey (side : Bool) : String := cond side "right" "left"

/-- One of two builds of small graphs on one store. -/
def small (side : Bool) : Neighbor where
  State := World MemoryCursor
  surroundings := World.surroundings
  area := World.smallArea
  settings := World.smallSettings
  request := World.smallRequest
  own := { World.small [] with
    nextName := cond side 1 0
    service := {
      replies := [{
        object := some (.data (smallGraphKey side) [7, 8, 9])
        reply := fun _ => some {
          status := .completed
          result := some { bucketName := "", graphKey := smallGraphKey side } } }] } }

/-- Where the graph of one of them lies. -/
def smallGraphs (side : Bool) : Set ObjectPath :=
  {path | ObjectPath.parse (smallGraphKey side) = .ok path}

/-- Each of the two small builds gets a name of its own. -/
theorem names_small (side : Bool) : ((small side).solo {}).names = [cond side 1 0] := by
  cases side <;> decide +kernel

/-- If the service reports a graph, it is the one under the key. -/
def reports (key : String) : Exchange → Bool
  | ⟨.status _ _, some (.ok reply)⟩ => reply.result.all (·.graphKey = key)
  | _ => true

/-- No other graph is reported. -/
theorem graphPaths_small (side : Bool) : ((small side).solo {}).graphPaths ⊆ smallGraphs side := by
  have all_own : ((small side).solo {}).all (reports (smallGraphKey side)) = true := by
    cases side <;> decide +kernel
  rintro path ⟨jobId, location, ⟨deadline, reply, mem, _, found⟩, parsed⟩
  have own := List.all_eq_true.mp all_own _ mem
  simp only [reports, found, Option.all_some, decide_eq_true_eq] at own
  rw [own] at parsed
  exact parsed

/-- A graph lies apart from the blobs. -/
theorem disjoint_small_staged (side side' : Bool) :
    Disjoint (smallGraphs side) ((small side').staged {}) := by
  have apart :
      let keys := StagedKeys.ofName World.smallSettings.keyPrefix (cond side' 1 0)
        World.smallRequest.field.name World.smallRequest.buildUnit
      (ObjectPath.parse keys.vectorKey).toOption ≠ (ObjectPath.parse (smallGraphKey side)).toOption ∧
        (ObjectPath.parse keys.docIdKey).toOption ≠
          (ObjectPath.parse (smallGraphKey side)).toOption := by
    cases side <;> cases side' <;> decide +kernel
  refine Set.disjoint_left.mpr ?_
  rintro path here ⟨name, mem, key, has, parsed⟩
  rw [names_small] at mem
  obtain rfl := List.mem_singleton.mp mem
  have same := congrArg Except.toOption (parsed.trans here.symm)
  rcases has with rfl | rfl
  · exact apart.1 same
  · exact apart.2 same

/-- It lies apart from the other graph, too. -/
theorem disjoint_smallGraphs {side side' : Bool} (differ : side ≠ side') :
    Disjoint (smallGraphs side) (smallGraphs side') := by
  have apart : ∀ side side', side ≠ side' → (ObjectPath.parse (smallGraphKey side)).toOption ≠
      (ObjectPath.parse (smallGraphKey side')).toOption := by
    decide +kernel
  refine Set.disjoint_left.mpr fun path here there => ?_
  exact apart side side' differ (congrArg Except.toOption (here.trans there.symm))

/-- Each service stays with its graph. -/
theorem staysWithin_small {side : Bool} {n : Nat} {call : Call} (on_service : call.IsOnService) :
    (small side).surroundings.handle.StaysWithin (smallGraphs side) call
      ((small side).alone {} n).1.own := by
  have keeps : ((small side).alone {} n).1.own.service.Keeps (smallGraphs side) := by
    refine (small side).surroundings.keeps_alone (fun world => world.service.Keeps (smallGraphs side)) ?_
      (fun call world objects kept => World.keeps_answer kept) n
    intro script mem object stores
    obtain rfl := List.mem_singleton.mp mem
    exact ⟨_, _, (Option.some.inj stores).symm, fun path parsed => parsed⟩
  cases call with
  | submit job => exact (World.confined_submit job).staysWithin subset_rfl
  | status jobId deadline => exact (World.confined_status keeps jobId deadline).staysWithin subset_rfl
  | _ => exact on_service.elim

/-- The services keep away from each other's objects. -/
theorem apart_small : Apart small {} smallGraphs where
  prefix_eq _ _ := rfl
  names_ne side side' differ name mem name' mem' := by
    rw [names_small] at mem mem'
    rw [List.mem_singleton.mp mem, List.mem_singleton.mp mem']
    clear mem mem'
    revert side side'
    decide
  unopened _ := rfl
  outlook side side' differ :=
    (disjoint_small_staged side side').mono_left (Set.union_subset (graphPaths_small side) subset_rfl)
  looks side n call next asks on_service :=
    (staysWithin_small on_service).dependsOn (Set.subset_union_right.trans Set.subset_union_right) _
  works side side' differ n call next asks on_service := by
    refine (staysWithin_small on_service).spares_of_disjoint (Set.disjoint_union_right.mpr ⟨?_, ?_⟩) _
    · exact disjoint_small_staged side side'
    · exact (disjoint_smallGraphs differ).mono_right
        (Set.union_subset (graphPaths_small side') subset_rfl)

/-- Two builds of small graphs side by side end as they do alone, with a graph from their services. -/
theorem execute_undisturbed_small_graphs :
    (∀ side, ((small side).outcome {}).toOption.any BuildOutcome.isRemote = true) ∧
      ∀ turns side, Undisturbed small {} (smallGraphs side) turns side :=
  ⟨by decide +kernel, execute_undisturbed apart_small⟩

end Neighbor

end GraphOffload
