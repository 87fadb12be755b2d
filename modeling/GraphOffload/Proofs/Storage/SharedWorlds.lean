import GraphOffload.Proofs.Runs.Sharing
import GraphOffload.Proofs.Storage.Simulation

/-!
# Worlds in memory that share their objects

Several worlds in memory, each with its own corpus, service, sink, clock and plan of faults, may share
the objects of their stores.

## Main definitions

* `GraphOffload.FaultyStore.Confined` : an operation on a store has to do with some objects only.
* `GraphOffload.World.surroundings` : a world in memory as the surroundings of a program.
* `GraphOffload.ScriptedService.Keeps` : a scripted service stores given bytes in an area only.

## Main results

* `GraphOffload.World.confined_answer` : a call on a world in memory is on the objects that it names.
* `GraphOffload.World.confined_status` : such a service stays within its area.
-/

namespace GraphOffload

/-! ### Operations on stores -/

namespace FaultyStore

/-- The store with other objects. -/
def withObjects (store : FaultyStore) (objects : ObjectMap) : FaultyStore :=
  { store with objects := objects }

/-- The path of the upload that is open. -/
def target (store : FaultyStore) : Option ObjectPath := store.upload.map OpenUpload.path

variable {α : Type} {area written : Set ObjectPath} {store : FaultyStore} {path : ObjectPath}

/-- What an operation comes to depends on the objects of an area only, and it changes no objects but
some of them. -/
structure Confined (area written : Set ObjectPath) (operation : FaultyStore → α × FaultyStore)
    (store : FaultyStore) : Prop where
  depends : ∀ objects objects' : ObjectMap, Set.EqOn objects'.get? objects.get? area →
    (operation (store.withObjects objects')).1 = (operation (store.withObjects objects)).1 ∧
    (operation (store.withObjects objects')).2.withObjects {} =
      (operation (store.withObjects objects)).2.withObjects {} ∧
    Set.EqOn (operation (store.withObjects objects')).2.objects.get?
      (operation (store.withObjects objects)).2.objects.get? area
  spares : ∀ objects,
    Set.EqOn (operation (store.withObjects objects)).2.objects.get? objects.get? writtenᶜ

variable {operation : FaultyStore → α × FaultyStore}

/-- An operation that does the same with any objects, and leaves them as they are, is confined. -/
theorem Confined.of_uniform
    (same : ∀ objects, operation (store.withObjects objects) =
      ((operation store).1, (operation store).2.withObjects objects)) :
    Confined area written operation store := by
  constructor
  · intro objects objects' agree
    rw [same objects, same objects']
    exact ⟨rfl, rfl, agree⟩
  · intro objects
    rw [same]
    exact Set.eqOn_refl _ _

/-- So is one that looks at one object and leaves all as they are. -/
theorem Confined.of_look
    (looks : ∀ objects objects' : ObjectMap, objects'.get? path = objects.get? path →
      operation (store.withObjects objects') = ((operation (store.withObjects objects)).1,
        (operation (store.withObjects objects)).2.withObjects objects')) :
    Confined {path} written operation store := by
  constructor
  · intro objects objects' agree
    have here := looks objects objects rfl
    rw [looks objects objects' (agree (Set.mem_singleton path))]
    refine ⟨rfl, rfl, ?_⟩
    rw [here]
    exact agree
  · intro objects
    rw [looks objects objects rfl]
    exact Set.eqOn_refl _ _

/-- And so is one that puts or deletes one object. -/
theorem Confined.of_change (change : ObjectMap → ObjectMap) {object : Option Bytes}
    (changes : ∀ objects, operation (store.withObjects objects) =
      ((operation store).1, (operation store).2.withObjects (change objects)))
    (changed : ∀ objects other,
      (change objects).get? other = if other = path then object else objects.get? other)
    (inside : path ∈ written) : Confined area written operation store := by
  constructor
  · intro objects objects' agree
    rw [changes objects, changes objects']
    refine ⟨rfl, rfl, fun other mem => ?_⟩
    show (change objects').get? other = (change objects).get? other
    rw [changed, changed, agree mem]
  · intro objects other outside
    rw [changes]
    show (change objects).get? other = objects.get? other
    have elsewhere : other ≠ path := fun same => outside (same ▸ inside)
    rw [changed, if_neg elsewhere]

/-- Whether a call fails by a fault does not depend on the objects. -/
theorem enter_withObjects (store : FaultyStore) (kind : StoreCallKind) (details : String)
    (objects : ObjectMap) :
    (store.withObjects objects).enter kind details =
      ((store.enter kind details).1, (store.enter kind details).2.withObjects objects) := by
  unfold enter
  cases watched : store.watched <;> simp [withObjects, watched]

/-- Whether a call fails does not depend on the objects. -/
theorem Confined.guarded {kind : StoreCallKind} {location details : String}
    {work : FaultyStore → Except StoreError α × FaultyStore}
    (worked : ∀ entered : FaultyStore, entered.upload = store.upload →
      Confined area written work entered) :
    Confined area written (fun store => store.guarded kind location details work) store := by
  have entered := worked (store.enter kind details).2 (alike_enter store kind details).upload
  cases planned : (store.enter kind details).1.bind (InjectedFault.toError? location) with
  | some error =>
    refine .of_uniform fun objects => ?_
    simp only [FaultyStore.guarded, enter_withObjects, planned]
  | none =>
    have works (objects : ObjectMap) : (store.withObjects objects).guarded kind location details work =
        work ((store.enter kind details).2.withObjects objects) := by
      simp only [FaultyStore.guarded, enter_withObjects, planned]
    constructor
    · intro objects objects' agree
      simp only [works]
      exact entered.depends objects objects' agree
    · intro objects
      simp only [works]
      exact entered.spares objects

/-- What is found under a path depends on the object there only. -/
theorem lookUp_withObjects {objects objects' : ObjectMap}
    (same : objects'.get? path = objects.get? path) :
    (store.withObjects objects').lookUp path = (store.withObjects objects).lookUp path := by
  simp only [lookUp, withObjects, same]

/-- What is open after a call that does its work was open before, or the work opened it. -/
theorem target_guarded {kind : StoreCallKind} {location details : String}
    {work : FaultyStore → Except StoreError α × FaultyStore} {store : FaultyStore}
    (opened : (store.guarded kind location details work).2.target = some path) :
    store.target = some path ∨
      ∃ entered : FaultyStore, entered.target = store.target ∧ (work entered).2.target = some path := by
  obtain ⟨entered, alike, works | ⟨error, fails, _⟩⟩ := store.guarded_cases kind location details work
  · rw [works] at opened
    exact .inr ⟨entered, congrArg (Option.map OpenUpload.path) alike.upload, opened⟩
  · rw [fails, target, alike.upload] at opened
    exact .inl opened

/-- If the work opens none, none is opened. -/
theorem target_of_guarded {kind : StoreCallKind} {location details : String}
    {work : FaultyStore → Except StoreError α × FaultyStore} {store : FaultyStore}
    (kept : ∀ entered, (work entered).2.target = some path → entered.target = some path)
    (opened : (store.guarded kind location details work).2.target = some path) :
    store.target = some path := by
  rcases target_guarded opened with before | ⟨entered, same, after⟩
  · exact before
  · exact same.symm.trans (kept entered after)

/-- Putting an object opens no upload. -/
theorem target_put {other : ObjectPath} {data : Bytes}
    (opened : (store.put other data).2.target = some path) : store.target = some path :=
  target_of_guarded (fun _ after => after) opened

/-- Deleting an object opens no upload. -/
theorem target_delete {other : ObjectPath} (opened : (store.delete other).2.target = some path) :
    store.target = some path :=
  target_of_guarded (fun _ after => after) opened

/-- An upload is opened under the path that was asked for. -/
theorem target_openUpload {other : ObjectPath}
    (opened : (store.openUpload other).2.target = some path) :
    store.target = some path ∨ other = path := by
  rcases target_guarded opened with before | ⟨entered, same, after⟩
  · exact .inl before
  · exact .inr (Option.some.inj after)

/-- Sending a part opens no upload. -/
theorem target_beginPart {part : Part} {data : Bytes}
    (opened : (store.beginPart part data).target = some path) : store.target = some path := by
  unfold beginPart at opened
  refine target_of_guarded (fun entered after => ?_) opened
  rw [← after]
  simp [target, Function.comp_def]

/-- Completing an upload opens no other. -/
theorem target_completeUpload (opened : store.completeUpload.2.target = some path) :
    store.target = some path := by
  refine target_of_guarded (fun entered after => ?_) opened
  cases held : entered.upload <;> simp [target, held] at after

/-- Aborting an upload opens no other. -/
theorem target_abortUpload (opened : store.abortUpload.2.target = some path) :
    store.target = some path := by
  refine target_of_guarded (fun entered after => ?_) opened
  exact nomatch after

variable (store path)

/-- Asking for a size depends on the object of the path only, and changes none. -/
theorem confined_head : Confined {path} written (·.head path) store :=
  .guarded fun _ _ => .of_look fun objects objects' same => by
    rw [lookUp_withObjects same]
    rfl

/-- Getting an object depends on that object only, and changes none. -/
theorem confined_get : Confined {path} written (·.get path) store :=
  .guarded fun _ _ => .of_look fun objects objects' same => by
    rw [lookUp_withObjects same]
    rfl

/-- Putting an object depends on none, and changes the one of the path. -/
theorem confined_put (data : Bytes) (inside : path ∈ written) :
    Confined area written (·.put path data) store :=
  .guarded fun _ _ => .of_change (·.insert path data) (fun _ => rfl)
    (fun objects other => objects.get?_insert path other data) inside

/-- Deleting an object depends on none, and changes the one of the path. -/
theorem confined_delete (inside : path ∈ written) : Confined area written (·.delete path) store :=
  .guarded fun _ _ => .of_change (·.erase path) (fun _ => rfl)
    (fun objects other => objects.get?_erase path other) inside

/-- What a range will bring is known when its fetching begins. -/
theorem confined_beginRange (start finish : Nat) :
    Confined {path} written (fun store => ((), store.beginRange path start finish)) store := by
  refine .of_look fun objects objects' same => ?_
  simp only [beginRange, enter_withObjects, lookUp_withObjects same]
  rfl

/-- Waiting for a range depends on no object any more, and changes none. -/
theorem confined_endRange (start finish : Nat) :
    Confined {path} written (·.endRange path start finish) store :=
  .of_uniform fun _ => rfl

/-- Opening an upload depends on no object, and changes none. -/
theorem confined_openUpload : Confined {path} written (·.openUpload path) store :=
  .guarded fun _ _ => .of_uniform fun _ => rfl

/-- Sending a part depends on no object, and changes none. -/
theorem confined_beginPart (part : Part) (data : Bytes) :
    Confined area written (fun store => ((), store.beginPart part data)) store := by
  refine .of_uniform fun objects => ?_
  unfold beginPart FaultyStore.guarded
  rw [enter_withObjects]
  dsimp only
  split <;> rfl

/-- Waiting for a part that is being sent depends on no object, and changes none. -/
theorem confined_endPart (part : Part) : Confined area written (·.endPart part) store :=
  .of_uniform fun _ => rfl

/-- A completed upload puts the object that it was opened for. -/
theorem confined_completeUpload (inside : ∀ path, store.target = some path → path ∈ written) :
    Confined area written (·.completeUpload) store := by
  refine .guarded fun entered upload_eq => ?_
  cases held : entered.upload with
  | none =>
    refine .of_uniform fun objects => ?_
    simp only [withObjects, held]
  | some upload =>
    refine .of_change (·.insert upload.path upload.data) (fun objects => ?_)
      (fun objects other => objects.get?_insert upload.path other upload.data) ?_
    · simp only [withObjects, held]
    · exact inside upload.path (by rw [target, ← upload_eq, held]; rfl)

/-- Aborting an upload depends on no object, and changes none. -/
theorem confined_abortUpload : Confined area written (·.abortUpload) store :=
  .guarded fun _ _ => .of_uniform fun _ => rfl

end FaultyStore

/-! ### Worlds -/

namespace World

variable {σ : Type} [Cursor σ] {world : World σ} {area written : Set ObjectPath} {call : Call}

/-- The world with other objects in its store. -/
def withObjects (world : World σ) (objects : ObjectMap) : World σ :=
  { world with store := world.store.withObjects objects }

/-- A world that works on the objects it is given, and keeps none of its own. -/
def share : SharedHandler (World σ) := fun call state =>
  let (reply, world) := answer call (state.1.withObjects state.2)
  (reply, (world.withObjects {}, world.store.objects))

/-- A call has to do with the objects of an area only, and changes no others than some of them. -/
structure Confined (area written : Set ObjectPath) (call : Call) (world : World σ) : Prop where
  depends : ∀ objects, share.DependsOn area call world objects
  spares : ∀ objects, Set.EqOn (share call (world, objects)).2.2.get? objects.get? writtenᶜ

/-- A call that changes only objects of its area stays within it. -/
theorem Confined.staysWithin (confined : Confined area written call world) (inside : written ⊆ area) :
    share.StaysWithin area call world where
  depends := confined.depends
  spares objects := (confined.spares objects).mono (Set.compl_subset_compl.mpr inside)

/-- A call on the store is confined if the operation is. -/
theorem Confined.of_store {operation : FaultyStore → call.Reply × FaultyStore} (rest : World σ)
    (answers : ∀ objects, answer call (world.withObjects objects) =
      ((operation (world.store.withObjects objects)).1,
        { rest with store := (operation (world.store.withObjects objects)).2 }))
    (confined : FaultyStore.Confined area written operation world.store) :
    Confined area written call world := by
  constructor
  · intro objects objects' agree
    obtain ⟨reply_eq, rest_eq, objects_eq⟩ := confined.depends objects objects' agree
    simp only [share, answers]
    refine ⟨reply_eq, ?_, objects_eq⟩
    simp only [withObjects]
    rw [rest_eq]
  · intro objects
    simp only [share, answers]
    exact confined.spares objects

/-- A call on anything else leaves all objects as they are. -/
theorem Confined.of_else
    (same : ∀ objects, answer call (world.withObjects objects) =
      ((answer call world).1, (answer call world).2.withObjects objects)) :
    Confined area written call world := by
  constructor
  · intro objects objects' agree
    unfold share
    dsimp only
    rw [same objects, same objects']
    exact ⟨rfl, rfl, agree⟩
  · intro objects
    simp only [share, same]
    exact Set.eqOn_refl _ _

/-- **A call on a world in memory is on the objects that it names**, and changes them only if it is one
that writes.

**Proof sketch.** By the call: what it does to the store was looked at call by call
(`FaultyStore.confined_put` and its like), and calls on anything else do nothing to it
(`Confined.of_else`). -/
theorem confined_answer (world : World σ) (confined : call.IsConfined) :
    Confined (call.touched world.store.target)
      {path | call.Writes ∧ path ∈ call.touched world.store.target} call world := by
  cases call with
  | head path => exact .of_store world (fun _ => rfl) (FaultyStore.confined_head _ path)
  | put path data =>
    exact .of_store world (fun _ => rfl) (FaultyStore.confined_put _ path data ⟨trivial, rfl⟩)
  | get path => exact .of_store world (fun _ => rfl) (FaultyStore.confined_get _ path)
  | delete path =>
    exact .of_store world (fun _ => rfl) (FaultyStore.confined_delete _ path ⟨trivial, rfl⟩)
  | beginRange path start finish =>
    exact .of_store world (fun _ => rfl) (FaultyStore.confined_beginRange _ path start finish)
  | endRange path start finish =>
    exact .of_store world (fun _ => rfl) (FaultyStore.confined_endRange _ path start finish)
  | openUpload path => exact .of_store world (fun _ => rfl) (FaultyStore.confined_openUpload _ path)
  | beginPart part data =>
    exact .of_store world (fun _ => rfl) (FaultyStore.confined_beginPart _ part data)
  | endPart part => exact .of_store world (fun _ => rfl) (FaultyStore.confined_endPart _ part)
  | completeUpload =>
    exact .of_store world (fun _ => rfl)
      (FaultyStore.confined_completeUpload _ fun path opened => ⟨trivial, opened⟩)
  | abortUpload => exact .of_store world (fun _ => rfl) (FaultyStore.confined_abortUpload _)
  | buildLocally request =>
    refine .of_else fun objects => ?_
    simp only [answer, buildLocally, withObjects]
    by_cases available : world.builder.available
    · simp only [available, if_true]
      cases (world.sink.writeAll world.builder.output (world.builder.output.length + 1)).1 with
      | error fault => rfl
      | ok written => cases world.builder.failure <;> rfl
    · simp only [available]
      rfl
  | list | submit | status => exact confined.elim
  | _ => exact .of_else fun _ => rfl

/-- What is open was open before a call, unless the call opened it.

**Proof sketch.** By the call: only the opening of an upload opens one, and what the service does leaves
it as it is. -/
theorem target_answer (world : World σ) {path : ObjectPath}
    (opened : (answer call world).2.store.target = some path) :
    world.store.target = some path ∨ call = .openUpload path := by
  have of_upload {store' : FaultyStore} (kept : store'.upload = world.store.upload)
      (opened : store'.target = some path) : world.store.target = some path := by
    rw [← opened, FaultyStore.target, FaultyStore.target, kept]
  cases call with
  | head | get | list =>
    exact .inl (of_upload (FaultyStore.alike_guarded world.store fun _ => rfl).upload opened)
  | put => exact .inl (FaultyStore.target_put opened)
  | delete => exact .inl (FaultyStore.target_delete opened)
  | openUpload other =>
    rcases FaultyStore.target_openUpload opened with before | rfl
    · exact .inl before
    · exact .inr rfl
  | beginPart => exact .inl (FaultyStore.target_beginPart opened)
  | completeUpload => exact .inl (FaultyStore.target_completeUpload opened)
  | abortUpload => exact .inl (FaultyStore.target_abortUpload opened)
  | beginRange other start finish =>
    have kept := (FaultyStore.alike_enter world.store .getRange
      (other.text ++ s!" {start}-{finish}")).upload
    exact .inl (of_upload kept opened)
  | submit job => exact .inl (of_upload (keeps_submit world job).store.upload opened)
  | status jobId deadline =>
    exact .inl (of_upload (keeps_status world jobId deadline).store.upload opened)
  | buildLocally request =>
    exact .inl (of_upload (congrArg FaultyStore.upload (same_buildLocally world request).1) opened)
  | _ => exact .inl opened

/-- A world in memory as the surroundings of a program. -/
def surroundings : Surroundings (World σ) where
  handle := share
  target world := world.store.target
  opened call world objects path opened := target_answer (world.withObjects objects) opened
  staysWithin call world confined :=
    (confined_answer world confined).staysWithin fun path mem => mem.2
  unwritten call world objects confined quiet := by
    funext path
    exact (confined_answer world confined).spares objects fun mem => quiet mem.1

end World

/-! ### Services -/

/-- All that a scripted service stores are given bytes, in an area. -/
def ScriptedService.Keeps (area : Set ObjectPath) (service : ScriptedService) : Prop :=
  ∀ script ∈ service.replies, ∀ object, script.object = some object →
    ∃ key bytes, object = .data key bytes ∧ ∀ path, ObjectPath.parse key = .ok path → path ∈ area

namespace FaultyStore

variable {α β : Type} {area written : Set ObjectPath} {store : FaultyStore}

/-- What is made of the value of an operation makes no difference. -/
theorem Confined.map {operation : FaultyStore → α × FaultyStore}
    (confined : Confined area written operation store) (f : α → β) :
    Confined area written (fun store => (f (operation store).1, (operation store).2)) store where
  depends objects objects' agree := by
    obtain ⟨value_eq, rest_eq, objects_eq⟩ := confined.depends objects objects' agree
    exact ⟨congrArg f value_eq, rest_eq, objects_eq⟩
  spares := confined.spares

/-- An object is put under the path of its key, if there is one. -/
theorem confined_putObject (store : FaultyStore) (key : String) (data : Bytes)
    (inside : ∀ path, ObjectPath.parse key = .ok path → path ∈ written) :
    Confined area written (World.putObject · key data) store := by
  cases parsed : ObjectPath.parse key with
  | error error =>
    refine .of_uniform fun objects => ?_
    simp only [World.putObject, parsed]
  | ok path =>
    have puts : Confined area written (·.put path data) store :=
      confined_put store path data (inside path parsed)
    simpa only [World.putObject, parsed] using puts.map (Except.mapError (BlobStore.failureOf key))

end FaultyStore

namespace ScriptedReply

/-- What the service does to the store when it gets to a reply, and what it then says. -/
def work (script : ScriptedReply) (vectorKey : String) (store : FaultyStore) :
    Except Failure StatusReply × FaultyStore :=
  match script.failure with
  | some failure => (.error failure, store)
  | none =>
    let (stored, store) : Except Failure Unit × FaultyStore := match script.object with
      | none => (.ok (), store)
      | some object => World.putScripted store vectorKey object
    match stored with
    | .error failure => (.error failure, store)
    | .ok () => match script.reply vectorKey with
      | none => (.error .malformedMessage, store)
      | some reply => (.ok reply, store)

/-- What the service does before it replies is work on the store, as its script says. -/
theorem perform_eq {σ : Type} (world : World σ) (script : ScriptedReply) :
    world.perform script =
      world.onStore
        (script.work ((world.service.submitted.getLast?.map BuildJob.vectorKey).getD "")) := by
  unfold World.perform work World.onStore
  cases script.failure with
  | some failure => rfl
  | none =>
    cases script.object with
    | none =>
      dsimp only
      cases script.reply _ <;> rfl
    | some object =>
      dsimp only
      rcases World.putScripted world.store _ object with ⟨failure | _, store⟩
      · rfl
      · dsimp only
        cases script.reply _ <;> rfl

/-- A reply with given bytes to store is on their path only.

**Proof sketch.** By what the script has the service do. If it stores bytes, these are put under their
path; what is told afterwards depends on no object. -/
theorem confined_work {script : ScriptedReply} {area : Set ObjectPath}
    (keeps : ∀ object, script.object = some object →
      ∃ key bytes, object = .data key bytes ∧ ∀ path, ObjectPath.parse key = .ok path → path ∈ area)
    (vectorKey : String) (store : FaultyStore) :
    FaultyStore.Confined area area (script.work vectorKey) store := by
  cases fails : script.failure with
  | some failure =>
    refine .of_uniform fun objects => ?_
    simp only [work, fails]
  | none =>
    cases stores : script.object with
    | none =>
      refine .of_uniform fun objects => ?_
      simp only [work, fails, stores]
      cases script.reply vectorKey <;> rfl
    | some object =>
      obtain ⟨key, bytes, rfl, inside⟩ := keeps object stores
      let told : Except Failure Unit → Except Failure StatusReply
        | .error failure => .error failure
        | .ok () => match script.reply vectorKey with
          | none => .error .malformedMessage
          | some reply => .ok reply
      have work_eq : script.work vectorKey = fun store =>
          (told (World.putObject store key bytes).1, (World.putObject store key bytes).2) := by
        funext store
        simp only [work, fails, stores, World.putScripted, told]
        rcases World.putObject store key bytes with ⟨failure | _, store⟩
        · rfl
        · dsimp only
          cases script.reply vectorKey <;> rfl
      rw [work_eq]
      exact (FaultyStore.confined_putObject store key bytes inside).map told

end ScriptedReply

namespace World

variable {σ : Type} [Cursor σ] {world : World σ} {area : Set ObjectPath}

/-- Submitting a job depends on no object, and changes none. -/
theorem confined_submit (job : BuildJob) : Confined area area (.submit job) world := by
  refine .of_else fun objects => ?_
  simp only [answer, submit, withObjects]
  cases world.service.submitFailure <;> rfl

/-- The world in which the service was called, with what is left of its script. -/
def called (world : World σ) (jobId : String) (rest : List ScriptedReply) : World σ :=
  { world with
    service := { world.service with
      calls := world.service.calls ++ [(jobId, world.time)]
      replies := rest } }

omit [Cursor σ] in

/-- A reply that comes after the deadline is not waited for. -/
theorem status_of_late {script : ScriptedReply} {rest : List ScriptedReply} {jobId : String}
    {deadline : Nat} (replies : world.service.replies = script :: rest)
    (late : 0 < script.delay ∧ deadline < world.time + script.delay) :
    world.status jobId deadline =
      (none, { world.called jobId rest with time := max world.time deadline }) := by
  unfold status
  rw [replies]
  exact if_pos late

omit [Cursor σ] in

/-- A reply that comes in time is given when the work of the service is done. -/
theorem status_of_not_late {script : ScriptedReply} {rest : List ScriptedReply} {jobId : String}
    {deadline : Nat} (replies : world.service.replies = script :: rest)
    (in_time : ¬ (0 < script.delay ∧ deadline < world.time + script.delay)) :
    world.status jobId deadline =
      let (reply, world) := ((world.called jobId rest).pass script.delay).perform script
      (some reply, world) := by
  unfold status
  rw [replies]
  exact if_neg in_time

/-- Such a service stays within its area. -/
theorem confined_status (keeps : world.service.Keeps area) (jobId : String) (deadline : Nat) :
    Confined area area (.status jobId deadline) world := by
  cases replies : world.service.replies with
  | nil =>
    refine .of_else fun objects => ?_
    simp only [answer, status, withObjects, replies]
  | cons script rest =>
    by_cases late : 0 < script.delay ∧ deadline < world.time + script.delay
    · refine .of_else fun objects => ?_
      have here : (world.withObjects objects).service.replies = script :: rest := replies
      rw [answer, answer, status_of_late here late, status_of_late replies late]
      rfl
    · have keeps := keeps script (by simp [replies])
      have confined := (ScriptedReply.confined_work keeps
        ((world.service.submitted.getLast?.map BuildJob.vectorKey).getD "") world.store).map some
      refine .of_store ((world.called jobId rest).pass script.delay) (fun objects => ?_) confined
      have here : (world.withObjects objects).service.replies = script :: rest := replies
      rw [answer, status_of_not_late here late, ScriptedReply.perform_eq]
      rfl

/-- The service goes on with its script, and never gets another one.

**Proof sketch.** Only a status call takes a reply off the script, and it leaves the others there. -/
theorem keeps_answer {call : Call} (keeps : world.service.Keeps area) :
    (answer call world).2.service.Keeps area := by
  cases call with
  | submit job =>
    unfold answer submit
    dsimp only
    cases world.service.submitFailure <;> exact keeps
  | status jobId deadline =>
    cases replies : world.service.replies with
    | nil =>
      simp only [answer, status, replies]
      exact fun script mem => nomatch mem
    | cons script rest =>
      have kept : (world.called jobId rest).service.Keeps area := by
        intro other mem
        exact keeps other (replies ▸ List.mem_cons_of_mem script mem)
      by_cases late : 0 < script.delay ∧ deadline < world.time + script.delay
      · rw [answer, status_of_late replies late]
        exact kept
      · rw [answer, status_of_not_late replies late, ScriptedReply.perform_eq]
        exact kept
  | buildLocally request =>
    unfold answer buildLocally
    dsimp only
    split
    · split <;> exact keeps
    · exact keeps
  | _ => exact keeps

end World

end GraphOffload
