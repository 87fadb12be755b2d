import GraphOffload.Corpus.Memory
import GraphOffload.Proofs.Storage.Promises
import GraphOffload.Simulation.World
import GraphOffload.Transfer.Upload

/-!
# A store in memory keeps its promises

The store with planned faults is one of those that the promises describe, as long as no fault is
planned that would call an object missing that is there. So every program has runs with such a store,
whatever else is planned, and what is proved of all stores that keep their promises holds of them.

## Main definitions

* `GraphOffload.FaultyStore.Shows` : what a store in memory has of what the promises speak of.

## Main results

* `GraphOffload.World.step_answer` : each answer of a world in memory is a step that the promises
  allow.
* `GraphOffload.World.exists_follows` : the transcript of a program in a world in memory is one of a
  store that keeps its promises.
-/

namespace GraphOffload

open StoreState

namespace FaultyStore

/-! ### What a store in memory shows -/

/-- No fault is planned that would call an object missing that is there. -/
def Honest (store : FaultyStore) : Prop :=
  ∀ planned ∈ store.plan, planned.kind = .head → planned.fault ≠ .notFound

/-- The upload that a store in memory has open, with the parts under way, is the given one. If no part
is or will be lost, it has its bytes. -/
def Holds (sending : List (Part × Except StoreError Unit)) :
    Option OpenUpload → Option PendingUpload → Prop
  | none, none => True
  | some held, some pending => held.path = pending.path ∧ sending.map Prod.fst = pending.underway ∧
    (pending.broken = false → (∀ sent ∈ sending, sent.2 = .ok ()) → held.data = pending.data)
  | _, _ => False

/-- A store in memory has the objects and the open upload of a state. -/
structure Shows (store : FaultyStore) (state : StoreState) : Prop where
  objects : ∀ path, store.objects.get? path = state.objects path
  upload : Holds store.sending store.upload state.upload
  honest : store.Honest

/-- What a store in memory shows while no upload is open. -/
def shown (store : FaultyStore) : StoreState := ⟨store.objects.get?, none⟩

/-- Two stores differ at most in what they log. -/
structure Alike (store store' : FaultyStore) : Prop where
  objects : store'.objects = store.objects
  upload : store'.upload = store.upload
  sending : store'.sending = store.sending
  fetching : store'.fetching = store.fetching
  plan : store'.plan = store.plan

variable {store store' : FaultyStore} {state : StoreState} {path : ObjectPath}

/-- Stores that are alike show the same. -/
theorem Shows.of_alike (shows : store.Shows state) (alike : store.Alike store') :
    store'.Shows state where
  objects := alike.objects ▸ shows.objects
  upload := by rw [alike.sending, alike.upload]; exact shows.upload
  honest := by rw [Honest, alike.plan]; exact shows.honest

/-! ### Calls on it -/

/-- Entering a call is nothing but a note in the log. -/
theorem alike_enter (store : FaultyStore) (kind : StoreCallKind) (details : String) :
    store.Alike (store.enter kind details).2 := by
  unfold enter
  split <;> exact ⟨rfl, rfl, rfl, rfl, rfl⟩

/-- A fault that comes with a call was planned for it. -/
theorem planned_of_enter {kind : StoreCallKind} {details : String} {fault : InjectedFault}
    (h : (store.enter kind details).1 = some fault) :
    ∃ planned ∈ store.plan, planned.kind = kind ∧ planned.fault = fault := by
  unfold enter at h
  split at h
  · obtain ⟨planned, found, same⟩ := Option.map_eq_some_iff.mp h
    have means := List.find?_some found
    simp only [decide_eq_true_eq] at means
    exact ⟨planned, List.mem_of_find?_eq_some found, means.1, same⟩
  · exact nomatch h

/-- A call does its work, or ends with an error that was planned for it. -/
theorem guarded_cases {α : Type} (store : FaultyStore) (kind : StoreCallKind) (location details : String)
    (work : FaultyStore → Except StoreError α × FaultyStore) :
    ∃ entered, store.Alike entered ∧
      (store.guarded kind location details work = work entered ∨
        ∃ error, store.guarded kind location details work = (.error error, entered) ∧
          ∃ planned ∈ store.plan, planned.kind = kind ∧
            planned.fault.toError? location = some error) := by
  refine ⟨(store.enter kind details).2, alike_enter store kind details, ?_⟩
  unfold guarded
  cases faulty : (store.enter kind details).1 with
  | none => exact .inl (by simp [faulty])
  | some fault =>
    cases means : fault.toError? location with
    | none => exact .inl (by simp [faulty, means])
    | some error =>
      obtain ⟨planned, mem, same, rfl⟩ := planned_of_enter faulty
      exact .inr ⟨error, by simp [faulty, means], planned, mem, same, means⟩

/-- Taking the first outcome of a part leaves the others in their order. -/
theorem map_fst_takeFirst (part : Part) (sending : List (Part × Except StoreError Unit)) :
    (takeFirst part sending).2.map Prod.fst = (sending.map Prod.fst).erase part := by
  induction sending with
  | nil => rfl
  | cons first rest ih =>
    obtain ⟨other, outcome⟩ := first
    by_cases same : other = part
    · simp [takeFirst, same]
    · simp [takeFirst, same, ih]

/-- If a part was not lost and no other one will be, none was to be before. -/
theorem forall_of_takeFirst {part : Part} {sending : List (Part × Except StoreError Unit)}
    (well : (takeFirst part sending).1.getD (.ok ()) = .ok ())
    (others : ∀ sent ∈ (takeFirst part sending).2, sent.2 = .ok ()) :
    ∀ sent ∈ sending, sent.2 = .ok () := by
  induction sending with
  | nil => simp
  | cons first rest ih =>
    obtain ⟨other, outcome⟩ := first
    by_cases same : other = part
    · simp only [takeFirst, same, if_true, Option.getD_some] at well others
      exact List.forall_mem_cons.mpr ⟨well, others⟩
    · simp only [takeFirst, same, if_false, List.forall_mem_cons] at well others
      exact List.forall_mem_cons.mpr ⟨others.1, ih well others.2⟩

/-! ### Steps -/

variable {α : Type} {kind : StoreCallKind} {location details : String}
  {work : FaultyStore → Except StoreError α × FaultyStore}

/-- A call is a step if its work is one, and if the errors that are planned for it mean nothing. -/
theorem step_guarded (exchange : Except StoreError α → Exchange) (shows : store.Shows state)
    (worked : ∀ entered : FaultyStore, entered.Shows state →
      ∃ state', Step (exchange (work entered).1) state state' ∧ (work entered).2.Shows state')
    (failed : ∀ planned ∈ store.plan, planned.kind = kind → ∀ error,
      planned.fault.toError? location = some error → (exchange (.error error)).storeEvent? = none) :
    ∃ state', Step (exchange (store.guarded kind location details work).1) state state' ∧
      (store.guarded kind location details work).2.Shows state' := by
  obtain ⟨entered, alike, works | ⟨error, fails, planned, mem, same, means⟩⟩ :=
    store.guarded_cases kind location details work
  · rw [works]
    exact worked entered (shows.of_alike alike)
  · rw [fails]
    exact ⟨state, (step_iff_eq (failed planned mem same error means)).mpr rfl, shows.of_alike alike⟩

/-- No planned fault calls an object missing that is there. -/
theorem Honest.storeEvent?_head (honest : store.Honest) {planned : PlannedFault}
    (mem : planned ∈ store.plan) (same : planned.kind = .head) {error : StoreError}
    (means : planned.fault.toError? location = some error) :
    Exchange.storeEvent? ⟨.head path, .error error⟩ = none := by
  have truthful := honest planned mem same
  cases fault : planned.fault <;> rw [fault] at means truthful
  case notFound => exact absurd rfl truthful
  case short keep => exact nomatch means
  all_goals
    cases means
    rfl

/-- Asking for the size of an object is a step. -/
theorem step_head (shows : store.Shows state) (path : ObjectPath) :
    ∃ state', Step ⟨.head path, (store.head path).1⟩ state state' ∧
      (store.head path).2.Shows state' := by
  refine step_guarded (fun reply => ⟨.head path, reply⟩) shows (fun entered shows' => ?_)
    fun planned mem same error means => shows.honest.storeEvent?_head mem same means
  cases held : entered.objects.get? path with
  | none =>
    have missed : entered.lookUp path = .error (missing path) := by rw [lookUp, held]
    rw [missed]
    exact ⟨state, ⟨rfl, (shows'.objects path).symm.trans held⟩, shows'⟩
  | some data =>
    have found : entered.lookUp path = .ok data := by rw [lookUp, held]
    rw [found]
    exact ⟨state, rfl, shows'⟩

/-- The size of an object is given if there is one, and else not. -/
theorem affirms_head (shows : store.Shows state) (path : ObjectPath) :
    state.Affirms ⟨.head path, (store.head path).1⟩ := by
  obtain ⟨entered, alike, works | ⟨error, fails, _⟩⟩ := store.guarded_cases .head path.text path.text
    fun store => ((store.lookUp path).map fun data => UInt64.ofNat data.length, store)
  · rw [head, works]
    cases held : entered.objects.get? path with
    | none =>
      have missed : entered.lookUp path = .error (missing path) := by rw [lookUp, held]
      rw [missed]
      trivial
    | some data =>
      have found : entered.lookUp path = .ok data := by rw [lookUp, held]
      have same := (shows.of_alike alike).objects path
      rw [found]
      exact fun absent => nomatch held.symm.trans (same.trans absent)
  · rw [head, fails]
    trivial

/-- Putting an object is a step. -/
theorem step_put (shows : store.Shows state) (path : ObjectPath) (data : Bytes) :
    ∃ state', Step ⟨.put path data, (store.put path data).1⟩ state state' ∧
      (store.put path data).2.Shows state' := by
  refine step_guarded (fun reply => ⟨.put path data, reply⟩) shows (fun entered shows' => ?_)
    fun _ _ _ _ _ => rfl
  refine ⟨state.set path (some data), rfl, fun other => ?_, shows'.upload, shows'.honest⟩
  rw [ObjectMap.get?_insert, shows'.objects, set_objects_apply]

/-- Deleting an object is a step. -/
theorem step_delete (shows : store.Shows state) (path : ObjectPath) :
    ∃ state', Step ⟨.delete path, (store.delete path).1⟩ state state' ∧
      (store.delete path).2.Shows state' := by
  refine step_guarded (fun reply => ⟨.delete path, reply⟩) shows (fun entered shows' => ?_)
    fun _ _ _ _ _ => rfl
  refine ⟨state.set path none, rfl, fun other => ?_, shows'.upload, shows'.honest⟩
  rw [ObjectMap.get?_erase, shows'.objects, set_objects_apply]

/-- Opening an upload is a step. -/
theorem step_openUpload (shows : store.Shows state) (path : ObjectPath) :
    ∃ state', Step ⟨.openUpload path, (store.openUpload path).1⟩ state state' ∧
      (store.openUpload path).2.Shows state' :=
  step_guarded (fun reply => ⟨.openUpload path, reply⟩) shows
    (fun _ shows' => ⟨_, rfl, shows'.objects, ⟨rfl, rfl, fun _ _ => rfl⟩, shows'.honest⟩)
    fun _ _ _ _ _ => rfl

/-- Completing an upload is a step: if all parts were acknowledged, the object has their bytes. -/
theorem step_completeUpload (shows : store.Shows state) :
    ∃ state', Step ⟨.completeUpload, store.completeUpload.1⟩ state state' ∧
      store.completeUpload.2.Shows state' := by
  refine step_guarded (fun reply => ⟨.completeUpload, reply⟩) shows (fun entered shows' => ?_)
    fun _ _ _ _ _ => rfl
  have upload := shows'.upload
  cases held : entered.upload with
  | none =>
    cases pending : state.upload with
    | none => exact ⟨state, by simp [Step, Exchange.storeEvent?, Effect, pending], shows'⟩
    | some upload' => simp [held, pending, Holds] at upload
  | some open' =>
    cases pending : state.upload with
    | none => simp [held, pending, Holds] at upload
    | some upload' =>
      rw [held, pending] at upload
      obtain ⟨same, underway, whole⟩ := upload
      refine ⟨{ state.set upload'.path (some open'.data) with upload := none }, ?_,
        fun other => ?_, trivial, shows'.honest⟩
      · simp only [Step, Exchange.storeEvent?, Effect, pending]
        refine ⟨open'.data, fun complete => whole complete.2 fun sent mem => ?_, rfl⟩
        rw [complete.1, List.map_eq_nil_iff] at underway
        simp [underway] at mem
      · rw [ObjectMap.get?_insert, shows'.objects, same, set_objects_apply]

/-- Aborting an upload is a step. -/
theorem step_abortUpload (shows : store.Shows state) :
    ∃ state', Step ⟨.abortUpload, store.abortUpload.1⟩ state state' ∧
      store.abortUpload.2.Shows state' :=
  step_guarded (fun reply => ⟨.abortUpload, reply⟩) shows
    (fun _ shows' => ⟨_, rfl, shows'.objects, trivial, shows'.honest⟩) fun _ _ _ _ _ => rfl

/-- Beginning to send a part is a step. If the part will be lost, its bytes do not matter any more.

**Proof sketch.** By whether the part is planned to be lost. If it is, not all parts of the upload can
be acknowledged, so that nothing is claimed of its bytes any more; if not, its bytes come after the
others. -/
theorem shows_beginPart (shows : store.Shows state) (part : Part) (data : Bytes) :
    (store.beginPart part data).Shows { state with upload := state.upload.map (·.begin part data) } := by
  obtain ⟨entered, alike, works | ⟨error, fails, _⟩⟩ :=
    store.guarded_cases .sendPart "part" s!"{data.length}" fun store =>
      (.ok (), { store with
        upload := store.upload.map fun upload => { upload with data := upload.data ++ data } })
  · have shows' := shows.of_alike alike
    have upload := shows'.upload
    rw [beginPart, works]
    refine ⟨shows'.objects, ?_, shows'.honest⟩
    cases held : entered.upload <;> cases pending : state.upload <;> rw [held, pending] at upload
    · trivial
    · exact upload
    · exact upload
    · obtain ⟨same, underway, whole⟩ := upload
      refine ⟨same, by simp [underway, PendingUpload.begin], fun unbroken all => ?_⟩
      simp only [List.forall_mem_append] at all
      exact congrArg (· ++ data) (whole unbroken all.1)
  -- the part will be lost: the error waits for the part to be waited for
  · have shows' := shows.of_alike alike
    have upload := shows'.upload
    rw [beginPart, fails]
    refine ⟨shows'.objects, ?_, shows'.honest⟩
    cases held : entered.upload <;> cases pending : state.upload <;> rw [held, pending] at upload
    · simp [Holds]
    · exact upload.elim
    · exact upload.elim
    · obtain ⟨same, underway, whole⟩ := upload
      simp only [Option.map_some]
      refine ⟨same, by simp [underway, PendingUpload.begin], fun unbroken all => ?_⟩
      exact nomatch all (part, .error error) (by simp)

/-- Ending the sending of a part is a step.

**Proof sketch.** By the reply that was put aside for the part when it was begun; with an error the
upload counts as broken, and nothing is claimed of its bytes. -/
theorem step_endPart (shows : store.Shows state) (part : Part) :
    ∃ state', Step ⟨.endPart part, (store.endPart part).1⟩ state state' ∧
      (store.endPart part).2.Shows state' := by
  have upload := shows.upload
  have erased := map_fst_takeFirst part store.sending
  cases outcome : (takeFirst part store.sending).1.getD (.ok ()) with
  | ok done =>
    have ended : (store.endPart part).1 = .ok done := outcome
    rw [ended]
    refine ⟨_, rfl, shows.objects, ?_, shows.honest⟩
    change Holds (takeFirst part store.sending).2 store.upload _
    cases held : store.upload <;> cases pending : state.upload <;> rw [held, pending] at upload
    · trivial
    · exact upload
    · exact upload
    · obtain ⟨same, underway, whole⟩ := upload
      refine ⟨same, by rw [erased, underway]; rfl, fun unbroken all => ?_⟩
      exact whole unbroken (forall_of_takeFirst outcome all)
  | error error =>
    have ended : (store.endPart part).1 = .error error := outcome
    rw [ended]
    refine ⟨_, rfl, shows.objects, ?_, shows.honest⟩
    change Holds (takeFirst part store.sending).2 store.upload _
    cases held : store.upload <;> cases pending : state.upload <;> rw [held, pending] at upload
    · trivial
    · exact upload
    · exact upload
    · obtain ⟨same, underway, _⟩ := upload
      exact ⟨same, by rw [erased, underway]; rfl, nofun⟩

/-! ### The service at work -/

/-- Nothing but objects and the log may differ. -/
structure Served (store store' : FaultyStore) : Prop where
  upload : store'.upload = store.upload
  sending : store'.sending = store.sending
  fetching : store'.fetching = store.fetching
  plan : store'.plan = store.plan

/-- A store differs in nothing from itself. -/
theorem Served.refl (store : FaultyStore) : store.Served store := ⟨rfl, rfl, rfl, rfl⟩

/-- Where only the log differs, no more than objects and log do. -/
theorem Alike.served (alike : store.Alike store') : store.Served store' :=
  ⟨alike.upload, alike.sending, alike.fetching, alike.plan⟩

/-- Where no more differs twice in a row, no more differs in all. -/
theorem Served.trans {store'' : FaultyStore} (h : store.Served store') (h' : store'.Served store'') :
    store.Served store'' :=
  ⟨h'.upload.trans h.upload, h'.sending.trans h.sending, h'.fetching.trans h.fetching,
    h'.plan.trans h.plan⟩

/-- What the service does may change any object, and nothing else. -/
theorem Shows.of_served (shows : store.Shows state) (served : store.Served store') :
    store'.Shows { state with objects := store'.objects.get? } where
  objects _ := rfl
  upload := by rw [served.sending, served.upload]; exact shows.upload
  honest := by rw [Honest, served.plan]; exact shows.honest

/-- A call that works on a store does to it what the work does. -/
theorem served_guarded (store : FaultyStore)
    (worked : ∀ entered : FaultyStore, entered.Served (work entered).2) :
    store.Served (store.guarded kind location details work).2 := by
  obtain ⟨entered, alike, works | ⟨error, fails, _⟩⟩ := store.guarded_cases kind location details work
  · rw [works]
    exact alike.served.trans (worked entered)
  · rw [fails]
    exact alike.served

/-- A call that only looks at a store leaves it as it is. -/
theorem alike_guarded (store : FaultyStore)
    (looked : ∀ entered : FaultyStore, (work entered).2 = entered) :
    store.Alike (store.guarded kind location details work).2 := by
  obtain ⟨entered, alike, works | ⟨error, fails, _⟩⟩ := store.guarded_cases kind location details work
  · rw [works, looked]
    exact alike
  · rw [fails]
    exact alike

/-- The service puts an object and leaves the rest of the store to its user. -/
theorem served_putObject (store : FaultyStore) (key : String) (data : Bytes) :
    store.Served (World.putObject store key data).2 := by
  unfold World.putObject
  split
  · exact .refl store
  · exact served_guarded store fun _ => ⟨rfl, rfl, rfl, rfl⟩

/-- The service reads an object and leaves the rest of the store to its user. -/
theorem served_getObject (store : FaultyStore) (key : String) :
    store.Served (World.getObject store key).2 := by
  unfold World.getObject
  split
  · exact .refl store
  · exact served_guarded store .refl

/-- So it does with an object of its script. -/
theorem served_putScripted (store : FaultyStore) (vectorKey : String) (object : ScriptedObject) :
    store.Served (World.putScripted store vectorKey object).2 := by
  cases object with
  | data key bytes => exact served_putObject store key bytes
  | reversed key =>
    have got := served_getObject store vectorKey
    rw [World.putScripted]
    rcases fetched : World.getObject store vectorKey with ⟨failure | bytes, store'⟩ <;>
      rw [fetched] at got
    · exact got
    · exact got.trans (served_putObject store' key _)

end FaultyStore

/-! ### Worlds -/

namespace World

variable {σ : Type} {world : World σ} {state : StoreState}

/-- Nothing but the objects, the service and the clock may differ. -/
structure Keeps (world world' : World σ) : Prop where
  store : world.store.Served world'.store
  corpus : world'.corpus = world.corpus

/-- Submitting a job leaves store and corpus as they are. -/
theorem keeps_submit (world : World σ) (job : BuildJob) : world.Keeps (world.submit job).2 := by
  unfold submit
  dsimp only
  split <;> exact ⟨.refl _, rfl⟩

/-- The work of the service changes nothing of the store but objects, and leaves the corpus as it is. -/
theorem keeps_perform (world : World σ) (script : ScriptedReply) :
    world.Keeps (world.perform script).2 := by
  unfold perform
  dsimp only
  split
  · exact ⟨.refl _, rfl⟩
  · cases script.object with
    | none =>
      dsimp only
      split <;> exact ⟨.refl _, rfl⟩
    | some object =>
      have stored := FaultyStore.served_putScripted world.store
        ((world.service.submitted.getLast?.map BuildJob.vectorKey).getD "") object
      dsimp only [onStore]
      split
      · exact ⟨stored, rfl⟩
      · split <;> exact ⟨stored, rfl⟩

/-- What the service does when it is asked for a status may change any object. -/
theorem keeps_status (world : World σ) (jobId : String) (deadline : Nat) :
    world.Keeps (world.status jobId deadline).2 := by
  unfold status
  dsimp only
  split
  · exact ⟨.refl _, rfl⟩
  · rename_i script rest _
    split
    · exact ⟨.refl _, rfl⟩
    · obtain ⟨stored, same⟩ := keeps_perform (pass { world with service := _ } script.delay) script
      exact ⟨stored, same⟩

/-- The local builder changes neither store nor corpus. -/
theorem same_buildLocally (world : World σ) (request : BuildRequest) :
    (world.buildLocally request).2.store = world.store ∧
      (world.buildLocally request).2.corpus = world.corpus := by
  unfold buildLocally
  dsimp only
  split
  · split <;> exact ⟨rfl, rfl⟩
  · exact ⟨rfl, rfl⟩

variable [Cursor σ]

/-- **Each answer of a world in memory is a step that the promises allow.** -/
theorem step_answer (shows : world.store.Shows state) (call : Call) :
    ∃ state', Step ⟨call, (answer call world).1⟩ state state' ∧
      (answer call world).2.store.Shows state' := by
  cases call with
  | head path => exact FaultyStore.step_head shows path
  | put path data => exact FaultyStore.step_put shows path data
  | delete path => exact FaultyStore.step_delete shows path
  | openUpload path => exact FaultyStore.step_openUpload shows path
  | beginPart part data => exact ⟨_, rfl, FaultyStore.shows_beginPart shows part data⟩
  | endPart part => exact FaultyStore.step_endPart shows part
  | completeUpload => exact FaultyStore.step_completeUpload shows
  | abortUpload => exact FaultyStore.step_abortUpload shows
  | submit job => exact ⟨_, by exact rfl, shows.of_served (keeps_submit world job).store⟩
  | status jobId deadline =>
    exact ⟨_, by exact rfl, shows.of_served (keeps_status world jobId deadline).store⟩
  | get path => exact ⟨state, rfl, shows.of_alike (FaultyStore.alike_guarded _ fun _ => rfl)⟩
  | list path => exact ⟨state, rfl, shows.of_alike (FaultyStore.alike_guarded _ fun _ => rfl)⟩
  | beginRange path start finish =>
    have shows' := shows.of_alike
      (FaultyStore.alike_enter world.store .getRange (path.text ++ s!" {start}-{finish}"))
    exact ⟨state, rfl, shows'.objects, shows'.upload, shows'.honest⟩
  | endRange path start finish => exact ⟨state, rfl, shows.objects, shows.upload, shows.honest⟩
  | buildLocally request => exact ⟨state, rfl, (same_buildLocally world request).1.symm ▸ shows⟩
  | _ => exact ⟨state, rfl, shows⟩

/-- The corpus of a world in memory stays what it is. -/
theorem corpus_answer (world : World σ) (call : Call) : (answer call world).2.corpus = world.corpus := by
  cases call with
  | submit job => exact (keeps_submit world job).corpus
  | status jobId deadline => exact (keeps_status world jobId deadline).corpus
  | buildLocally request => exact (same_buildLocally world request).2
  | _ => rfl

/-- What the store of a world in memory says to be there is there. -/
theorem affirms_answer (shows : world.store.Shows state) (call : Call) :
    state.Affirms ⟨call, (answer call world).1⟩ := by
  cases call with
  | head path => exact FaultyStore.affirms_head shows path
  | _ => trivial

/-- **Every program has a run in a world in memory, and its store keeps the promises.** -/
theorem exists_follows {α : Type} (program : Program α) (world : World σ)
    (idle : world.store.upload = none) (honest : world.store.Honest) :
    ∃ after, Dialogue.Run program (program.transcript answer world) (world.play program).1 ∧
      FollowsTruly world.store.shown (program.transcript answer world) after ∧
      (world.play program).2.store.Shows after := by
  have start : world.store.Shows world.store.shown := ⟨fun _ => rfl, by rw [idle]; trivial, honest⟩
  have simulated (call : Call) (world : World σ) (state : StoreState) (shows : world.store.Shows state) :
      ∃ state', (Step ⟨call, (answer call world).1⟩ state state' ∧
        state.Affirms ⟨call, (answer call world).1⟩) ∧
        (answer call world).2.store.Shows state' := by
    obtain ⟨state', step, shows'⟩ := step_answer shows call
    exact ⟨state', ⟨step, affirms_answer shows call⟩, shows'⟩
  obtain ⟨after, follows, shows⟩ :
    ∃ after, FollowsTruly world.store.shown (program.transcript answer world)
      after ∧ (world.play program).2.store.Shows after :=
    Dialogue.exists_through_transcript (fun (world : World σ) state => world.store.Shows state) simulated
      program start
  exact ⟨after, Dialogue.run_transcript answer program world, follows, shows⟩

/-! ### A small world -/

/-- A small world with an empty store: two vectors of one element each, and a service that has a graph
of three bytes ready as soon as it is asked. -/
def small (plan : List PlannedFault) : World MemoryCursor where
  corpus := MemoryCorpus.toCorpus ⟨1, [(0, [0]), (1, [1])]⟩
  store := { plan := plan }
  service := {
    replies := [{
      object := some (.data "graph" [7, 8, 9])
      reply := fun _ => some {
        status := .completed
        result := some { bucketName := "", graphKey := "graph" } } }] }

/-- The container of the small world, with parts of one vector. -/
def smallArea : StagingArea := ⟨"c", true, ⟨4, 2, 2⟩⟩

/-- Settings with which the small world is worth a remote build. -/
def smallSettings : BuildSettings := { enabled := true, container := "c", sizeThreshold := 0 }

/-- The request for the graph of the small world. -/
def smallRequest : BuildRequest where
  field := { name := "f", dimension := 1 }
  buildUnit := "u"
  shape := { dimension := 1, liveCount := 2 }
  totalLiveDocs := 2

end World

end GraphOffload
