import GraphOffload.Proofs.Storage.Simulation

/-!
# Ranges of a store in memory

A store in memory decides what a range will bring when its fetching begins, and gives it when it
ends. It refuses a range that ends where it starts, so that no program gets an empty one from it.

## Main definitions

* `GraphOffload.FaultyStore.FetchesForward` : none of the ranges that a store is about to give is
  empty.

## Main results

* `GraphOffload.World.refusesEmptyRanges_transcript` : no range that a world in memory gives is empty.
-/

namespace GraphOffload

namespace FaultyStore

variable {store : FaultyStore} {path : ObjectPath} {start finish : Nat}

/-! ### Fetching -/

/-- A range that a store is about to give ends after it starts. -/
def FetchesForward (store : FaultyStore) : Prop :=
  ∀ fetched ∈ store.fetching, ∀ data, fetched.2 = .ok data → fetched.1.2.1 < fetched.1.2.2

/-- A slice is given only if it is asked for forward. -/
theorem lt_of_slice {data bytes : Bytes} (given : slice data start finish = .ok bytes) :
    start < finish := by
  unfold slice at given
  split at given
  · exact nomatch given
  · omega

/-- What is taken was in the list, and so is what is left. -/
theorem mem_of_takeFirst {κ α : Type} [DecidableEq κ] {key : κ} (entries : List (κ × α)) :
    (∀ value, (takeFirst key entries).1 = some value → (key, value) ∈ entries) ∧
      (takeFirst key entries).2 ⊆ entries := by
  induction entries with
  | nil => exact ⟨nofun, List.Subset.refl _⟩
  | cons first rest ih =>
    obtain ⟨other, value⟩ := first
    by_cases same : other = key
    · simp [takeFirst, same]
    · simp only [takeFirst, same, if_false]
      exact ⟨fun found taken => List.mem_cons_of_mem _ (ih.1 found taken), List.cons_subset_cons _ ih.2⟩

/-- A range that begins to be fetched will be given only if it is asked for forward. -/
theorem FetchesForward.beginRange (forward : store.FetchesForward) (path : ObjectPath)
    (start finish : Nat) :
    (store.beginRange path start finish).FetchesForward := by
  have entered := alike_enter store .getRange (path.text ++ s!" {start}-{finish}")
  unfold FaultyStore.beginRange
  generalize store.enter .getRange (path.text ++ s!" {start}-{finish}") = entry at entered ⊢
  obtain ⟨planned, store'⟩ := entry
  intro fetched mem data given
  rcases List.mem_append.mp mem with mem | mem
  · exact forward fetched (entered.fetching ▸ mem) data given
  · obtain rfl := List.mem_singleton.mp mem
    dsimp only at given
    split at given
    · exact nomatch given
    · cases held : store'.lookUp path with
      | error error =>
        rw [held] at given
        exact nomatch given
      | ok object =>
        rw [held] at given
        cases cut : slice object start finish with
        | error error => simp [bind, Except.bind, cut] at given
        | ok bytes => exact lt_of_slice cut

/-- The range that is given was asked for forward, and so are those that are left. -/
theorem FetchesForward.endRange (forward : store.FetchesForward) (path : ObjectPath)
    (start finish : Nat) :
    (∀ data, (store.endRange path start finish).1 = .ok data → start < finish) ∧
      (store.endRange path start finish).2.FetchesForward := by
  obtain ⟨taken, left⟩ := @mem_of_takeFirst _ _ _ (path, start, finish) store.fetching
  refine ⟨fun data given => ?_, fun fetched mem => forward fetched (left mem)⟩
  have outcome :
      (takeFirst (path, start, finish) store.fetching).1.getD (.error (missing path)) = .ok data :=
    given
  cases found : (takeFirst (path, start, finish) store.fetching).1 with
  | none =>
    rw [found] at outcome
    exact nomatch outcome
  | some reply =>
    rw [found, Option.getD_some] at outcome
    exact forward _ (taken reply found) data outcome

/-- A call fetches nothing if its work does not. -/
theorem fetching_guarded {α : Type} {kind : StoreCallKind} {location details : String}
    {work : FaultyStore → Except StoreError α × FaultyStore} (store : FaultyStore)
    (worked : ∀ entered : FaultyStore, (work entered).2.fetching = entered.fetching) :
    (store.guarded kind location details work).2.fetching = store.fetching := by
  obtain ⟨entered, alike, works | ⟨error, fails, _⟩⟩ := store.guarded_cases kind location details work
  · rw [works, worked, alike.fetching]
  · rw [fails, alike.fetching]

/-- Sending a part stops no fetch. -/
theorem fetching_beginPart (store : FaultyStore) (part : Part) (data : Bytes) :
    (store.beginPart part data).fetching = store.fetching := by
  unfold beginPart
  exact fetching_guarded store fun _ => by rfl

/-- Completing an upload stops no fetch. -/
theorem fetching_completeUpload (store : FaultyStore) :
    store.completeUpload.2.fetching = store.fetching := by
  unfold completeUpload
  refine fetching_guarded store fun entered => ?_
  cases entered.upload <;> rfl

end FaultyStore

namespace World

variable {σ : Type} [Cursor σ] {world : World σ}

/-- An answer that gives a range gives one that was asked for forward, and none that is given later is
empty.

**Proof sketch.** By the call. Only two calls have to do with ranges that are being fetched: one begins
such a fetch, and one gives what it brought. All others leave them as they are. -/
theorem forward_answer (forward : world.store.FetchesForward) (call : Call) :
    (∀ range, Exchange.range? ⟨call, (answer call world).1⟩ = some range → range.start < range.finish) ∧
      (answer call world).2.store.FetchesForward := by
  have kept {world' : World σ} (same : world'.store.fetching = world.store.fetching) :
      world'.store.FetchesForward := by
    rw [FaultyStore.FetchesForward, same]
    exact forward
  cases call with
  | beginRange path start finish => exact ⟨nofun, forward.beginRange path start finish⟩
  | endRange path start finish =>
    obtain ⟨given, left⟩ := forward.endRange path start finish
    refine ⟨fun range fetched => ?_, left⟩
    cases reply : (world.store.endRange path start finish).1 with
    | error error =>
      have answered : (answer (.endRange path start finish) world).1 = .error error := reply
      rw [answered] at fetched
      exact nomatch fetched
    | ok data =>
      have answered : (answer (.endRange path start finish) world).1 = .ok data := reply
      rw [answered] at fetched
      obtain rfl := Option.some.inj fetched
      exact given data reply
  | submit job => exact ⟨nofun, kept (keeps_submit world job).store.fetching⟩
  | status jobId deadline => exact ⟨nofun, kept (keeps_status world jobId deadline).store.fetching⟩
  | buildLocally request =>
    exact ⟨nofun, kept (congrArg FaultyStore.fetching (same_buildLocally world request).1)⟩
  | beginPart part data => exact ⟨nofun, kept (FaultyStore.fetching_beginPart world.store part data)⟩
  | completeUpload => exact ⟨nofun, kept (FaultyStore.fetching_completeUpload world.store)⟩
  | head | get | list => exact ⟨nofun, kept (FaultyStore.fetching_guarded _ fun _ => rfl)⟩
  | put | delete | openUpload | abortUpload =>
    refine ⟨nofun, kept ?_⟩
    simp only [answer, onStore, FaultyStore.put, FaultyStore.delete, FaultyStore.openUpload,
      FaultyStore.abortUpload]
    exact FaultyStore.fetching_guarded _ fun _ => by rfl
  | _ => exact ⟨nofun, forward⟩

/-- **No range that a world in memory gives is empty**, whatever the program and the planned faults.
-/
theorem refusesEmptyRanges_transcript {α : Type} (program : Program α) (world : World σ)
    (idle : world.store.fetching = []) :
    Trace.RefusesEmptyRanges (program.transcript answer world) := by
  have given : ∀ exchange ∈ program.transcript answer world, ∀ range,
      Exchange.range? exchange = some range → range.start < range.finish :=
    Dialogue.forall_transcript (fun world : World σ => world.store.FetchesForward)
      (fun call _ forward => forward_answer forward call) program
      (by simp [FaultyStore.FetchesForward, idle])
  intro range mem
  obtain ⟨exchange, came, fetched⟩ := List.mem_filterMap.mp mem
  exact given exchange came range fetched

end World

end GraphOffload
