import GraphOffload.Proofs.Storage.SharedStore
import GraphOffload.Proofs.Storage.SharedWorlds

/-!
# Worlds that take turns use one store

Programs that take turns in worlds in memory, on objects that all of them work on, are users of one
shared store. Whatever the order of their turns, what passes is a history of a store that keeps its
promises to each of them, and what each of them has passed at its end is a run of its program.

## Main definitions

* `GraphOffload.Session.ComesFrom` : a session is in the middle of a run of a program.
* `GraphOffload.World.ShowTogether` : worlds with the same objects have what a shared store has.

## Main results

* `GraphOffload.World.follows_together` : turns of worlds in memory are a history of a shared store.
* `GraphOffload.Session.ComesFrom.run` : a session that has come to its end has passed a run.
-/

namespace GraphOffload

open StoreState

/-! ### Sessions in the middle of a run -/

section

variable {σ α : Type} {session : Session σ α} {program : Program α}

/-- The session is in the middle of a run of the program: what it is still to do the program does after
what has passed. -/
def Session.ComesFrom (session : Session σ α) (program : Program α) : Prop :=
  ∀ rest value, Dialogue.Run session.program rest value →
    Dialogue.Run program (session.trace ++ rest) value

/-- A session that has come to its end has passed a run. -/
theorem Session.ComesFrom.run (comes : session.ComesFrom program) {value : α}
    (ended : session.program = .done value) : Dialogue.Run program session.trace value := by
  have run := comes [] value (by rw [ended]; exact .done value)
  rwa [List.append_nil] at run

/-- After a turn a session is still in the middle of a run. -/
theorem Surroundings.comesFrom_turn (surroundings : Surroundings σ) {objects : ObjectMap}
    (comes : session.ComesFrom program) :
    (surroundings.turn (session, objects)).1.ComesFrom program := by
  cases asks : session.program with
  | done value =>
    rw [surroundings.turn_of_done asks]
    exact comes
  | ask call next =>
    rw [surroundings.turn_of_ask asks]
    intro rest value run
    have earlier := comes _ value (by rw [asks]; exact .ask run)
    rwa [List.append_cons] at earlier

variable {ι : Type} [DecidableEq ι] {τ : ι → Type} {surroundings : (i : ι) → Surroundings (τ i)}

/-- So it is after any number of turns of any sessions. -/
theorem comesFrom_together {state : ((i : ι) → Session (τ i) α) × ObjectMap} {programs : ι → Program α}
    (comes : ∀ user, (state.1 user).ComesFrom (programs user)) (turns : List ι) (user : ι) :
    ((together surroundings state turns).1 user).ComesFrom (programs user) := by
  induction turns generalizing state with
  | nil => exact comes user
  | cons first rest ih =>
    refine ih fun other => ?_
    by_cases is_first : other = first
    · obtain rfl := is_first
      simp only [turnOf, Function.update_self]
      exact (surroundings other).comesFrom_turn (comes other)
    · simp only [turnOf, Function.update_of_ne is_first]
      exact comes other

end

/-! ### Steps of a shared store -/

namespace SharedState

variable {ι : Type} [DecidableEq ι] {user other : ι}

/-- The store after a call that has left one of its users with a state. -/
def update (s : SharedState ι) (user : ι) (state : StoreState) : SharedState ι :=
  ⟨state.objects, Function.update s.upload user state.upload⟩

/-- A user sees the state that the user has made. -/
@[simp] theorem view_update_self (s : SharedState ι) (state : StoreState) :
    (s.update user state).view user = state := by
  simp only [view, update, Function.update_self]

/-- What one user does leaves the open uploads of the others as they are. -/
@[simp] theorem upload_update_of_ne (s : SharedState ι) (state : StoreState) (differs : other ≠ user) :
    (s.update user state).upload other = s.upload other :=
  Function.update_of_ne differs _ _

end SharedState

/-! ### Turns of worlds in memory -/

namespace World

section

variable {σ : Type} {world : World σ} {objects : ObjectMap} {state : StoreState}

/-- An answer of a world that works on objects of others is a step that the promises allow, and true. -/
theorem step_share [Cursor σ] (shows : (world.store.withObjects objects).Shows state) {call : Call}
    {reply : call.Reply} {own : World σ} {objects' : ObjectMap}
    (answered : share call (world, objects) = (reply, own, objects')) :
    ∃ state', Step ⟨call, reply⟩ state state' ∧ state.Affirms ⟨call, reply⟩ ∧
      (own.store.withObjects objects').Shows state' := by
  cases answered
  have shows' : (world.withObjects objects).store.Shows state := shows
  obtain ⟨state', step, shown⟩ := step_answer shows' call
  exact ⟨state', step, affirms_answer shows' call, shown⟩

/-- To a world whose turn it is not, other objects are all that is new. -/
theorem shows_withObjects {objects' : ObjectMap} {state' : StoreState}
    (shows : (world.store.withObjects objects).Shows state)
    (same : ∀ path, objects'.get? path = state'.objects path) (kept : state'.upload = state.upload) :
    (world.store.withObjects objects').Shows state' where
  objects := same
  upload := by rw [kept]; exact shows.upload
  honest := shows.honest

end

variable {ι α : Type} [DecidableEq ι] {σ : ι → Type} [∀ i, Cursor (σ i)]
  {state : ((i : ι) → Session (World (σ i)) α) × ObjectMap} {s : SharedState ι}

/-- Worlds in memory that work on the same objects have what a shared store has. -/
structure ShowTogether (state : ((i : ι) → Session (World (σ i)) α) × ObjectMap) (s : SharedState ι) :
    Prop where
  objects : ∀ path, state.2.get? path = s.objects path
  stores : ∀ user, ((state.1 user).own.store.withObjects state.2).Shows (s.view user)

/-- With a turn a session passes a step of the shared store, or it has come to its end before.

**Proof sketch.** The session asks its world, which shows a step of its own store (`step_share`). That
step is one of the shared store, as the objects are the same and the other open uploads are left alone.
-/
theorem step_turnOf (shown : ShowTogether state s) (user : ι) :
    let after := turnOf (fun _ => surroundings) state user
    after = state ∨ ∃ exchange s', SharedState.Step user exchange s s' ∧ ShowTogether after s' ∧
      (after.1 user).trace = (state.1 user).trace ++ [exchange] ∧
      ∀ other, other ≠ user → (after.1 other).trace = (state.1 other).trace := by
  obtain ⟨sessions, objects⟩ := state
  cases asks : (sessions user).program with
  | done value =>
    refine .inl ?_
    simp only [turnOf, surroundings.turn_of_done asks, Function.update_eq_self]
  | ask call next =>
    rcases answered : share call ((sessions user).own, objects) with ⟨reply, own, objects'⟩
    have turned : turnOf (fun _ => surroundings) (sessions, objects) user = (Function.update sessions user
        ⟨next reply, own, (sessions user).trace ++ [⟨call, reply⟩]⟩, objects') := by
      rw [turnOf, surroundings.turn_of_ask asks]
      simp only [surroundings, answered]
    obtain ⟨state', step, affirms, shows⟩ := step_share (shown.stores user) answered
    rw [turned]
    refine .inr ⟨⟨call, reply⟩, s.update user state', ⟨?_, affirms, fun other differs => ?_⟩,
      ⟨shows.objects, fun other => ?_⟩, ?_, fun other differs => ?_⟩
    · rw [s.view_update_self]
      exact step
    · exact s.upload_update_of_ne state' differs
    · dsimp only
      by_cases is_user : other = user
      · obtain rfl := is_user
        rw [Function.update_self, s.view_update_self]
        exact shows
      · rw [Function.update_of_ne is_user]
        exact shows_withObjects (shown.stores other) shows.objects (s.upload_update_of_ne state' is_user)
    · dsimp only
      rw [Function.update_self]
    · dsimp only
      rw [Function.update_of_ne differs]

/-- **What worlds in memory pass when they take turns is a history of a shared store.**

**Proof sketch.** Induction on the turns. The world whose turn it is answers as the store does, with the
objects as the others have left them; to the others nothing but the objects is new. -/
theorem follows_together (shown : ShowTogether state s) (turns : List ι) :
    let after := together (fun _ => surroundings) state turns
    ∃ history s', s.Follows history s' ∧ ShowTogether after s' ∧
      ∀ user, (after.1 user).trace = (state.1 user).trace ++ history.own user := by
  induction turns generalizing state s with
  | nil => exact ⟨[], s, rfl, shown, fun user => (List.append_nil _).symm⟩
  | cons first rest ih =>
    rcases step_turnOf shown first with ended | ⟨exchange, middle, step, shown', own_eq, others⟩
    · obtain ⟨history, s', follows, shown', traces⟩ := ih shown
      refine ⟨history, s', follows, ?_⟩
      rw [together, List.foldl_cons, ended]
      exact ⟨shown', traces⟩
    · obtain ⟨history, s', follows, shown'', traces⟩ := ih shown'
      refine ⟨(first, exchange) :: history, s', ⟨middle, step, follows⟩, shown'', fun user => ?_⟩
      refine (traces user).trans ?_
      by_cases is_first : user = first
      · obtain rfl := is_first
        rw [own_eq, History.own_cons_self, List.append_assoc]
        rfl
      · rw [others user is_first, History.own_cons_of_ne (Ne.symm is_first)]

end World

end GraphOffload
