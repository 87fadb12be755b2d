import GraphOffload.Proofs.Runs.Traces
import GraphOffload.Storage.ObjectMap
import Mathlib.Data.List.Induction
import Mathlib.Data.Set.BooleanAlgebra
import Mathlib.Data.Set.Function
import Mathlib.Order.CompletePartialOrder

/-!
# Programs that share their objects

Several programs run side by side on the same objects. Apart from these each of them has surroundings
of its own: its corpus, its service, its sink, its clock, and the failures that are in store for it.
They take turns in any order, one call at a time. If nothing that one of them does reaches what
another one depends on, each of them runs as it does alone.

## Main definitions

* `GraphOffload.SharedHandler.DependsOn`, `GraphOffload.SharedHandler.Spares` : which objects a call
  depends on, and which ones it leaves alone.
* `GraphOffload.SharedHandler.StaysWithin` : a call has to do with the objects of an area only.
* `GraphOffload.Surroundings` : surroundings in which a call on the store does no more than it says.
* `GraphOffload.Session` : a program in the middle of its run.
* `GraphOffload.Surroundings.alone` : a session that runs alone.
* `GraphOffload.together` : sessions that take turns.

## Main results

* `GraphOffload.Surroundings.ahead_alone` : a session that is left alone passes what was ahead of it.
* `GraphOffload.together_eq_alone` : sessions that keep out of each other's way run as they do alone.
-/

namespace GraphOffload

/-! ### Calls on shared objects -/

namespace Call

/-- The paths of the objects that a call is on, when there is an open upload under a path. -/
def touched (target : Option ObjectPath) : Call → Set ObjectPath
  | .head path | .put path _ | .get path | .delete path | .openUpload path => {path}
  | .beginRange path _ _ | .endRange path _ _ => {path}
  | .beginPart .. | .endPart _ | .completeUpload | .abortUpload => {path | target = some path}
  | _ => ∅

/-- The call is on no objects but those that it names. A list tells of all objects, and while the
service is called it may work on any of them. -/
def IsConfined : Call → Prop
  | .list _ | .submit _ | .status .. => False
  | _ => True

end Call

/-- Who answers the calls of a program, with a state of its own, working on objects that others work on
as well. -/
abbrev SharedHandler (σ : Type) := (call : Call) → σ × ObjectMap → call.Reply × (σ × ObjectMap)

namespace SharedHandler

variable {σ : Type} (handle : SharedHandler σ)

/-- What a call comes to, for its caller and for an area, depends on no objects but those of the
area. -/
def DependsOn (area : Set ObjectPath) (call : Call) (own : σ) (objects : ObjectMap) : Prop :=
  ∀ objects' : ObjectMap, Set.EqOn objects'.get? objects.get? area →
    (handle call (own, objects')).1 = (handle call (own, objects)).1 ∧
    (handle call (own, objects')).2.1 = (handle call (own, objects)).2.1 ∧
    Set.EqOn (handle call (own, objects')).2.2.get? (handle call (own, objects)).2.2.get? area

/-- A call leaves the objects of another area alone, whatever there is outside of its own. -/
def Spares (area other : Set ObjectPath) (call : Call) (own : σ) (objects : ObjectMap) : Prop :=
  ∀ objects' : ObjectMap, Set.EqOn objects'.get? objects.get? area →
    Set.EqOn (handle call (own, objects')).2.2.get? objects'.get? other

/-- A call depends on the objects of an area only, and changes no others. -/
structure StaysWithin (area : Set ObjectPath) (call : Call) (own : σ) : Prop where
  depends : ∀ objects, handle.DependsOn area call own objects
  spares : ∀ objects, Set.EqOn (handle call (own, objects)).2.2.get? objects.get? areaᶜ

variable {handle} {area larger other : Set ObjectPath} {call : Call} {own : σ}

/-- What stays within an area depends on any larger one only. -/
theorem StaysWithin.dependsOn (stays : handle.StaysWithin area call own) (inside : area ⊆ larger)
    (objects : ObjectMap) : handle.DependsOn larger call own objects := by
  intro objects' agree
  obtain ⟨reply_eq, own_eq, area_eq⟩ := stays.depends objects objects' (agree.mono inside)
  refine ⟨reply_eq, own_eq, fun path mem => ?_⟩
  by_cases within : path ∈ area
  · exact area_eq within
  · rw [stays.spares objects' within, stays.spares objects within]
    exact agree mem

/-- It leaves alone what lies outside. -/
theorem StaysWithin.spares_of_disjoint (stays : handle.StaysWithin area call own)
    (apart : Disjoint area other) (objects : ObjectMap) : handle.Spares larger other call own objects :=
  fun objects' _ => (stays.spares objects').mono (Set.subset_compl_iff_disjoint_left.mpr apart)

end SharedHandler

/-- Surroundings of a program that shares its objects. -/
structure Surroundings (σ : Type) where
  handle : SharedHandler σ
  /-- The path of the upload in parts that is open. -/
  target : σ → Option ObjectPath
  /-- An upload is open only if it was opened. -/
  opened : ∀ call own objects path, target (handle call (own, objects)).2.1 = some path →
    target own = some path ∨ call = .openUpload path
  /-- A call depends on the objects that it is on, and changes no others. -/
  staysWithin : ∀ call own, call.IsConfined → handle.StaysWithin (call.touched (target own)) call own
  /-- It changes none at all unless it is one that writes. -/
  unwritten : ∀ call own objects, call.IsConfined → ¬ call.Writes →
    (handle call (own, objects)).2.2.get? = objects.get?

/-- A program in the middle of its run: what it is still to do, the state of its surroundings, and what
has passed so far. -/
structure Session (σ α : Type) where
  program : Program α
  own : σ
  trace : Trace := []

namespace Surroundings

variable {σ α : Type} (surroundings : Surroundings σ) {area other : Set ObjectPath} {call : Call}
  {own : σ} {objects objects' : ObjectMap} {session : Session σ α}

/-- A call spares any area that has none of the objects which it changes. -/
theorem spares_of_disjoint (confined : call.IsConfined)
    (apart : call.Writes → Disjoint (call.touched (surroundings.target own)) other) :
    surroundings.handle.Spares area other call own objects := by
  by_cases writes : call.Writes
  · exact (surroundings.staysWithin call own confined).spares_of_disjoint (apart writes) objects
  · intro objects' _ path _
    rw [surroundings.unwritten call own objects' confined writes]

/-! ### Turns -/

/-- The next call of a session, if it has not come to its end. -/
def turn (state : Session σ α × ObjectMap) : Session σ α × ObjectMap :=
  match state.1.program with
  | .done _ => state
  | .ask call next =>
    let (reply, own, objects) := surroundings.handle call (state.1.own, state.2)
    (⟨next reply, own, state.1.trace ++ [⟨call, reply⟩]⟩, objects)

/-- What a session is still to pass, if it is left alone. -/
def ahead (state : Session σ α × ObjectMap) : Trace :=
  state.1.program.transcript surroundings.handle (state.1.own, state.2)

/-- How a session will end, if it is left alone. -/
def ending (state : Session σ α × ObjectMap) : α × (σ × ObjectMap) :=
  state.1.program.play surroundings.handle (state.1.own, state.2)

/-- A user whose program is done does nothing with a turn. -/
theorem turn_of_done {value : α} (ended : session.program = .done value) :
    surroundings.turn (session, objects) = (session, objects) := by
  simp only [turn, ended]

/-- With a turn a user makes the next call and gets its reply. -/
theorem turn_of_ask {next : call.Reply → Program α} (asks : session.program = .ask call next) :
    surroundings.turn (session, objects) =
      let (reply, own, objects) := surroundings.handle call (session.own, objects)
      (⟨next reply, own, session.trace ++ [⟨call, reply⟩]⟩, objects) := by
  simp only [turn, asks]

/-- A user whose program is done has no calls ahead. -/
theorem ahead_of_done {value : α} (ended : session.program = .done value) :
    surroundings.ahead (session, objects) = [] := by
  simp only [ahead, ended, Dialogue.transcript]

/-- The call that comes next is the first of those ahead. -/
theorem ahead_of_ask {next : call.Reply → Program α} (asks : session.program = .ask call next) :
    surroundings.ahead (session, objects) =
      ⟨call, (surroundings.handle call (session.own, objects)).1⟩ ::
        surroundings.ahead (surroundings.turn (session, objects)) := by
  rw [surroundings.turn_of_ask asks, ahead, asks]
  rfl

/-- With a turn, the first of what is to pass has passed. -/
theorem trace_append_ahead_turn (state : Session σ α × ObjectMap) :
    (surroundings.turn state).1.trace ++ surroundings.ahead (surroundings.turn state) =
      state.1.trace ++ surroundings.ahead state := by
  obtain ⟨session, objects⟩ := state
  cases asks : session.program with
  | done value => rw [surroundings.turn_of_done asks]
  | ask call next =>
    rw [surroundings.ahead_of_ask asks]
    simp [surroundings.turn_of_ask asks]

/-- A turn takes the first of the calls ahead. -/
theorem ahead_turn (state : Session σ α × ObjectMap) :
    surroundings.ahead (surroundings.turn state) = (surroundings.ahead state).tail := by
  obtain ⟨session, objects⟩ := state
  cases asks : session.program with
  | done value =>
    rw [surroundings.turn_of_done asks, surroundings.ahead_of_done asks]
    rfl
  | ask call next => rw [surroundings.ahead_of_ask asks, List.tail_cons]

/-- The end stays the same. -/
theorem ending_turn (state : Session σ α × ObjectMap) :
    surroundings.ending (surroundings.turn state) = surroundings.ending state := by
  obtain ⟨session, objects⟩ := state
  cases asks : session.program with
  | done value => rw [surroundings.turn_of_done asks]
  | ask call next =>
    rw [surroundings.turn_of_ask asks, ending, ending, asks]
    rfl

/-- With the same objects in the area that the next call depends on, a turn is the same. -/
theorem turn_eq_of_dependsOn (agree : Set.EqOn objects'.get? objects.get? area)
    (depends : ∀ call next, session.program = .ask call next →
      surroundings.handle.DependsOn area call session.own objects) :
    (surroundings.turn (session, objects')).1 = (surroundings.turn (session, objects)).1 ∧
      Set.EqOn (surroundings.turn (session, objects')).2.get?
        (surroundings.turn (session, objects)).2.get? area := by
  cases asks : session.program with
  | done value =>
    rw [surroundings.turn_of_done asks, surroundings.turn_of_done asks]
    exact ⟨rfl, agree⟩
  | ask call next =>
    obtain ⟨reply_eq, own_eq, objects_eq⟩ := depends call next asks objects' agree
    rw [surroundings.turn_of_ask asks, surroundings.turn_of_ask asks]
    dsimp only
    rw [reply_eq, own_eq]
    exact ⟨rfl, objects_eq⟩

/-- A turn leaves alone what the next call spares. -/
theorem turn_eqOn_of_spares (agree : Set.EqOn objects'.get? objects.get? area)
    (spares : ∀ call next, session.program = .ask call next →
      surroundings.handle.Spares area other call session.own objects) :
    Set.EqOn (surroundings.turn (session, objects')).2.get? objects'.get? other := by
  cases asks : session.program with
  | done value =>
    rw [surroundings.turn_of_done asks]
    exact Set.eqOn_refl _ _
  | ask call next =>
    rw [surroundings.turn_of_ask asks]
    exact spares call next asks objects' agree

/-- What is open after a turn was open before it, or the turn opened it. -/
theorem target_turn {path : ObjectPath} {state : Session σ α × ObjectMap}
    (target : surroundings.target (surroundings.turn state).1.own = some path) :
    surroundings.target state.1.own = some path ∨
      ∃ reply, ⟨.openUpload path, reply⟩ ∈ surroundings.ahead state := by
  obtain ⟨session, objects⟩ := state
  cases asks : session.program with
  | done value =>
    rw [surroundings.turn_of_done asks] at target
    exact .inl target
  | ask call next =>
    rw [surroundings.turn_of_ask asks] at target
    rcases surroundings.opened call session.own objects path target with earlier | rfl
    · exact .inl earlier
    · rw [surroundings.ahead_of_ask asks]
      exact .inr ⟨_, List.mem_cons_self⟩

/-! ### Running alone -/

/-- A session after so many turns without anyone else. -/
def alone (start : Session σ α × ObjectMap) : Nat → Session σ α × ObjectMap
  | 0 => start
  | n + 1 => surroundings.turn (alone start n)

variable (start : Session σ α × ObjectMap)

/-- **A session that is left alone passes what was ahead of it**, call by call. -/
theorem ahead_alone (n : Nat) :
    surroundings.ahead (surroundings.alone start n) = (surroundings.ahead start).drop n := by
  induction n with
  | zero => rfl
  | succ n ih => rw [alone, ahead_turn, ih, List.tail_drop]

/-- A user alone makes the calls ahead, one with each turn. -/
theorem trace_alone (n : Nat) :
    (surroundings.alone start n).1.trace = start.1.trace ++ (surroundings.ahead start).take n := by
  have whole : (surroundings.alone start n).1.trace ++
      surroundings.ahead (surroundings.alone start n) = start.1.trace ++ surroundings.ahead start := by
    induction n with
    | zero => rfl
    | succ n ih => rw [alone, trace_append_ahead_turn, ih]
  rw [ahead_alone] at whole
  refine List.append_cancel_right (whole.trans ?_)
  rw [List.append_assoc, List.take_append_drop]

/-- What a user alone will end with does not change with the turns. -/
theorem ending_alone (n : Nat) :
    surroundings.ending (surroundings.alone start n) = surroundings.ending start := by
  induction n with
  | zero => rfl
  | succ n ih => rw [alone, ending_turn, ih]

variable {start}

/-- When all has passed, a session has come to its end. -/
theorem alone_of_length_le {n : Nat} (all : (surroundings.ahead start).length ≤ n) :
    let (session, objects) := surroundings.alone start n
    session.program = .done (surroundings.ending start).1 ∧
      (session.own, objects) = (surroundings.ending start).2 := by
  have none_left := surroundings.ahead_alone start n
  have same := surroundings.ending_alone start n
  rw [List.drop_of_length_le all] at none_left
  generalize surroundings.alone start n = state at none_left same
  obtain ⟨session, objects⟩ := state
  cases asks : session.program with
  | done value =>
    rw [ending, asks] at same
    rw [← same]
    exact ⟨asks, rfl⟩
  | ask call next =>
    rw [surroundings.ahead_of_ask asks] at none_left
    exact nomatch none_left

/-- The call that a session is about to make is one of those that were ahead of it. -/
theorem exists_mem_of_asks {n : Nat} {next : call.Reply → Program α}
    (asks : (surroundings.alone start n).1.program = .ask call next) :
    ∃ reply, ⟨call, reply⟩ ∈ surroundings.ahead start := by
  have later := surroundings.ahead_alone start n
  rw [surroundings.ahead_of_ask asks] at later
  have next : _ ∈ (surroundings.ahead start).drop n := later ▸ List.mem_cons_self
  exact ⟨_, List.mem_of_mem_drop next⟩

/-- What every call keeps true of the surroundings stays true. -/
theorem keeps_alone (keeps : σ → Prop) (first : keeps start.1.own)
    (kept : ∀ call own objects, keeps own → keeps (surroundings.handle call (own, objects)).2.1)
    (n : Nat) : keeps (surroundings.alone start n).1.own := by
  induction n with
  | zero => exact first
  | succ n ih =>
    rw [alone]
    cases asks : (surroundings.alone start n).1.program with
    | done value =>
      rw [surroundings.turn_of_done asks]
      exact ih
    | ask call next =>
      rw [surroundings.turn_of_ask asks]
      exact kept call _ _ ih

/-- What is open was opened by the session, or was open at the start. -/
theorem target_alone {n : Nat} {path : ObjectPath}
    (target : surroundings.target (surroundings.alone start n).1.own = some path) :
    surroundings.target start.1.own = some path ∨
      ∃ reply, ⟨.openUpload path, reply⟩ ∈ surroundings.ahead start := by
  induction n with
  | zero => exact .inl target
  | succ n ih =>
    rcases surroundings.target_turn target with earlier | ⟨reply, mem⟩
    · exact ih earlier
    · rw [ahead_alone] at mem
      exact .inr ⟨reply, List.mem_of_mem_drop mem⟩

end Surroundings

/-! ### Running side by side -/

section

variable {ι : Type} [DecidableEq ι] {σ : ι → Type} {α : Type}
  (surroundings : (i : ι) → Surroundings (σ i))

/-- One of several sessions takes a turn. -/
def turnOf (state : ((i : ι) → Session (σ i) α) × ObjectMap) (i : ι) :
    ((i : ι) → Session (σ i) α) × ObjectMap :=
  let (session, objects) := (surroundings i).turn (state.1 i, state.2)
  (Function.update state.1 i session, objects)

/-- Several sessions after they took turns. -/
def together (start : ((i : ι) → Session (σ i) α) × ObjectMap) (turns : List ι) :
    ((i : ι) → Session (σ i) α) × ObjectMap :=
  turns.foldl (turnOf surroundings) start

variable {surroundings} {sessions : (i : ι) → Session (σ i) α} {objects : ObjectMap}
  {area : ι → Set ObjectPath}

/-- **Sessions that keep out of each other's way run as they do alone.** Each has an area that all its
calls depend on, and none of the others changes an object there.

**Proof sketch.** Induction on the turns. The session whose turn it is finds its area as it does alone,
so that its call comes to the same. The others find theirs as they left it. -/
theorem together_eq_alone
    (depends : ∀ i n call next,
      let (session, objects) := (surroundings i).alone (sessions i, objects) n
      session.program = .ask call next →
        (surroundings i).handle.DependsOn (area i) call session.own objects)
    (spares : ∀ i j, i ≠ j → ∀ n call next,
      let (session, objects) := (surroundings i).alone (sessions i, objects) n
      session.program = .ask call next →
        (surroundings i).handle.Spares (area i) (area j) call session.own objects)
    (turns : List ι) (i : ι) :
    let (session, alone) := (surroundings i).alone (sessions i, objects) (turns.count i)
    (together surroundings (sessions, objects) turns).1 i = session ∧
      Set.EqOn (together surroundings (sessions, objects) turns).2.get? alone.get? (area i) := by
  induction turns using List.reverseRecOn generalizing i with
  | nil => exact ⟨rfl, Set.eqOn_refl _ _⟩
  | append_singleton turns k ih =>
    have last : together surroundings (sessions, objects) (turns ++ [k]) =
        turnOf surroundings (together surroundings (sessions, objects) turns) k := by
      rw [together, List.foldl_append]
      rfl
    rw [last, List.count_append]
    generalize together surroundings (sessions, objects) turns = state at ih
    obtain ⟨session_eq, agree⟩ := ih k
    by_cases same : k = i
    · subst same
      have counted : turns.count k + [k].count k = turns.count k + 1 := by simp
      rw [counted]
      obtain ⟨turn_eq, agree'⟩ := (surroundings k).turn_eq_of_dependsOn agree
        fun call next => depends k (turns.count k) call next
      simp only [turnOf, Function.update_self, Surroundings.alone]
      rw [session_eq]
      exact ⟨turn_eq, agree'⟩
    · have counted : turns.count i + [k].count i = turns.count i := by simp [same]
      rw [counted]
      obtain ⟨session_eq', agree'⟩ := ih i
      have kept := (surroundings k).turn_eqOn_of_spares agree
        fun call next => spares k i same (turns.count k) call next
      simp only [turnOf, Function.update_of_ne (Ne.symm same)]
      rw [session_eq]
      exact ⟨session_eq', kept.trans agree'⟩

end

end GraphOffload
