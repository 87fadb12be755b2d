import GraphOffload.Attempting

/-!
# The calls of a program

A program is a tree of calls, so that a property of all calls it can ever make is a property of the
tree: whatever the world replies, no other call is made. In the same way a program that goes on until
some call fails can be described without looking at the order of its calls.

## Main definitions

* `GraphOffload.Dialogue.Within` : every call that a program can make has a property.
* `GraphOffload.Trace` : what passed between a program and the world.
* `GraphOffload.Call.Writes` : the calls that change objects.
* `GraphOffload.Attempting.Within` : the same for a program that may fail.
* `GraphOffload.Attempting.StopsAt` : a program that stops with the first exchange that means a
  failure.

## Main results

* `GraphOffload.Dialogue.Run.forall_within` : in every run of such a program, every call has the
  property.
* `GraphOffload.Attempting.StopsAt.bind` : two programs in sequence stop with the first failing
  exchange if each of them does.

## Design

Both notions are kept by sequencing, so that each is shown of a program by following the program's
text; only loops need an induction. They say nothing of the replies, which are the world's.
-/

namespace GraphOffload

/-! ### Calls with a property -/

namespace Dialogue

variable {Q : Type} {A : Q → Type} {α β : Type} {P P' : Q → Prop}

/-- Every call that the program can make, whatever it is replied, has the property. -/
def Within (P : Q → Prop) : Dialogue A α → Prop
  | done _ => True
  | ask call next => P call ∧ ∀ reply, (next reply).Within P

/-- A program that is done makes no call. -/
@[simp] theorem within_done (value : α) : (done value : Dialogue A α).Within P := trivial

/-- Two programs in sequence make the calls of both. -/
theorem within_bind {program : Dialogue A α} {f : α → Dialogue A β} (first : program.Within P)
    (second : ∀ value, (f value).Within P) : (program >>= f).Within P := by
  induction program with
  | done value => exact second value
  | ask call next ih => exact ⟨first.1, fun reply => ih reply (first.2 reply)⟩

/-- A property of all calls may be weakened. -/
theorem Within.mono {program : Dialogue A α} (h : program.Within P) (weaker : ∀ call, P call → P' call) :
    program.Within P' := by
  induction program with
  | done value => trivial
  | ask call next ih => exact ⟨weaker call h.1, fun reply => ih reply (h.2 reply)⟩

/-- In every run, every call has the property. -/
theorem Run.forall_within {program : Dialogue A α} {trace : List (Exchange A)} {value : α}
    (run : Run program trace value) (within : program.Within P) :
    ∀ exchange ∈ trace, P exchange.1 := by
  induction run with
  | done value => simp
  | ask run ih =>
    intro exchange mem
    rcases List.mem_cons.mp mem with rfl | mem
    · exact within.1
    · exact ih (within.2 _) exchange mem

/-- A run of one call and what follows. -/
theorem run_request_bind_iff {call : Q} {f : A call → Dialogue A β} {trace : List (Exchange A)}
    {result : β} :
    Run (request call >>= f) trace result ↔
      ∃ reply rest, trace = ⟨call, reply⟩ :: rest ∧ Run (f reply) rest result :=
  run_ask_iff

end Dialogue

/-- A call on the world with its reply. -/
abbrev Exchange := Dialogue.Exchange Call.Reply

/-- What passed between a program and the world, in its order. -/
abbrev Trace := List Exchange

/-- The call changes an object of the store, if it succeeds. -/
def Call.Writes : Call → Prop
  | .put .. | .delete _ | .completeUpload => True
  | _ => False

namespace Attempting

variable {α β : Type} {P P' : Call → Prop}

/-- Every call that the program can make, whatever it is replied, has the property. -/
def Within (P : Call → Prop) (program : Attempting α) : Prop :=
  Dialogue.Within P program.run

/-- A value takes no call. -/
theorem within_pure (value : α) : Within P (pure value) := trivial

/-- A failure takes no call. -/
theorem within_throw (failure : Failure) : Within P (throw failure : Attempting α) := trivial

/-- An outcome that is known takes no call. -/
theorem within_ofExcept (outcome : Except Failure α) : Within P (ofExcept outcome) := trivial

/-- An attempt makes one call. -/
theorem within_attempt {call : Call} {toOutcome : call.Reply → Except Failure α} (h : P call) :
    Within P (call.attempt toOutcome) :=
  ⟨h, fun _ => trivial⟩

/-- Two programs in sequence make the calls of both. -/
theorem within_bind {program : Attempting α} {next : α → Attempting β} (first : Within P program)
    (second : ∀ value, Within P (next value)) : Within P (program >>= next) := by
  refine Dialogue.within_bind first fun outcome => ?_
  cases outcome with
  | error failure => trivial
  | ok value => exact second value

/-- A program that goes on after a failure makes the calls of both. -/
theorem within_caught {program : Attempting α} {next : Except Failure α → Program (Except Failure β)}
    (first : Within P program) (second : ∀ outcome, (next outcome).Within P) :
    Within P (program.caught next) :=
  Dialogue.within_bind first second

/-- A property of all calls may be weakened. -/
theorem Within.mono {program : Attempting α} (h : Within P program)
    (weaker : ∀ call, P call → P' call) : Within P' program :=
  Dialogue.Within.mono h weaker

/-- In every run, every call has the property. -/
theorem Run.forall_within {program : Attempting α} {trace : Trace}
    {outcome : Except Failure α} (run : Run program trace outcome) (within : Within P program) :
    ∀ exchange ∈ trace, P exchange.1 :=
  Dialogue.Run.forall_within run within

/-! ### Runs call by call -/

/-- A run that begins with an attempt ends with it or goes on with its value. -/
theorem run_attempt_bind_iff {call : Call} {toOutcome : call.Reply → Except Failure α}
    {next : α → Attempting β} {trace : Trace} {outcome : Except Failure β} :
    Run (call.attempt toOutcome >>= next) trace outcome ↔
      ∃ reply rest, trace = ⟨call, reply⟩ :: rest ∧
        match toOutcome reply with
        | .ok value => Run (next value) rest outcome
        | .error failure => rest = [] ∧ outcome = .error failure := by
  rw [run_bind_iff]
  constructor
  · rintro (⟨failure, rfl, first⟩ | ⟨value, front, back, rfl, first, later⟩)
    · obtain ⟨reply, rfl, means⟩ := run_attempt_iff.mp first
      exact ⟨reply, [], rfl, by simp [← means]⟩
    · obtain ⟨reply, rfl, means⟩ := run_attempt_iff.mp first
      exact ⟨reply, back, rfl, by simpa [← means] using later⟩
  · rintro ⟨reply, rest, rfl, later⟩
    cases means : toOutcome reply with
    | ok value =>
      rw [means] at later
      exact .inr ⟨value, [_], rest, rfl, run_attempt_iff.mpr ⟨reply, rfl, means.symm⟩, later⟩
    | error failure =>
      rw [means] at later
      obtain ⟨rfl, rfl⟩ := later
      exact .inl ⟨failure, rfl, run_attempt_iff.mpr ⟨reply, rfl, means.symm⟩⟩

/-- A run that begins with a call that cannot fail goes on with the reply. -/
theorem run_attempt_ok_bind_iff {call : Call} {next : call.Reply → Attempting β} {trace : Trace}
    {outcome : Except Failure β} :
    Run (call.attempt .ok >>= next) trace outcome ↔
      ∃ reply rest, trace = ⟨call, reply⟩ :: rest ∧ Run (next reply) rest outcome :=
  run_attempt_bind_iff

/-- A listener that is told something has no say. -/
theorem run_notify_bind_iff {event : TransferEvent} {next : Unit → Attempting β} {trace : Trace}
    {outcome : Except Failure β} :
    Run (notify event >>= next) trace outcome ↔
      ∃ rest, trace = ⟨.notify event, ()⟩ :: rest ∧ Run (next ()) rest outcome := by
  refine run_attempt_ok_bind_iff.trans ⟨?_, ?_⟩
  · rintro ⟨_, rest, rfl, later⟩
    exact ⟨rest, rfl, later⟩
  · rintro ⟨rest, rfl, later⟩
    exact ⟨(), rest, rfl, later⟩

/-- Neither has what counts. -/
theorem run_count_bind_iff {measurement : Measurement} {next : Unit → Attempting β} {trace : Trace}
    {outcome : Except Failure β} :
    Run (count measurement >>= next) trace outcome ↔
      ∃ rest, trace = ⟨.count measurement, ()⟩ :: rest ∧ Run (next ()) rest outcome := by
  refine run_attempt_ok_bind_iff.trans ⟨?_, ?_⟩
  · rintro ⟨_, rest, rfl, later⟩
    exact ⟨rest, rfl, later⟩
  · rintro ⟨rest, rfl, later⟩
    exact ⟨(), rest, rfl, later⟩

/-- A value that is known is no call. -/
theorem run_ofExcept_bind_iff {known : Except Failure α} {next : α → Attempting β} {trace : Trace}
    {outcome : Except Failure β} :
    Run (ofExcept known >>= next) trace outcome ↔
      match known with
      | .ok value => Run (next value) trace outcome
      | .error failure => trace = [] ∧ outcome = .error failure := by
  cases known with
  | ok value => exact Iff.rfl
  | error failure => exact Dialogue.run_done_iff

/-! ### The first failing exchange -/

/-- The program goes on while no exchange means a failure, and stops with the first one that does. -/
def StopsAt (failureOf? : Exchange → Option Failure) (program : Attempting α) : Prop :=
  ∀ trace outcome, Run program trace outcome →
    match outcome with
    | .ok _ => ∀ exchange ∈ trace, failureOf? exchange = none
    | .error failure => ∃ front cause, trace = front ++ [cause] ∧ failureOf? cause = some failure ∧
      ∀ exchange ∈ front, failureOf? exchange = none

variable {failureOf? : Exchange → Option Failure}

/-- A value is no failure. -/
theorem stopsAt_pure (value : α) : StopsAt failureOf? (pure value : Attempting α) := by
  intro trace outcome run
  obtain ⟨rfl, rfl⟩ := run_pure_iff.mp run
  simp

/-- An attempt whose outcomes are what its exchanges mean stops where it fails. -/
theorem stopsAt_attempt {call : Call} {toOutcome : call.Reply → Except Failure α}
    (ok : ∀ reply value, toOutcome reply = .ok value → failureOf? ⟨call, reply⟩ = none)
    (error : ∀ reply failure, toOutcome reply = .error failure →
      failureOf? ⟨call, reply⟩ = some failure) :
    StopsAt failureOf? (call.attempt toOutcome) := by
  intro trace outcome run
  obtain ⟨reply, rfl, rfl⟩ := run_attempt_iff.mp run
  cases h : toOutcome reply with
  | ok value => simpa using ok reply value h
  | error failure => exact ⟨[], _, rfl, error reply failure h, by simp⟩

/-- A call that cannot fail is no failure. -/
theorem stopsAt_attempt_ok {call : Call} (ok : ∀ reply, failureOf? ⟨call, reply⟩ = none) :
    StopsAt failureOf? (call.attempt .ok) :=
  stopsAt_attempt (fun reply _ _ => ok reply) fun _ _ means => nomatch means

/-- Two programs in sequence stop with the first failing exchange if each of them does. -/
theorem StopsAt.bind {program : Attempting α} {next : α → Attempting β}
    (first : StopsAt failureOf? program) (second : ∀ value, StopsAt failureOf? (next value)) :
    StopsAt failureOf? (program >>= next) := by
  intro trace outcome run
  rcases run_bind_iff.mp run with ⟨failure, rfl, earlier⟩ | ⟨value, front, back, rfl, earlier, later⟩
  · exact first _ _ earlier
  · have clean := first _ _ earlier
    have after := second value _ _ later
    cases outcome with
    | ok result =>
      intro exchange mem
      rcases List.mem_append.mp mem with mem | mem
      · exact clean exchange mem
      · exact after exchange mem
    | error failure =>
      obtain ⟨middle, cause, rfl, means, before⟩ := after
      refine ⟨front ++ middle, cause, by simp, means, fun exchange mem => ?_⟩
      rcases List.mem_append.mp mem with mem | mem
      · exact clean exchange mem
      · exact before exchange mem

end Attempting

end GraphOffload
