import GraphOffload.Call

/-!
# Programs that may fail

## Main definitions

* `GraphOffload.Attempting.ofExcept` : a failure or value that is known without a call.
* `GraphOffload.Attempting.caught` : a program that goes on after a failure.

## Main results

* `GraphOffload.Attempting.run_bind_iff` : a run of two programs in sequence ends with the failure of the
  first, or is a run of both.
-/

namespace GraphOffload.Attempting

variable {α β : Type}

/-- A failure or value that is known without a call. -/
def ofExcept (outcome : Except Failure α) : Attempting α := ExceptT.mk (pure outcome)

/-- A program that goes on with the outcome of another one, whether it failed or not. -/
def caught (program : Attempting α) (next : Except Failure α → Program (Except Failure β)) :
    Attempting β :=
  ExceptT.mk (program.run >>= next)

/-- Tells the listener of a transfer. -/
def notify (event : TransferEvent) : Attempting Unit := (Call.notify event).attempt .ok

/-- Counts. -/
def count (measurement : Measurement) : Attempting Unit := (Call.count measurement).attempt .ok

/-! ### Runs -/

/-- The exchanges of a program that may fail, and its outcome. -/
abbrev Run (program : Attempting α) (trace : List (Dialogue.Exchange Call.Reply))
    (outcome : Except Failure α) : Prop :=
  Dialogue.Run program.run trace outcome

/-- A program that knows its outcome makes no call. -/
theorem run_ofExcept_iff {known outcome : Except Failure α}
    {trace : List (Dialogue.Exchange Call.Reply)} :
    Run (ofExcept known) trace outcome ↔ trace = [] ∧ outcome = known :=
  Dialogue.run_done_iff

/-- A program that is done makes no call. -/
theorem run_pure_iff {value : α} {outcome : Except Failure α}
    {trace : List (Dialogue.Exchange Call.Reply)} :
    Run (pure value) trace outcome ↔ trace = [] ∧ outcome = .ok value :=
  Dialogue.run_done_iff

/-- A program that gives up makes no call. -/
theorem run_throw_iff {failure : Failure} {outcome : Except Failure α}
    {trace : List (Dialogue.Exchange Call.Reply)} :
    Run (throw failure) trace outcome ↔ trace = [] ∧ outcome = .error failure :=
  Dialogue.run_done_iff

/-- An attempt at one call makes it, and its outcome is read off the reply. -/
theorem run_attempt_iff {call : Call} {toOutcome : call.Reply → Except Failure α}
    {outcome : Except Failure α} {trace : List (Dialogue.Exchange Call.Reply)} :
    Run (call.attempt toOutcome) trace outcome ↔
      ∃ reply, trace = [⟨call, reply⟩] ∧ outcome = toOutcome reply := by
  constructor
  · intro run
    obtain ⟨reply, rest, rfl, ended⟩ := Dialogue.run_ask_iff.mp run
    obtain ⟨rfl, rfl⟩ := Dialogue.run_done_iff.mp ended
    exact ⟨reply, rfl, rfl⟩
  · rintro ⟨reply, rfl, rfl⟩
    exact .ask (.done _)

/-- A program with something to follow, whatever its outcome, runs first. -/
theorem run_caught_iff {program : Attempting α} {next : Except Failure α → Program (Except Failure β)}
    {outcome : Except Failure β} {trace : List (Dialogue.Exchange Call.Reply)} :
    Run (program.caught next) trace outcome ↔
      ∃ first front back, trace = front ++ back ∧ Run program front first ∧
        Dialogue.Run (next first) back outcome :=
  Dialogue.run_bind_iff

/-- A run of two programs in sequence ends with the failure of the first, or is a run of both. -/
theorem run_bind_iff {program : Attempting α} {next : α → Attempting β} {outcome : Except Failure β}
    {trace : List (Dialogue.Exchange Call.Reply)} :
    Run (program >>= next) trace outcome ↔
      (∃ failure, outcome = .error failure ∧ Run program trace (.error failure)) ∨
      ∃ value front back, trace = front ++ back ∧ Run program front (.ok value) ∧
        Run (next value) back outcome :=
  Dialogue.run_bindCont_iff

end GraphOffload.Attempting
