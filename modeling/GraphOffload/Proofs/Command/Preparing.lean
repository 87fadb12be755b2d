import GraphOffload.Proofs.Command.Serving

/-!
# Preparations of a command

Before a command does its work it reads settings, and opens what the work needs. Whatever it finds
there, no file is changed by it. If something is missing it tells what, and breaks.

## Main definitions

* `GraphOffload.ShellCall.IsQuiet` : a call that leaves files alone.
* `GraphOffload.Command.Prepares` : a program that makes such calls, and may break.

## Main results

* `GraphOffload.Command.run_perform_bind`, `GraphOffload.Command.run_orBroken_bind`,
  `GraphOffload.Command.run_lift_bind` : the runs of a command, step by step.
* `GraphOffload.Command.prepares_settings` : settings are loaded by quiet calls.
-/

namespace GraphOffload

/-- The call neither creates a file nor belongs to a build. -/
def ShellCall.IsQuiet : ShellCall → Prop
  | .createSink _ | .work _ => False
  | _ => True

namespace Command

variable {α β : Type} {trace : ShellTrace}

/-! ### Steps of a command -/

/-- A call has a reply. -/
theorem run_perform_iff {call : ShellCall} {outcome : Except Ending call.Reply} :
    Dialogue.Run (perform call).run trace outcome ↔
      ∃ reply, trace = [⟨call, reply⟩] ∧ outcome = .ok reply := by
  constructor
  · intro run
    obtain ⟨reply, rest, rfl, ended⟩ := Dialogue.run_ask_iff.mp run
    obtain ⟨rfl, rfl⟩ := Dialogue.run_done_iff.mp ended
    exact ⟨reply, rfl, rfl⟩
  · rintro ⟨reply, rfl, rfl⟩
    exact .ask (.done _)

/-- What follows a call goes on with the reply. -/
theorem run_perform_bind {call : ShellCall} {next : call.Reply → Running β} {outcome : Except Ending β}
    (run : Dialogue.Run (perform call >>= next).run trace outcome) :
    ∃ reply rest, trace = ⟨call, reply⟩ :: rest ∧ Dialogue.Run (next reply).run rest outcome := by
  rcases Dialogue.run_bindCont_iff.mp run with ⟨ending, _, first⟩ | ⟨reply, front, back, rfl, first, later⟩
  · obtain ⟨_, _, same⟩ := run_perform_iff.mp first
    exact nomatch same
  · obtain ⟨_, rfl, same⟩ := run_perform_iff.mp first
    obtain rfl := Except.ok.inj same
    exact ⟨reply, back, rfl, later⟩

/-- Who tells what went wrong ends. -/
theorem run_stop_iff {ending : Ending} {text : String} {outcome : Except Ending α} :
    Dialogue.Run (stop ending text : Running α).run trace outcome ↔
      trace = [⟨.complain text, ()⟩] ∧ outcome = .error ending := by
  constructor
  · intro run
    obtain ⟨_, rest, rfl, ended⟩ := Dialogue.run_ask_iff.mp run
    obtain ⟨rfl, rfl⟩ := Dialogue.run_done_iff.mp ended
    exact ⟨rfl, rfl⟩
  · rintro ⟨rfl, rfl⟩
    exact .ask (.done _)

/-- What follows a value goes on with it; without one the command is broken. -/
theorem run_orBroken_bind {what : String} {known : Except Failure α} {next : α → Running β}
    {outcome : Except Ending β} (run : Dialogue.Run (orBroken what known >>= next).run trace outcome) :
    outcome = .error .broken ∨
      ∃ value, known = .ok value ∧ Dialogue.Run (next value).run trace outcome := by
  cases known with
  | ok value => exact .inr ⟨value, rfl, run⟩
  | error failure =>
    rcases Dialogue.run_bindCont_iff.mp run with ⟨ending, rfl, stops⟩ | ⟨_, _, _, _, stops, _⟩
    · obtain ⟨rfl, same⟩ := run_stop_iff.mp stops
      exact .inl (by rw [Except.error.inj same])
    · exact nomatch (run_stop_iff.mp stops).2

/-- What follows a program that cannot end early goes on with its value. -/
theorem run_lift_bind {program : ShellProgram α} {next : α → Running β} {outcome : Except Ending β}
    (run : Dialogue.Run (ExceptT.lift program >>= next).run trace outcome) :
    ∃ value front back, trace = front ++ back ∧ Dialogue.Run program front value ∧
      Dialogue.Run (next value).run back outcome := by
  rcases Dialogue.run_bindCont_iff.mp run with ⟨ending, _, first⟩ | ⟨value, front, back, rfl, first, later⟩
  · obtain ⟨_, _, _, _, _, ended⟩ := Dialogue.run_bind_iff.mp first
    exact nomatch (Dialogue.run_done_iff.mp ended).2
  · obtain ⟨value', front, _, rfl, lifted, ended⟩ := Dialogue.run_bind_iff.mp first
    obtain ⟨rfl, same⟩ := Dialogue.run_done_iff.mp ended
    obtain rfl := Except.ok.inj same
    exact ⟨value, front, back, by rw [List.append_nil], lifted, later⟩

/-! ### Quiet calls -/

/-- Quiet calls are no calls of a build. -/
theorem work_of_quiet (quiet : ∀ exchange ∈ trace, exchange.1.IsQuiet) :
    ShellTrace.work trace = [] := by
  refine List.filterMap_eq_nil_iff.mpr fun exchange mem => ?_
  have silent := quiet exchange mem
  obtain ⟨call, reply⟩ := exchange
  cases call <;> first | exact silent.elim | rfl

/-- A program that makes quiet calls only, and ends early only if it breaks. -/
def Prepares (program : Running α) : Prop :=
  ∀ trace outcome, Dialogue.Run program.run trace outcome →
    (∀ exchange ∈ trace, exchange.1.IsQuiet) ∧ ∀ ending, outcome = .error ending → ending = .broken

/-- A value at hand is no call. -/
theorem prepares_pure (value : α) : Prepares (pure value : Running α) := by
  intro trace outcome run
  obtain ⟨rfl, rfl⟩ := Dialogue.run_done_iff.mp run
  exact ⟨by simp, nofun⟩

/-- One quiet call prepares. -/
theorem prepares_perform (call : ShellCall) (quiet : call.IsQuiet) : Prepares (perform call) := by
  intro trace outcome run
  obtain ⟨reply, rfl, rfl⟩ := run_perform_iff.mp run
  exact ⟨List.forall_mem_singleton.mpr quiet, nofun⟩

/-- What may be broken is told on the way out, which is quiet. -/
theorem prepares_orBroken (what : String) (known : Except Failure α) :
    Prepares (orBroken what known) := by
  cases known with
  | ok value => exact prepares_pure value
  | error failure =>
    intro trace outcome run
    obtain ⟨rfl, rfl⟩ := run_stop_iff.mp run
    exact ⟨List.forall_mem_singleton.mpr trivial, fun _ same => (Except.error.inj same).symm⟩

/-- Preparations one after the other prepare. -/
theorem Prepares.bind {program : Running α} {next : α → Running β} (first : Prepares program)
    (second : ∀ value, Prepares (next value)) : Prepares (program >>= next) := by
  intro trace outcome run
  rcases Dialogue.run_bindCont_iff.mp run with ⟨ending, rfl, earlier⟩ |
    ⟨value, front, back, rfl, earlier, later⟩
  · obtain ⟨quiet, broken⟩ := first _ _ earlier
    exact ⟨quiet, fun _ same => broken _ (by rw [Except.error.inj same])⟩
  · obtain ⟨quiet, _⟩ := first _ _ earlier
    obtain ⟨quiet', broken⟩ := second value _ _ later
    exact ⟨List.forall_mem_append.mpr ⟨quiet, quiet'⟩, broken⟩

/-- So do as many as there are items. -/
theorem prepares_mapM {items : List α} {program : α → Running β}
    (each : ∀ item, Prepares (program item)) : Prepares (items.mapM program) := by
  induction items with
  | nil => exact prepares_pure []
  | cons item items ih =>
    rw [List.mapM_cons]
    exact (each item).bind fun _ => ih.bind fun _ => prepares_pure _

/-- Settings are loaded by quiet calls. -/
theorem prepares_settings (entries : List DotEnv.Entry) (path : Option String) :
    Prepares (settings entries path) := by
  have looks : Prepares (environment entries) :=
    (prepares_mapM fun name => (prepares_perform (.lookUp name) trivial).bind fun _ =>
      prepares_pure _).bind fun _ => prepares_pure _
  have reads (path : String) : Prepares (settingsFile path) := by
    refine (prepares_perform (.readFile path) trivial).bind fun reply => ?_
    cases reply <;> exact prepares_pure _
  have may_read : Prepares (path.mapM settingsFile) := by
    cases path with
    | none => exact prepares_pure none
    | some path => exact (reads path).bind fun _ => prepares_pure _
  exact looks.bind fun _ => may_read.bind fun _ => prepares_orBroken _ _

end Command

end GraphOffload
