import GraphOffload.Proofs.Build.Calls

/-!
# The course of a wait

A wait for a job sees of the world a clock and the service. What becomes of each status call is a
script: after how many milliseconds it ends, if ever, and what it is answered with. The clock moves
while a status call or a sleep lasts, and at no other time.

A wait is then one status call after the other, each but the last followed by a pause. This is the
content of `Course`, which speaks neither of programs nor of a bound on the number of calls; all that
is proved of a wait is proved by induction on it.

## Main definitions

* `GraphOffload.StatusScript` : what becomes of each status call.
* `GraphOffload.Watch` : the time, and the status calls made so far.
* `GraphOffload.StatusScript.Step` : what an exchange does to them.
* `GraphOffload.Poll.ruling?` : what the answer to a status call decides.
* `GraphOffload.Poll.Course` : a wait, one status call after the other.

## Main results

* `GraphOffload.Poll.exists_run_awaitCompletion` : under every script there is a wait.
* `GraphOffload.Poll.course_of_run` : every wait takes its course.
-/

namespace GraphOffload

open Attempting

/-! ### Scripts and clocks -/

/-- What becomes of a status call: after how many milliseconds it ends, if ever, and what it is then
answered with. -/
structure StatusCall where
  delay : Option Nat
  answer : Except Failure StatusReply

/-- When a status call that begins at an instant ends, unless that is after the deadline. -/
def StatusCall.end? (call : StatusCall) (start deadline : Nat) : Option Nat :=
  (call.delay.map (start + ·)).filter (· ≤ deadline)

/-- When a status call began, and when the wait for it was over. -/
structure CallSpan where
  start : Nat
  finish : Nat

/-- The time, and the status calls made so far. -/
structure Watch where
  time : Nat
  calls : List CallSpan := []

/-- A status call that lasts until an instant. -/
def Watch.call (watch : Watch) (finish : Nat) : Watch :=
  ⟨finish, watch.calls ++ [⟨watch.time, finish⟩]⟩

/-- What becomes of each status call of a wait, the first one having number zero. -/
abbrev StatusScript := Nat → StatusCall

/-- What an exchange does to the time and the status calls. A status call is given up at its deadline;
one that ends at that very instant is still answered. -/
def StatusScript.Step (script : StatusScript) : Exchange → Watch → Watch → Prop
  | ⟨.now, time⟩, watch, watch' => time = watch.time ∧ watch' = watch
  | ⟨.sleepUntil instant, _⟩, watch, watch' =>
    watch' = { watch with time := max watch.time instant }
  | ⟨.status _ deadline, reply⟩, watch, watch' =>
    let call := script watch.calls.length
    match call.end? watch.time deadline with
    | some finish => reply = some call.answer ∧ watch' = watch.call finish
    | none => reply = none ∧ watch' = watch.call (max watch.time deadline)
  | _, watch, watch' => watch' = watch

namespace StatusCall

variable {call : StatusCall} {start deadline finish : Nat}

/-- A call that ends in time ends when it has lasted. -/
theorem end?_eq_some_iff :
    call.end? start deadline = some finish ↔
      ∃ delay, call.delay = some delay ∧ start + delay = finish ∧ finish ≤ deadline := by
  simp only [end?, Option.filter_eq_some_iff, Option.map_eq_some_iff, decide_eq_true_eq]
  constructor
  · rintro ⟨⟨delay, lasts, sum⟩, le⟩
    exact ⟨delay, lasts, sum, le⟩
  · rintro ⟨delay, lasts, sum, le⟩
    exact ⟨⟨delay, lasts, sum⟩, le⟩

/-- A call that ends in time does not end before it begins. -/
theorem bounds_of_end? (h : call.end? start deadline = some finish) :
    start ≤ finish ∧ finish ≤ deadline := by
  obtain ⟨delay, _, sum, le⟩ := end?_eq_some_iff.mp h
  omega

end StatusCall

namespace StatusScript

variable {script : StatusScript} {watch after : Watch} {rest : Trace}

/-- Whoever asks for the time is told it. -/
theorem through_now_iff {time : Nat} :
    Trace.Through script.Step watch (⟨.now, time⟩ :: rest) after ↔
      time = watch.time ∧ Trace.Through script.Step watch rest after := by
  constructor
  · rintro ⟨_, ⟨told, same⟩, through⟩
    exact ⟨told, same ▸ through⟩
  · rintro ⟨told, through⟩
    exact ⟨watch, ⟨told, rfl⟩, through⟩

/-- Who sleeps wakes at the instant asked for, or at once if it has passed. -/
theorem through_sleepUntil_iff {instant : Nat} {reply : Unit} :
    Trace.Through script.Step watch (⟨.sleepUntil instant, reply⟩ :: rest) after ↔
      Trace.Through script.Step { watch with time := max watch.time instant } rest after := by
  constructor
  · rintro ⟨_, rfl, through⟩
    exact through
  · intro through
    exact ⟨_, rfl, through⟩

/-- Counting takes no time. -/
theorem through_count_iff {measurement : Measurement} {reply : Unit} :
    Trace.Through script.Step watch (⟨.count measurement, reply⟩ :: rest) after ↔
      Trace.Through script.Step watch rest after := by
  constructor
  · rintro ⟨_, same, through⟩
    exact same ▸ through
  · intro through
    exact ⟨watch, rfl, through⟩

/-- A status call is answered as the script says if it ends in time, and else given up. -/
theorem through_status {jobId : String} {deadline : Nat} {reply : Option (Except Failure StatusReply)}
    (through : Trace.Through script.Step watch (⟨.status jobId deadline, reply⟩ :: rest) after)
    (in_time : watch.time ≤ deadline) :
    (∃ finish, (script watch.calls.length).end? watch.time deadline = some finish ∧
      reply = some (script watch.calls.length).answer ∧
      Trace.Through script.Step (watch.call finish) rest after) ∨
    (script watch.calls.length).end? watch.time deadline = none ∧ reply = none ∧
      Trace.Through script.Step (watch.call deadline) rest after := by
  obtain ⟨called, asked, through⟩ := through
  rw [Step] at asked
  cases ends : (script watch.calls.length).end? watch.time deadline with
  | some finish =>
    rw [ends] at asked
    obtain ⟨answered, rfl⟩ := asked
    exact .inl ⟨finish, rfl, answered, through⟩
  | none =>
    rw [ends, Nat.max_eq_right in_time] at asked
    obtain ⟨given_up, rfl⟩ := asked
    exact .inr ⟨rfl, given_up, through⟩

/-- There is a reply to every call of a wait. -/
theorem exists_step (script : StatusScript) {jobId : String} (call : Call) (polls : call.Polls jobId)
    (watch : Watch) : ∃ reply watch', script.Step ⟨call, reply⟩ watch watch' := by
  cases call with
  | now => exact ⟨watch.time, watch, rfl, rfl⟩
  | sleepUntil instant => exact ⟨(), _, rfl⟩
  | status asked deadline =>
    cases ends : (script watch.calls.length).end? watch.time deadline with
    | some finish =>
      refine ⟨some (script watch.calls.length).answer, watch.call finish, ?_⟩
      simp [Step, ends]
    | none =>
      refine ⟨none, watch.call (max watch.time deadline), ?_⟩
      simp [Step, ends]
  | wallClock => exact ⟨⟨0, 0⟩, watch, rfl⟩
  | freshName => exact ⟨(0 : Ulid), watch, rfl⟩
  | notify | count => exact ⟨(), watch, rfl⟩
  | _ => exact absurd polls id

end StatusScript

namespace Poll

/-! ### Turns -/

/-- What the answer to a status call decides, after `failed` calls in a row that failed; nothing if the
wait goes on. -/
def ruling? (settings : BuildSettings) (jobId : String) (failed : Nat) :
    Except Failure StatusReply → Option (Except Failure GraphLocation)
  | .error failure =>
    if settings.maxPollErrors.toNat < failed + 1 then some (.error failure) else none
  | .ok reply => verdict? jobId reply

/-- The number of calls in a row that failed, when one more was answered. -/
def failedAfter (failed : Nat) : Except Failure StatusReply → Nat
  | .error _ => failed + 1
  | .ok _ => 0

/-- How a status call that was answered is counted. -/
def endOf : Except Failure StatusReply → PollEnd
  | .error _ => .failed
  | .ok _ => .answered

section

variable (settings : BuildSettings) (jobId : String) (begun : Nat) (script : StatusScript)

/-- A wait that began at an instant, from a status call on before which `failed` calls in a row failed:
the time is up while the call lasts, or its answer decides, or the time is up in the pause after it,
or there is another call after the pause. -/
inductive Course : Nat → Watch → Trace → Except Failure GraphLocation → Watch → Prop
  | late {failed : Nat} {watch : Watch}
      (open_end : (script watch.calls.length).end? watch.time (begun + settings.pollTimeout) = none) :
      Course failed watch
        [⟨.status jobId (begun + settings.pollTimeout), none⟩, ⟨.count (.polled .timedOut), ()⟩,
          ⟨.now, begun + settings.pollTimeout⟩]
        (.error (.pollTimeout jobId settings.pollTimeout))
        (watch.call (begun + settings.pollTimeout))
  | decided {failed finish : Nat} {watch : Watch} {answer : Except Failure StatusReply}
      {outcome : Except Failure GraphLocation}
      (ends : (script watch.calls.length).end? watch.time (begun + settings.pollTimeout) = some finish)
      (answered : (script watch.calls.length).answer = answer)
      (rules : ruling? settings jobId failed answer = some outcome) :
      Course failed watch
        [⟨.status jobId (begun + settings.pollTimeout), some answer⟩,
          ⟨.count (.polled (endOf answer)), ()⟩]
        outcome (watch.call finish)
  | dozed {failed finish : Nat} {watch : Watch} {answer : Except Failure StatusReply}
      (ends : (script watch.calls.length).end? watch.time (begun + settings.pollTimeout) = some finish)
      (answered : (script watch.calls.length).answer = answer)
      (open_ : ruling? settings jobId failed answer = none)
      (late : begun + settings.pollTimeout ≤ finish + settings.pollInterval) :
      Course failed watch
        [⟨.status jobId (begun + settings.pollTimeout), some answer⟩,
          ⟨.count (.polled (endOf answer)), ()⟩, ⟨.now, finish⟩,
          ⟨.sleepUntil (begun + settings.pollTimeout), ()⟩, ⟨.now, begun + settings.pollTimeout⟩,
          ⟨.now, begun + settings.pollTimeout⟩]
        (.error (.pollTimeout jobId settings.pollTimeout))
        { watch.call finish with time := begun + settings.pollTimeout }
  | again {failed finish : Nat} {watch after : Watch} {answer : Except Failure StatusReply}
      {back : Trace} {outcome : Except Failure GraphLocation}
      (ends : (script watch.calls.length).end? watch.time (begun + settings.pollTimeout) = some finish)
      (answered : (script watch.calls.length).answer = answer)
      (open_ : ruling? settings jobId failed answer = none)
      (early : finish + settings.pollInterval < begun + settings.pollTimeout)
      (rest : Course (failedAfter failed answer)
        { watch.call finish with time := finish + settings.pollInterval } back outcome after) :
      Course failed watch
        ([⟨.status jobId (begun + settings.pollTimeout), some answer⟩,
          ⟨.count (.polled (endOf answer)), ()⟩, ⟨.now, finish⟩,
          ⟨.sleepUntil (finish + settings.pollInterval), ()⟩,
          ⟨.now, finish + settings.pollInterval⟩] ++ back)
        outcome after

end

variable {settings : BuildSettings} {jobId : String} {begun : Nat} {script : StatusScript}
  {watch after : Watch} {trace : Trace} {outcome : Except Failure GraphLocation}

/-- When the time is up, the failure says how much of it has passed. -/
theorem run_timeUp (run : Run (timeUp jobId begun) trace outcome)
    (through : Trace.Through script.Step watch trace after) :
    trace = [⟨.now, watch.time⟩] ∧ outcome = .error (.pollTimeout jobId (watch.time - begun)) ∧
      after = watch := by
  obtain ⟨time, rfl, rfl⟩ := run_attempt_iff.mp run
  obtain ⟨rfl, rfl⟩ := StatusScript.through_now_iff.mp through
  exact ⟨rfl, rfl, rfl⟩

/-- A pause lasts an interval, or until the deadline if that comes first. -/
theorem run_pause {interval deadline : Nat} {late : Except Failure Bool}
    (run : Run (pause interval deadline) trace late)
    (through : Trace.Through script.Step watch trace after) (in_time : watch.time ≤ deadline) :
    trace = [⟨.now, watch.time⟩, ⟨.sleepUntil (min (watch.time + interval) deadline), ()⟩,
        ⟨.now, min (watch.time + interval) deadline⟩] ∧
      late = .ok (decide (deadline ≤ watch.time + interval)) ∧
      after = { watch with time := min (watch.time + interval) deadline } := by
  obtain ⟨time, rest, rfl, run₁⟩ := run_attempt_ok_bind_iff.mp run
  obtain ⟨rfl, through₁⟩ := StatusScript.through_now_iff.mp through
  obtain ⟨_, rest, rfl, run₂⟩ := run_attempt_ok_bind_iff.mp run₁
  have through₂ := StatusScript.through_sleepUntil_iff.mp through₁
  have wakes : max watch.time (min (watch.time + interval) deadline) =
      min (watch.time + interval) deadline := by omega
  rw [wakes] at through₂
  obtain ⟨time, rfl, rfl⟩ := run_attempt_iff.mp run₂
  obtain ⟨rfl, rfl⟩ := StatusScript.through_now_iff.mp through₂
  have is_late : deadline ≤ min (watch.time + interval) deadline ↔
      deadline ≤ watch.time + interval := by omega
  exact ⟨rfl, by simp only [is_late], rfl⟩

/-- After a pause the wait goes on, unless the deadline comes first: then the time is up.

**Proof sketch.** The pause ends at the earlier of two instants, the end of the interval and the
deadline (`run_pause`), and by which of them it is the wait goes on or not. -/
theorem run_pause_bind_timeUp {deadline : Nat} {next : Attempting GraphLocation}
    (run : Run (do if ← pause settings.pollInterval deadline then timeUp jobId begun else next)
      trace outcome)
    (through : Trace.Through script.Step watch trace after) (in_time : watch.time ≤ deadline) :
    (deadline ≤ watch.time + settings.pollInterval ∧
      trace = [⟨.now, watch.time⟩, ⟨.sleepUntil deadline, ()⟩, ⟨.now, deadline⟩, ⟨.now, deadline⟩] ∧
      outcome = .error (.pollTimeout jobId (deadline - begun)) ∧
      after = { watch with time := deadline }) ∨
    watch.time + settings.pollInterval < deadline ∧
      ∃ back, trace = [⟨.now, watch.time⟩, ⟨.sleepUntil (watch.time + settings.pollInterval), ()⟩,
          ⟨.now, watch.time + settings.pollInterval⟩] ++ back ∧
        Run next back outcome ∧
        Trace.Through script.Step { watch with time := watch.time + settings.pollInterval } back
          after := by
  rcases run_bind_iff.mp run with ⟨failure, _, pausing⟩ | ⟨late, front, back, rfl, pausing, later⟩
  · exact nomatch (run_pause pausing through in_time).2.1
  obtain ⟨middle, through₁, through₂⟩ := Trace.through_append_iff.mp through
  obtain ⟨rfl, is_late, rfl⟩ := run_pause pausing through₁ in_time
  obtain rfl := Except.ok.inj is_late
  by_cases past : deadline ≤ watch.time + settings.pollInterval
  · left
    rw [Nat.min_eq_right past] at through₂ ⊢
    rw [decide_eq_true past, if_pos rfl] at later
    obtain ⟨rfl, rfl, rfl⟩ := run_timeUp later through₂
    exact ⟨past, rfl, rfl, rfl⟩
  · right
    rw [Nat.min_eq_left (Nat.le_of_not_le past)] at through₂ ⊢
    rw [decide_eq_false past, if_neg Bool.false_ne_true] at later
    exact ⟨Nat.lt_of_not_le past, back, rfl, later, through₂⟩

/-- After an answer to a status call it is counted; then it decides, or there is a pause before the
next call.

**Proof sketch.** By the answer: a failure counts against the bound on failures in a row, and a reply is
decided on by its verdict. -/
theorem run_pollFrom_of_answer {calls failed : Nat} {answer : Except Failure StatusReply}
    (run : Run (pollFrom settings jobId begun (calls + 1) failed)
      (⟨.status jobId (begun + settings.pollTimeout), some answer⟩ :: trace) outcome) :
    ∃ rest, trace = ⟨.count (.polled (endOf answer)), ()⟩ :: rest ∧
      match ruling? settings jobId failed answer with
      | some ruling => rest = [] ∧ outcome = ruling
      | none => Run (do
          if ← pause settings.pollInterval (begun + settings.pollTimeout) then timeUp jobId begun
          else pollFrom settings jobId begun calls (failedAfter failed answer)) rest outcome := by
  obtain ⟨reply, rest, same, run₁⟩ := run_attempt_ok_bind_iff.mp run
  obtain ⟨head, rfl⟩ := List.cons.inj same
  obtain rfl := eq_of_heq (Sigma.mk.inj head).2
  cases answer with
  | error failure =>
    obtain ⟨rest, rfl, run₂⟩ := run_count_bind_iff.mp run₁
    refine ⟨rest, rfl, ?_⟩
    by_cases many : settings.maxPollErrors.toNat < failed + 1
    · rw [if_pos many] at run₂
      rw [ruling?, if_pos many]
      exact run_throw_iff.mp run₂
    · rw [if_neg many] at run₂
      rw [ruling?, if_neg many]
      exact run₂
  | ok reply =>
    obtain ⟨rest, rfl, run₂⟩ := run_count_bind_iff.mp run₁
    refine ⟨rest, rfl, ?_⟩
    rw [ruling?]
    cases decided : verdict? jobId reply with
    | some ruling =>
      rw [decided] at run₂
      exact run_ofExcept_iff.mp run₂
    | none =>
      rw [decided] at run₂
      exact run₂

/-- Asking again and again takes its course, if there are calls enough.

**Proof sketch.** Induction on the bound on the number of calls. With every call that is followed by
another one at least a millisecond passes, so that the deadline comes before the bound is reached. -/
theorem course_of_run_pollFrom {calls failed : Nat}
    (run : Run (pollFrom settings jobId begun calls failed) trace outcome)
    (through : Trace.Through script.Step watch trace after) (positive : 0 < settings.pollInterval)
    (in_time : watch.time ≤ begun + settings.pollTimeout)
    (enough : begun + settings.pollTimeout < watch.time + calls) :
    Course settings jobId begun script failed watch trace outcome after := by
  induction calls generalizing failed watch trace with
  | zero => omega
  | succ calls ih =>
    have elapsed : begun + settings.pollTimeout - begun = settings.pollTimeout :=
      Nat.add_sub_cancel_left begun settings.pollTimeout
    obtain ⟨reply, rest, rfl, run₁⟩ := run_attempt_ok_bind_iff.mp run
    rcases StatusScript.through_status through in_time with
      ⟨finish, ends, rfl, through₁⟩ | ⟨open_end, rfl, through₁⟩
    · obtain ⟨le, le'⟩ := StatusCall.bounds_of_end? ends
      obtain ⟨rest, rfl, run₂⟩ := run_pollFrom_of_answer run
      have through₂ := StatusScript.through_count_iff.mp through₁
      cases rules : ruling? settings jobId failed (script watch.calls.length).answer with
      | some ruling =>
        rw [rules] at run₂
        obtain ⟨rfl, rfl⟩ := run₂
        obtain rfl := through₂
        exact .decided ends rfl rules
      | none =>
        rw [rules] at run₂
        rcases run_pause_bind_timeUp run₂ through₂ le' with
          ⟨late, rfl, rfl, rfl⟩ | ⟨early, back, rfl, later, through₃⟩
        · rw [elapsed]
          exact .dozed ends rfl rules late
        · exact .again ends rfl rules early (ih later through₃ early.le (by
            show begun + settings.pollTimeout < finish + settings.pollInterval + calls
            omega))
    · obtain ⟨rest, rfl, run₂⟩ := run_count_bind_iff.mp run₁
      obtain ⟨rfl, rfl, rfl⟩ := run_timeUp run₂ (StatusScript.through_count_iff.mp through₁)
      show Course _ _ _ _ _ _ _ (.error (.pollTimeout jobId (begun + settings.pollTimeout - begun))) _
      rw [elapsed]
      exact .late open_end

/-- **Every wait takes its course.** -/
theorem course_of_run (run : Run (awaitCompletion settings jobId) trace outcome)
    (through : Trace.Through script.Step ⟨begun, []⟩ trace after)
    (positive : 0 < settings.pollInterval) :
    ∃ polls, trace = ⟨.now, begun⟩ :: polls ∧
      Course settings jobId begun script 0 ⟨begun, []⟩ polls outcome after := by
  obtain ⟨time, polls, rfl, run₁⟩ := run_attempt_ok_bind_iff.mp run
  obtain ⟨rfl, through₁⟩ := StatusScript.through_now_iff.mp through
  refine ⟨polls, rfl, course_of_run_pollFrom run₁ through₁ positive (Nat.le_add_right _ _) ?_⟩
  show time + settings.pollTimeout < time + (settings.pollTimeout + UInt32.size)
  exact Nat.add_lt_add_left (Nat.lt_add_of_pos_right (by decide)) time

/-- **Under every script there is a wait.** -/
theorem exists_run_awaitCompletion (settings : BuildSettings) (jobId : String)
    (script : StatusScript) (watch : Watch) :
    ∃ trace outcome after, Run (awaitCompletion settings jobId) trace outcome ∧
      Trace.Through script.Step watch trace after := by
  have polls : (awaitCompletion settings jobId).run.Within (Call.Polls jobId) :=
    within_awaitCompletion settings
  exact Dialogue.exists_run_through script.exists_step polls watch

end Poll

end GraphOffload
