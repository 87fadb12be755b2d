import GraphOffload.Proofs.Polling.Course
import GraphOffload.Proofs.Runs.Counters
import Mathlib.Algebra.Order.Floor.Div

/-!
# The budget of a wait

A wait has a time in which it may go on and an interval between its status calls. Whatever the service
does, slow, silent or failing, the wait is over in its time, makes no more calls than fit into it, and
counts each of them.

What a wait ends with is less certain. When its time is up it says so, with the time that passed; but
a service may itself fail with such an error, and then the wait passes it on, however early.

## Main definitions

* `GraphOffload.CallSpan.Follows` : a status call is the next one after another.
* `GraphOffload.Poll.WithinBudget` : a wait keeps to its budget.

## Main results

* `GraphOffload.Poll.length_le_of_isChain` : so many status calls fit into the time of a wait.
* `GraphOffload.Poll.awaitCompletion_withinBudget` : every wait keeps to its budget.
-/

namespace GraphOffload

open Attempting

/-! ### Successive calls -/

/-- A status call is the next one after another: it begins an interval after the end of that one, and
before the deadline. -/
structure CallSpan.Follows (interval deadline : Nat) (call next : CallSpan) : Prop where
  ordered : call.start ≤ call.finish
  start_eq : next.start = call.finish + interval
  start_lt : next.start < deadline

/-! ### Counters -/

namespace Poll

/-- The counter of the status calls that end in one way. -/
def counter (result : PollEnd) : String :=
  Measurement.series "graphlift_status_polls_total" [("result", result.word)]

/-- By how much a trace raises the counters of status calls, all together. -/
def counted (trace : Trace) : Nat :=
  trace.growth (counter .answered) + trace.growth (counter .failed) + trace.growth (counter .timedOut)

section

variable {front rest : Trace}

/-- Without calls nothing is counted. -/
@[simp] theorem counted_nil : counted [] = 0 := rfl

/-- Two traces are counted one after the other. -/
@[simp] theorem counted_append : counted (front ++ rest) = counted front + counted rest := by
  simp only [counted, Trace.growth_append]
  omega

/-- However a status call ends, one of the counters is raised by one. -/
@[simp] theorem counted_polled {result : PollEnd} :
    counted (⟨.count (.polled result), ()⟩ :: rest) = 1 + counted rest := by
  have once : counted [⟨.count (.polled result), ()⟩] = 1 := by
    cases result <;> decide +kernel
  rw [← List.singleton_append, counted_append, once]

/-- The status call itself raises no counter; that is done when it has ended. -/
@[simp] theorem counted_status {jobId : String} {deadline : Nat}
    {reply : Option (Except Failure StatusReply)} :
    counted (⟨.status jobId deadline, reply⟩ :: rest) = counted rest := by
  simp [counted, Trace.raise]

/-- To read the clock raises no counter. -/
@[simp] theorem counted_now {time : Nat} : counted (⟨.now, time⟩ :: rest) = counted rest := by
  simp [counted, Trace.raise]

/-- To sleep raises no counter. -/
@[simp] theorem counted_sleepUntil {instant : Nat} {reply : Unit} :
    counted (⟨.sleepUntil instant, reply⟩ :: rest) = counted rest := by
  simp [counted, Trace.raise]

end

section

variable {settings : BuildSettings} {jobId : String} {begun failed : Nat} {script : StatusScript}
  {watch after : Watch} {trace : Trace} {outcome : Except Failure GraphLocation}

/-! ### The number of calls -/

/-- Between the first and the last of successive calls an interval passes for each call, and the last
one begins before the deadline. -/
theorem mul_length_lt_of_isChain {interval deadline : Nat} {first next : CallSpan}
    {calls : List CallSpan}
    (spaced : (first :: next :: calls).IsChain (CallSpan.Follows interval deadline)) :
    first.start + interval * (calls.length + 1) < deadline := by
  induction calls generalizing first next with
  | nil =>
    obtain ⟨follows, _⟩ := List.isChain_cons_cons.mp spaced
    have ordered := follows.ordered
    have start_eq := follows.start_eq
    have start_lt := follows.start_lt
    simp only [List.length_nil]
    omega
  | cons other calls ih =>
    obtain ⟨follows, later⟩ := List.isChain_cons_cons.mp spaced
    have fits := ih later
    have ordered := follows.ordered
    have start_eq := follows.start_eq
    rw [List.length_cons, Nat.mul_succ]
    omega

/-- So many status calls fit into the time of a wait: one, or one for each interval that begins in
it. -/
theorem length_le_of_isChain {interval timeout : Nat} (positive : 0 < interval) {first : CallSpan}
    {calls : List CallSpan}
    (spaced : (first :: calls).IsChain (CallSpan.Follows interval (first.start + timeout))) :
    (first :: calls).length ≤ max 1 (timeout ⌈/⌉ interval) := by
  cases calls with
  | nil => exact Nat.le_max_left 1 _
  | cons next calls =>
    have fits : interval * (calls.length + 1) < timeout :=
      Nat.lt_of_add_lt_add_left (mul_length_lt_of_isChain spaced)
    have few : ¬ timeout ⌈/⌉ interval ≤ calls.length + 1 := by
      rw [ceilDiv_le_iff_le_smul positive, smul_eq_mul]
      exact Nat.not_le_of_lt fits
    simp only [List.length_cons]
    omega

/-! ### What a course keeps to -/

/-- A wait is over in its time. -/
theorem Course.time_le (course : Course settings jobId begun script failed watch trace outcome after) :
    after.time ≤ begun + settings.pollTimeout := by
  induction course with
  | late open_end => exact le_rfl
  | decided ends answered rules => exact (StatusCall.bounds_of_end? ends).2
  | dozed ends answered open_ late => exact le_rfl
  | again ends answered open_ early rest ih => exact ih

/-- The calls of a wait are successive. -/
theorem Course.isChain (course : Course settings jobId begun script failed watch trace outcome after)
    (in_time : watch.time ≤ begun + settings.pollTimeout) :
    ∃ finish calls, after.calls = watch.calls ++ ⟨watch.time, finish⟩ :: calls ∧
      (⟨watch.time, finish⟩ :: calls).IsChain
        (CallSpan.Follows settings.pollInterval (begun + settings.pollTimeout)) := by
  induction course with
  | late open_end => exact ⟨_, [], rfl, .singleton _⟩
  | decided ends answered rules => exact ⟨_, [], rfl, .singleton _⟩
  | dozed ends answered open_ late => exact ⟨_, [], rfl, .singleton _⟩
  | @again failed finish watch after answer back outcome ends answered open_ early rest ih =>
    obtain ⟨finish', calls, calls_eq, spaced⟩ := ih early.le
    refine ⟨finish, ⟨finish + settings.pollInterval, finish'⟩ :: calls, ?_, ?_⟩
    · rw [calls_eq]
      simp [Watch.call]
    · exact List.isChain_cons_cons.mpr ⟨⟨(StatusCall.bounds_of_end? ends).1, rfl, early⟩, spaced⟩

/-- Each call of a wait is counted once. -/
theorem Course.counted_eq
    (course : Course settings jobId begun script failed watch trace outcome after) :
    after.calls.length = watch.calls.length + counted trace := by
  induction course with
  | late open_end => simp [Watch.call]
  | decided ends answered rules => simp [Watch.call]
  | dozed ends answered open_ late => simp [Watch.call]
  | @again failed finish watch after answer back outcome ends answered open_ early rest ih =>
    have longer : (watch.call finish).calls.length = watch.calls.length + 1 := by simp [Watch.call]
    rw [ih, counted_append]
    simp only [longer, counted_status, counted_polled, counted_now, counted_sleepUntil, counted_nil]
    omega

/-- No reply of the service says that the time is up; who says so is a failed call. -/
theorem eq_error_of_ruling? {answer : Except Failure StatusReply} {id : String} {elapsed : Nat}
    (rules : ruling? settings jobId failed answer = some (.error (.pollTimeout id elapsed))) :
    answer = .error (.pollTimeout id elapsed) := by
  cases answer with
  | error failure =>
    rw [ruling?] at rules
    split at rules
    · rw [Except.error.inj (Option.some.inj rules)]
    · cases rules
  | ok reply =>
    rw [ruling?] at rules
    unfold verdict? at rules
    split at rules
    · split at rules <;> simp at rules
    · simp at rules
    · cases rules

/-- Who says that the time is up does so when it is up, or passes on how the last call failed. -/
theorem Course.timeUp (course : Course settings jobId begun script failed watch trace outcome after)
    {id : String} {elapsed : Nat} (ended : outcome = .error (.pollTimeout id elapsed)) :
    (after.time = begun + settings.pollTimeout ∧ id = jobId ∧ elapsed = settings.pollTimeout) ∨
      ∃ front, trace = front ++
        [⟨.status jobId (begun + settings.pollTimeout), some (.error (.pollTimeout id elapsed))⟩,
          ⟨.count (.polled .failed), ()⟩] := by
  induction course with
  | late open_end =>
    obtain ⟨rfl, rfl⟩ := Failure.pollTimeout.inj (Except.error.inj ended)
    exact .inl ⟨rfl, rfl, rfl⟩
  | decided ends answered rules =>
    obtain rfl := eq_error_of_ruling? (ended ▸ rules)
    exact .inr ⟨[], rfl⟩
  | dozed ends answered open_ late =>
    obtain ⟨rfl, rfl⟩ := Failure.pollTimeout.inj (Except.error.inj ended)
    exact .inl ⟨rfl, rfl, rfl⟩
  | again ends answered open_ early rest ih =>
    rcases ih ended with up | ⟨front, rfl⟩
    · exact .inl up
    · exact .inr ⟨_ ++ front, (List.append_assoc _ _ _).symm⟩

end

/-! ### The budget -/

/-- A wait keeps to its budget: it is over in its time; its status calls are successive and no more than
fit into that time; each of them is counted; and when the wait fails because the time is up, it is up
at that very moment, unless it was the service that said so in answer to the last call. -/
structure WithinBudget (settings : BuildSettings) (jobId : String) (begun : Nat) (trace : Trace)
    (outcome : Except Failure GraphLocation) (after : Watch) : Prop where
  in_time : after.time ≤ begun + settings.pollTimeout
  few : after.calls.length ≤ max 1 (settings.pollTimeout ⌈/⌉ settings.pollInterval)
  at_once : after.calls.head?.map CallSpan.start = some begun
  successive : after.calls.IsChain
    (CallSpan.Follows settings.pollInterval (begun + settings.pollTimeout))
  each_counted : counted trace = after.calls.length
  time_up : ∀ id elapsed, outcome = .error (.pollTimeout id elapsed) →
    (after.time = begun + settings.pollTimeout ∧ id = jobId ∧ elapsed = settings.pollTimeout) ∨
      ∃ front, trace = front ++
        [⟨.status jobId (begun + settings.pollTimeout), some (.error (.pollTimeout id elapsed))⟩,
          ⟨.count (.polled .failed), ()⟩]

/-- **Every wait keeps to its budget.** Whatever becomes of the status calls there is a wait, and every
wait keeps to its budget.

**Proof sketch.** A wait takes its course, along which the time, the calls and the counters are
followed one call after the other. -/
theorem awaitCompletion_withinBudget (settings : BuildSettings) (jobId : String)
    (script : StatusScript) (begun : Nat) (positive : 0 < settings.pollInterval) :
    (∃ trace outcome after, Run (awaitCompletion settings jobId) trace outcome ∧
      Trace.Through script.Step ⟨begun, []⟩ trace after) ∧
    ∀ trace outcome after, Run (awaitCompletion settings jobId) trace outcome →
      Trace.Through script.Step ⟨begun, []⟩ trace after →
        WithinBudget settings jobId begun trace outcome after := by
  refine ⟨exists_run_awaitCompletion settings jobId script ⟨begun, []⟩, ?_⟩
  intro trace outcome after run through
  obtain ⟨polls, rfl, course⟩ := course_of_run run through positive
  obtain ⟨finish, calls, calls_eq, spaced⟩ := course.isChain (Nat.le_add_right begun _)
  simp only [List.nil_append] at calls_eq
  constructor
  case in_time => exact course.time_le
  case few => exact calls_eq ▸ length_le_of_isChain positive spaced
  case at_once => rw [calls_eq]; rfl
  case successive => exact calls_eq ▸ spaced
  case each_counted => simp [course.counted_eq]
  case time_up =>
    intro id elapsed ended
    rcases course.timeUp ended with up | ⟨front, rfl⟩
    · exact .inl up
    · exact .inr ⟨_ :: front, rfl⟩

/-- Settings with a short time for a wait, in which three calls fit. -/
def hasty : BuildSettings where
  pollInterval := 10
  pollTimeout := 25
  maxPollErrors := 0

/-- A service that never answers keeps nobody longer than the time there is. -/
theorem awaitCompletion_withinBudget_silent_service :
    0 < hasty.pollInterval ∧ ∃ trace outcome after, Run (awaitCompletion hasty "j") trace outcome ∧
      Trace.Through (StatusScript.Step fun _ => ⟨none, .error .network⟩) ⟨0, []⟩ trace after ∧
      after.time ≤ 25 ∧ after.calls.length ≤ 3 := by
  obtain ⟨⟨trace, outcome, after, run, through⟩, within⟩ :=
    awaitCompletion_withinBudget hasty "j" (fun _ => ⟨none, .error .network⟩) 0 (by decide)
  have budget := within trace outcome after run through
  have three_fit : max 1 (hasty.pollTimeout ⌈/⌉ hasty.pollInterval) = 3 := by
    rw [Nat.ceilDiv_eq_add_pred_div]
    decide
  exact ⟨by decide, trace, outcome, after, run, through, budget.in_time, three_fit ▸ budget.few⟩

/-- A service whose first answer is that the time is up, after seven milliseconds. -/
def impatient : StatusScript := fun _ => ⟨some 0, .error (.pollTimeout "j" 7)⟩

/-- A wait may say that the time is up when it is not: it passes on what the service says. -/
theorem not_timeUp_only_at_deadline :
    ¬ ∀ (settings : BuildSettings) (jobId : String) (script : StatusScript) (begun : Nat)
      (trace : Trace) (id : String) (elapsed : Nat) (after : Watch), 0 < settings.pollInterval →
      Run (awaitCompletion settings jobId) trace (.error (.pollTimeout id elapsed)) →
      Trace.Through script.Step ⟨begun, []⟩ trace after →
        after.time = begun + settings.pollTimeout ∧ elapsed = settings.pollTimeout := by
  intro always
  obtain ⟨trace, outcome, after, run, through⟩ :=
    exists_run_awaitCompletion hasty "j" impatient ⟨0, []⟩
  obtain ⟨polls, _, course⟩ := course_of_run run through (by decide)
  have at_once : outcome = .error (.pollTimeout "j" 7) := by
    cases course with
    | late open_end => cases open_end
    | decided ends answered rules =>
      subst answered
      exact (Option.some.inj rules).symm
    | dozed ends answered open_ late =>
      subst answered
      cases open_
    | again ends answered open_ early rest =>
      subst answered
      cases open_
  exact absurd (always hasty "j" impatient 0 trace "j" 7 after (by decide) (at_once ▸ run) through).2
    (by decide)

end Poll

end GraphOffload
