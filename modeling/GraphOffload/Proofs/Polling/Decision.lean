import GraphOffload.Proofs.Polling.Course

/-!
# What decides a wait

A wait for a job ends with the first thing that decides it: a reply by which the job has come to its
end, one failed call more in a row than is tolerated, or the deadline. This is said here of the script
alone, of which it can be read off when each status call begins and ends.

## Main definitions

* `GraphOffload.StatusScript.Begins`, `GraphOffload.StatusScript.EndsAt` : when a status call begins
  and when it ends.
* `GraphOffload.StatusScript.FailInARow` : so many status calls fail one after the other.
* `GraphOffload.Poll.Verdict` : by which replies a job has come to its end.
* `GraphOffload.Poll.Decides`, `GraphOffload.Poll.DecidesFirst` : what a status call, or the pause
  after it, decides.

## Main results

* `GraphOffload.Poll.Course.decidesFirst` : a wait ends with what is decided first.
* `GraphOffload.Poll.awaitCompletion_decidesFirst` : under every script there is one first decision, and
  every wait ends with it.
-/

namespace GraphOffload

open Attempting

/-! ### When status calls begin and end -/

namespace StatusScript

variable {script : StatusScript} {interval begun number start finish : Nat}

/-- The first status call begins with the wait, and each other one an interval after the end of the one
before it. -/
inductive Begins (script : StatusScript) (interval begun : Nat) : Nat → Nat → Prop
  | first : Begins script interval begun 0 begun
  | next {number start delay : Nat} (before : Begins script interval begun number start)
      (lasts : (script number).delay = some delay) :
      Begins script interval begun (number + 1) (start + delay + interval)

/-- A status call ends at an instant. -/
def EndsAt (script : StatusScript) (interval begun number finish : Nat) : Prop :=
  ∃ start delay, script.Begins interval begun number start ∧ (script number).delay = some delay ∧
    start + delay = finish

/-- Each status call begins at one instant. -/
theorem Begins.unique {start' : Nat} (h : script.Begins interval begun number start)
    (h' : script.Begins interval begun number start') : start = start' := by
  induction h generalizing start' with
  | first => cases h' with | first => rfl
  | next before lasts ih =>
    cases h' with
    | next before' lasts' =>
      obtain rfl := ih before'
      obtain rfl := Option.some.inj (lasts.symm.trans lasts')
      rfl

/-- Each status call ends at one instant. -/
theorem EndsAt.unique {finish' : Nat} (h : script.EndsAt interval begun number finish)
    (h' : script.EndsAt interval begun number finish') : finish = finish' := by
  obtain ⟨start, delay, begins, lasts, rfl⟩ := h
  obtain ⟨start', delay', begins', lasts', rfl⟩ := h'
  obtain rfl := begins.unique begins'
  obtain rfl := Option.some.inj (lasts.symm.trans lasts')
  rfl

/-- A status call of which it is known when it begins ends in time if it ends until the deadline. -/
theorem Begins.end?_eq_some_iff {deadline : Nat} (begins : script.Begins interval begun number start) :
    (script number).end? start deadline = some finish ↔
      script.EndsAt interval begun number finish ∧ finish ≤ deadline := by
  rw [StatusCall.end?_eq_some_iff]
  constructor
  · rintro ⟨delay, lasts, sum, le⟩
    exact ⟨⟨start, delay, begins, lasts, sum⟩, le⟩
  · rintro ⟨⟨start', delay, begins', lasts, sum⟩, le⟩
    obtain rfl := begins.unique begins'
    exact ⟨delay, lasts, sum, le⟩

/-! ### Failures in a row -/

/-- A status call fails. -/
def Fails (script : StatusScript) (number : Nat) : Prop :=
  ∃ failure, (script number).answer = .error failure

/-- The given number of status calls fail one after the other, the last one having the number
`number`. -/
def FailInARow (script : StatusScript) (count number : Nat) : Prop :=
  count ≤ number + 1 ∧ ∀ other ≤ number, number < other + count → script.Fails other

/-- How many status calls before one failed since the last that did not. -/
def failuresBefore (script : StatusScript) : Nat → Nat
  | 0 => 0
  | number + 1 => Poll.failedAfter (script.failuresBefore number) (script number).answer

/-- A call that fails is the only one of a row, or the last one of a longer row. -/
theorem failInARow_succ_succ_iff {count : Nat} :
    script.FailInARow (count + 2) (number + 1) ↔
      script.Fails (number + 1) ∧ script.FailInARow (count + 1) number := by
  constructor
  · rintro ⟨fit, fails⟩
    refine ⟨fails _ le_rfl (by omega), by omega, fun other le near => fails other (by omega) ?_⟩
    omega
  · rintro ⟨last, fit, fails⟩
    refine ⟨by omega, fun other le near => ?_⟩
    rcases Nat.eq_or_lt_of_le le with rfl | lt
    · exact last
    · exact fails other (by omega) (by omega)

/-- A call is the last one of a row of failures if it fails and so did enough calls before it.

**Proof sketch.** Induction on the number of the call; what failed before it is counted from the last
call that did not fail. -/
theorem failInARow_succ_iff {count : Nat} :
    script.FailInARow (count + 1) number ↔
      script.Fails number ∧ count ≤ script.failuresBefore number := by
  induction number generalizing count with
  | zero =>
    constructor
    · rintro ⟨fit, fails⟩
      exact ⟨fails 0 le_rfl (by omega), by simp only [failuresBefore]; omega⟩
    · rintro ⟨fails, few⟩
      simp only [failuresBefore] at few
      refine ⟨by omega, fun other le _ => ?_⟩
      obtain rfl : other = 0 := by omega
      exact fails
  | succ number ih =>
    cases count with
    | zero =>
      constructor
      · rintro ⟨_, fails⟩
        exact ⟨fails _ le_rfl (by omega), Nat.zero_le _⟩
      · rintro ⟨fails, _⟩
        refine ⟨by omega, fun other le near => ?_⟩
        obtain rfl : other = number + 1 := by omega
        exact fails
    | succ count =>
      rw [failInARow_succ_succ_iff, ih, failuresBefore]
      refine and_congr_right fun _ => ?_
      cases answer : (script number).answer with
      | error failure =>
        simp only [Fails, answer, Poll.failedAfter]
        simp
      | ok reply =>
        simp only [Fails, answer, Poll.failedAfter]
        simp

end StatusScript

namespace Poll

/-! ### Decisions -/

/-- By which replies a job has come to its end, and what is then the outcome of the wait for it. -/
inductive Verdict (jobId : String) (reply : StatusReply) : Except Failure GraphLocation → Prop
  | completed {location : GraphLocation} (done : reply.status = .completed)
      (found : reply.result = some location) : Verdict jobId reply (.ok location)
  | missing (done : reply.status = .completed) (nothing : reply.result = none) :
      Verdict jobId reply (.error (.missingResult jobId))
  | failed (broken : reply.status = .failed) :
      Verdict jobId reply
        (.error (.jobFailed jobId (reply.error.getD "service reported failure")))

/-- A reply is decided on as its verdict says. -/
theorem verdict?_eq_some_iff {jobId : String} {reply : StatusReply}
    {outcome : Except Failure GraphLocation} :
    verdict? jobId reply = some outcome ↔ Verdict jobId reply outcome := by
  constructor
  · intro decided
    unfold verdict? at decided
    split at decided
    · rename_i done
      split at decided
      · rename_i location found
        obtain rfl := Option.some.inj decided
        exact .completed done found
      · rename_i nothing
        obtain rfl := Option.some.inj decided
        exact .missing done nothing
    · rename_i broken
      obtain rfl := Option.some.inj decided
      exact .failed broken
    · cases decided
  · intro verdict
    cases verdict with
    | completed done found => simp [verdict?, done, found]
    | missing done nothing => simp [verdict?, done, nothing]
    | failed broken => simp [verdict?, broken, defaultReason]

section

variable (settings : BuildSettings) (jobId : String) (begun : Nat) (script : StatusScript)
  (number : Nat)

/-- What the answer to a status call decides: the end of the job, or a failure of the call itself if it
is one more in a row than is tolerated. -/
inductive Rules : Except Failure GraphLocation → Prop
  | reply {reply : StatusReply} {outcome : Except Failure GraphLocation}
      (answered : (script number).answer = .ok reply) (verdict : Verdict jobId reply outcome) :
      Rules outcome
  | failure {failure : Failure} (answered : (script number).answer = .error failure)
      (many : script.FailInARow (settings.maxPollErrors.toNat + 1) number) :
      Rules (.error failure)

/-- What a status call and the pause after it decide. A call that ends at the deadline is in time; if it
decides nothing, the time is up. -/
inductive Decides : Except Failure GraphLocation → Prop
  | answer {finish : Nat} {outcome : Except Failure GraphLocation}
      (ends : script.EndsAt settings.pollInterval begun number finish)
      (in_time : finish ≤ begun + settings.pollTimeout)
      (rules : Rules settings jobId script number outcome) : Decides outcome
  | call (late : ∀ finish, script.EndsAt settings.pollInterval begun number finish →
      begun + settings.pollTimeout < finish) :
      Decides (.error (.pollTimeout jobId settings.pollTimeout))
  | pause {finish : Nat} (ends : script.EndsAt settings.pollInterval begun number finish)
      (in_time : finish ≤ begun + settings.pollTimeout)
      (undecided : ∀ outcome, ¬ Rules settings jobId script number outcome)
      (late : begun + settings.pollTimeout ≤ finish + settings.pollInterval) :
      Decides (.error (.pollTimeout jobId settings.pollTimeout))

/-- A status call decides, and none before it does. -/
def DecidesFirst (outcome : Except Failure GraphLocation) : Prop :=
  Decides settings jobId begun script number outcome ∧
    ∀ earlier < number, ∀ other, ¬ Decides settings jobId begun script earlier other

end

variable {settings : BuildSettings} {jobId : String} {begun number : Nat} {script : StatusScript}
  {outcome outcome' : Except Failure GraphLocation}

/-- What an answer decides is known from the number of failures before it.

**Proof sketch.** A failure rules if it is one too many in a row, which is what the number of failures
before it says (`StatusScript.failInARow_succ_iff`); a reply rules by its verdict
(`verdict?_eq_some_iff`). -/
theorem ruling?_eq_some_iff :
    ruling? settings jobId (script.failuresBefore number) (script number).answer = some outcome ↔
      Rules settings jobId script number outcome := by
  constructor
  · intro rules
    cases answered : (script number).answer with
    | error failure =>
      rw [answered, ruling?] at rules
      split at rules
      · rename_i many
        obtain rfl := Option.some.inj rules
        refine .failure answered (StatusScript.failInARow_succ_iff.mpr ⟨⟨_, answered⟩, ?_⟩)
        omega
      · cases rules
    | ok reply =>
      rw [answered, ruling?] at rules
      exact .reply answered (verdict?_eq_some_iff.mp rules)
  · intro rules
    cases rules with
    | reply answered verdict =>
      rw [answered, ruling?]
      exact verdict?_eq_some_iff.mpr verdict
    | failure answered many =>
      have few := (StatusScript.failInARow_succ_iff.mp many).2
      rw [answered, ruling?, if_pos (by omega)]

/-- A status call rules for one outcome. -/
theorem Rules.unique (h : Rules settings jobId script number outcome)
    (h' : Rules settings jobId script number outcome') : outcome = outcome' :=
  Option.some.inj ((ruling?_eq_some_iff.mpr h).symm.trans (ruling?_eq_some_iff.mpr h'))

/-- A status call decides for one outcome. -/
theorem Decides.unique (h : Decides settings jobId begun script number outcome)
    (h' : Decides settings jobId begun script number outcome') : outcome = outcome' := by
  cases h with
  | answer ends in_time rules =>
    cases h' with
    | answer ends' in_time' rules' => exact rules.unique rules'
    | call late => exact absurd (late _ ends) (by omega)
    | pause ends' in_time' undecided late => exact absurd rules (undecided _)
  | call late =>
    cases h' with
    | answer ends in_time rules => exact absurd (late _ ends) (by omega)
    | call late' => rfl
    | pause ends in_time undecided late' => rfl
  | pause ends in_time undecided late =>
    cases h' with
    | answer ends' in_time' rules => exact absurd rules (undecided _)
    | call late' => rfl
    | pause ends' in_time' undecided' late' => rfl

/-- There is one first decision at most. -/
theorem DecidesFirst.unique {number' : Nat}
    (h : DecidesFirst settings jobId begun script number outcome)
    (h' : DecidesFirst settings jobId begun script number' outcome') :
    number = number' ∧ outcome = outcome' := by
  rcases Nat.lt_trichotomy number number' with lt | rfl | gt
  · exact absurd h.1 (h'.2 number lt _)
  · exact ⟨rfl, h.1.unique h'.1⟩
  · exact absurd h'.1 (h.2 number' gt _)

/-! ### The first decision -/

/-- Nothing is decided by a call that ended in time and after which there is time for a pause. -/
theorem not_decides {finish : Nat} (ends : script.EndsAt settings.pollInterval begun number finish)
    (open_ : ∀ outcome, ¬ Rules settings jobId script number outcome)
    (early : finish + settings.pollInterval < begun + settings.pollTimeout) :
    ¬ Decides settings jobId begun script number outcome := by
  intro decides
  cases decides with
  | answer ends' in_time rules => exact open_ _ rules
  | call late =>
    have := late finish ends
    omega
  | pause ends' in_time undecided late =>
    obtain rfl := ends.unique ends'
    omega

/-- **A wait ends with what is decided first.**

**Proof sketch.** Induction on the course: as long as it goes on nothing was decided, and the number
of failures in a row is the one that the wait has counted. -/
theorem Course.decidesFirst {failed : Nat} {watch after : Watch} {trace : Trace}
    (course : Course settings jobId begun script failed watch trace outcome after)
    (begins : script.Begins settings.pollInterval begun watch.calls.length watch.time)
    (counted : failed = script.failuresBefore watch.calls.length)
    (undecided : ∀ earlier < watch.calls.length, ∀ other,
      ¬ Decides settings jobId begun script earlier other) :
    ∃ number, DecidesFirst settings jobId begun script number outcome ∧
      after.calls.length = number + 1 := by
  induction course with
  | @late failed watch open_end =>
    refine ⟨watch.calls.length, ⟨.call fun finish ends => ?_, undecided⟩, by simp [Watch.call]⟩
    by_contra in_time
    rw [begins.end?_eq_some_iff.mpr ⟨ends, by omega⟩] at open_end
    cases open_end
  | @decided failed finish watch answer outcome ends answered rules =>
    obtain ⟨ends, in_time⟩ := begins.end?_eq_some_iff.mp ends
    rw [counted, ← answered] at rules
    exact ⟨watch.calls.length, ⟨.answer ends in_time (ruling?_eq_some_iff.mp rules), undecided⟩,
      by simp [Watch.call]⟩
  | @dozed failed finish watch answer ends answered open_ late =>
    obtain ⟨ends, in_time⟩ := begins.end?_eq_some_iff.mp ends
    rw [counted, ← answered] at open_
    refine ⟨watch.calls.length, ⟨.pause ends in_time (fun other rules => ?_) late, undecided⟩,
      by simp [Watch.call]⟩
    rw [ruling?_eq_some_iff.mpr rules] at open_
    cases open_
  | @again failed finish watch after answer back outcome ends answered open_ early rest ih =>
    obtain ⟨ends, in_time⟩ := begins.end?_eq_some_iff.mp ends
    rw [counted, ← answered] at open_
    -- the call has decided nothing, neither by its answer nor by the pause after it
    have unruled : ∀ other, ¬ Rules settings jobId script watch.calls.length other := by
      intro other rules
      rw [ruling?_eq_some_iff.mpr rules] at open_
      cases open_
    have longer : (watch.call finish).calls.length = watch.calls.length + 1 := by simp [Watch.call]
    apply ih
    · obtain ⟨start, delay, begins', lasts, rfl⟩ := ends
      show script.Begins settings.pollInterval begun (watch.call (start + delay)).calls.length
        (start + delay + settings.pollInterval)
      rw [longer]
      exact begins'.next lasts
    · show failedAfter failed answer = script.failuresBefore (watch.call finish).calls.length
      rw [longer, StatusScript.failuresBefore, answered, counted]
    · intro earlier lt other
      have lt : earlier < (watch.call finish).calls.length := lt
      rw [longer] at lt
      rcases Nat.lt_succ_iff_lt_or_eq.mp lt with lt | rfl
      · exact undecided earlier lt other
      · exact not_decides ends unruled early

/-- Only by two words does a service say that a job has come to its end. -/
theorem Verdict.word {jobId word : String} {reply : StatusReply}
    (verdict : Verdict jobId reply outcome) (said : reply.status = .ofWord word) :
    Text.lower word = "completed" ∨ Text.lower word = "failed" := by
  have ends : JobStatus.ofWord word = .completed ∨ JobStatus.ofWord word = .failed := by
    rw [← said]
    cases verdict with
    | completed done found => exact .inl done
    | missing done nothing => exact .inl done
    | failed broken => exact .inr broken
  unfold JobStatus.ofWord at ends
  by_contra other
  obtain ⟨not_completed, not_failed⟩ := not_or.mp other
  simp only [not_completed, not_failed, if_false] at ends
  split_ifs at ends <;> simp at ends

/-- **A wait ends with the first decision.** Whatever becomes of the status calls, there is one first
decision: the reply by which the job has come to its end, one failed call more in a row than is
tolerated, or the deadline. There is a wait, and every wait ends with that decision, at the status call
that brings it or in the pause after it. No word of the service but two ends a wait.

**Proof sketch.** Some wait there is, and it takes its course; so a decision is made. Every wait ends
with one, and there is only one. -/
theorem awaitCompletion_decidesFirst (settings : BuildSettings) (jobId : String)
    (script : StatusScript) (begun : Nat) (positive : 0 < settings.pollInterval) :
    (∃ number outcome, DecidesFirst settings jobId begun script number outcome ∧
      (∃ trace after, Run (awaitCompletion settings jobId) trace outcome ∧
        Trace.Through script.Step ⟨begun, []⟩ trace after) ∧
      ∀ trace outcome' after, Run (awaitCompletion settings jobId) trace outcome' →
        Trace.Through script.Step ⟨begun, []⟩ trace after →
          outcome' = outcome ∧ after.calls.length = number + 1) ∧
    ∀ reply word outcome, reply.status = .ofWord word → Verdict jobId reply outcome →
      Text.lower word = "completed" ∨ Text.lower word = "failed" := by
  refine ⟨?_, fun reply word outcome said verdict => verdict.word said⟩
  have ends_first : ∀ trace outcome after, Run (awaitCompletion settings jobId) trace outcome →
      Trace.Through script.Step ⟨begun, []⟩ trace after →
        ∃ number, DecidesFirst settings jobId begun script number outcome ∧
          after.calls.length = number + 1 := by
    intro trace outcome after run through
    obtain ⟨polls, _, course⟩ := course_of_run run through positive
    exact course.decidesFirst .first rfl fun earlier lt => absurd lt (Nat.not_lt_zero earlier)
  obtain ⟨trace, outcome, after, run, through⟩ :=
    exists_run_awaitCompletion settings jobId script ⟨begun, []⟩
  obtain ⟨number, first, _⟩ := ends_first trace outcome after run through
  refine ⟨number, outcome, first, ⟨trace, after, run, through⟩, ?_⟩
  intro trace' outcome' after' run' through'
  obtain ⟨number', first', length_eq⟩ := ends_first trace' outcome' after' run' through'
  obtain ⟨rfl, rfl⟩ := first.unique first'
  exact ⟨rfl, length_eq⟩

/-- A service that fails once and then reports the end of the job, fifteen milliseconds later each
time. -/
def failsOnce (location : GraphLocation) : StatusScript
  | 0 => ⟨some 15, .error .network⟩
  | _ => ⟨some 15, .ok { status := .completed, result := some location }⟩

/-- A reply at the very deadline decides, after one failure that is tolerated. -/
theorem awaitCompletion_decidesFirst_at_deadline :
    ∃ settings : BuildSettings, 0 < settings.pollInterval ∧ settings.pollTimeout = 40 ∧
      ∃ trace after, Run (awaitCompletion settings "j") trace (.ok ⟨"", "g", none⟩) ∧
        Trace.Through (failsOnce ⟨"", "g", none⟩).Step ⟨0, []⟩ trace after ∧
        after.calls.length = 2 := by
  let settings : BuildSettings := { pollInterval := 10, pollTimeout := 40, maxPollErrors := 1 }
  let script := failsOnce ⟨"", "g", none⟩
  have begins : script.Begins 10 0 1 25 := @StatusScript.Begins.next _ _ _ 0 0 15 .first rfl
  have one_failure : ∀ outcome, ¬ Rules settings "j" script 0 outcome := by
    intro outcome rules
    rw [← ruling?_eq_some_iff] at rules
    cases rules
  have first : DecidesFirst settings "j" 0 script 1 (.ok ⟨"", "g", none⟩) := by
    refine ⟨.answer ⟨25, 15, begins, rfl, rfl⟩ le_rfl (.reply rfl (.completed rfl rfl)), ?_⟩
    intro earlier lt other
    obtain rfl : earlier = 0 := by omega
    exact not_decides ⟨0, 15, .first, rfl, rfl⟩ one_failure (by decide)
  obtain ⟨⟨number, outcome, decides, ⟨trace, after, run, through⟩, ends⟩, _⟩ :=
    awaitCompletion_decidesFirst settings "j" script 0 (by decide)
  obtain ⟨rfl, rfl⟩ := first.unique decides
  exact ⟨settings, by decide, rfl, trace, after, run, through, (ends trace _ after run through).2⟩

end Poll

end GraphOffload
