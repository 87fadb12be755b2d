import GraphOffload.Attempting

/-!
# Waiting for a job

The service is asked for the status of a job until the job has come to an end, until too many calls in
a row failed, or until the time is up.

Times are numbers of milliseconds without a bound. So every deadline is taken to be one that the clock
can reach, and every time that went by to be one that can be told.

## Main definitions

* `GraphOffload.Poll.verdict?` : what a status reply decides.
* `GraphOffload.Poll.awaitCompletion` : waits for the end of a job and gives the place of its graph.
-/

namespace GraphOffload.Poll

/-- What is said of a job that failed for no stated reason. -/
def defaultReason : String := "service reported failure"

/-- What a status reply decides; nothing while the job is running. -/
def verdict? (jobId : String) (reply : StatusReply) : Option (Except Failure GraphLocation) :=
  match reply.status with
  | .completed => match reply.result with
    | some location => some (.ok location)
    | none => some (.error (.missingResult jobId))
  | .failed => some (.error (.jobFailed jobId (reply.error.getD defaultReason)))
  | _ => none

/-- The failure of a job that is not done in time. -/
def timeUp {α : Type} (jobId : String) (started : Nat) : Attempting α :=
  Call.now.attempt fun time => .error (.pollTimeout jobId (time - started))

/-- Sleeps for an interval, but not past the deadline, and tells whether the deadline has come. -/
def pause (interval deadline : Nat) : Attempting Bool := do
  let time ← Call.now.attempt .ok
  (Call.sleepUntil (min (time + interval) deadline)).attempt .ok
  Call.now.attempt fun time => .ok (deadline ≤ time)

/-- Asks again and again, at most the given number of times, after `failed` calls in a row that
failed. -/
def pollFrom (settings : BuildSettings) (jobId : String) (started : Nat) :
    Nat → Nat → Attempting GraphLocation
  | 0, _ => timeUp jobId started
  | calls + 1, failed => do
    let deadline := started + settings.pollTimeout
    let goOn (failed : Nat) : Attempting GraphLocation := do
      if ← pause settings.pollInterval deadline then timeUp jobId started
      else pollFrom settings jobId started calls failed
    match ← (Call.status jobId deadline).attempt .ok with
    | none =>
      .count (.polled .timedOut)
      timeUp jobId started
    | some (.error failure) =>
      .count (.polled .failed)
      if settings.maxPollErrors.toNat < failed + 1 then throw failure else goOn (failed + 1)
    | some (.ok reply) =>
      .count (.polled .answered)
      match verdict? jobId reply with
      | some outcome => .ofExcept outcome
      | none => goOn 0

/-- A bound on the number of calls. With a pause of at least one millisecond between two calls the time
is up before. -/
def maxCalls (settings : BuildSettings) : Nat := settings.pollTimeout + UInt32.size

/-- Waits for the end of a job and gives the place of its graph. The deadline is taken to be
representable: a timeout that leads beyond the range of the clock, for which there is no deadline, is not
covered. -/
def awaitCompletion (settings : BuildSettings) (jobId : String) : Attempting GraphLocation := do
  let started ← Call.now.attempt .ok
  pollFrom settings jobId started (maxCalls settings) 0

end GraphOffload.Poll
