import GraphOffload.Build.Stage

/-!
# Measurements

What a running system counts, and the series under which the counts are published.

## Main definitions

* `GraphOffload.Measurement` : one thing counted.
* `GraphOffload.Measurement.increments` : by how much a measurement raises which counters.
* `GraphOffload.Measurement.buckets` : the buckets that a measured time falls into.
* `GraphOffload.Tally` : counters with their values.
-/

namespace GraphOffload

/-- Where bytes go. -/
inductive Direction
  | upload
  | download
  deriving DecidableEq

/-- How a status call ended. -/
inductive PollEnd
  | answered
  | failed
  | timedOut
  deriving DecidableEq

/-- One thing counted. -/
inductive Measurement
  /-- A build that came to its end. -/
  | outcome (stage : Stage)
  /-- A remote build that failed in a stage, with the label of the failure. -/
  | fallback (stage : Stage) (failure : String)
  /-- A stage that was completed, with its time in milliseconds. -/
  | stageTime (stage : Stage) (elapsed : Nat)
  /-- Bytes of an object that was moved. -/
  | moved (direction : Direction) (bytes : Nat)
  | polled (result : PollEnd)
  deriving DecidableEq

/-- The word for a direction. -/
def Direction.word : Direction → String
  | .upload => "upload"
  | .download => "download"

/-- The word for the end of a status call. -/
def PollEnd.word : PollEnd → String
  | .answered => "ok"
  | .failed => "error"
  | .timedOut => "timeout"

namespace Measurement

/-- The name of a series: a counter with its labels. -/
def series (name : String) (labels : List (String × String)) : String :=
  let label (pair : String × String) : String := pair.1 ++ "=\"" ++ pair.2 ++ "\""
  name ++ "\x7b" ++ ",".intercalate (labels.map label) ++ "\x7d"

/-- By how much a measurement raises which counters. -/
def increments : Measurement → List (String × Nat)
  | outcome stage => [(series "graphlift_remote_builds_total" [("outcome", stage.word)], 1)]
  | fallback stage failure =>
    [(series "graphlift_fallbacks_total" [("error", failure), ("stage", stage.word)], 1)]
  | stageTime stage _ =>
    [(series "graphlift_stage_duration_seconds_count" [("stage", stage.word)], 1)]
  | moved direction bytes =>
    [(series "graphlift_bytes_transferred_total" [("direction", direction.word)], bytes)]
  | polled result => [(series "graphlift_status_polls_total" [("result", result.word)], 1)]

/-- The upper ends of the buckets for times, in milliseconds, with the text of each in seconds. -/
def bucketEnds : List (Nat × String) :=
  [(10, "0.01"), (50, "0.05"), (100, "0.1"), (500, "0.5"), (1000, "1"), (5000, "5"), (10000, "10"),
    (30000, "30"), (60000, "60"), (300000, "300"), (900000, "900"), (3600000, "3600")]

/-- The buckets that a measured time falls into: all that end at it or later, and the one without
end. -/
def buckets : Measurement → List (String × Nat)
  | stageTime stage elapsed =>
    let ends := (bucketEnds.filter fun bucket => elapsed ≤ bucket.1).map Prod.snd ++ ["+Inf"]
    ends.map fun text =>
      (series "graphlift_stage_duration_seconds_bucket" [("stage", stage.word), ("le", text)], 1)
  | _ => []

end Measurement

/-- Counters with their values, each counter once. -/
abbrev Tally := List (String × Nat)

namespace Tally

/-- Raises a counter. -/
def add (name : String) (by_ : Nat) : Tally → Tally
  | [] => [(name, by_)]
  | (other, value) :: rest =>
    if other = name then (other, value + by_) :: rest else (other, value) :: add name by_ rest

/-- The counters that increments raise, starting from zero. -/
def ofIncrements (increments : List (String × Nat)) : Tally :=
  increments.foldl (fun tally increment => tally.add increment.1 increment.2) []

end Tally

end GraphOffload
