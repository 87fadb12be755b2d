import GraphOffload.Time.Span

/-!
# Stages of a build

## Main definitions

* `GraphOffload.Stage` : where a build is, or where it stopped.
* `GraphOffload.StageTimes` : how long the stages of a remote build took.
-/

namespace GraphOffload

/-- Where a build is, or where it stopped. -/
inductive Stage
  | ineligible
  | staging
  | submitted
  | polling
  | downloading
  | installed
  | fallback
  deriving DecidableEq

namespace Stage

/-- All stages in the order of a build. -/
def all : List Stage :=
  [ineligible, staging, submitted, polling, downloading, installed, fallback]

/-- The word for a stage. -/
def word : Stage → String
  | ineligible => "ineligible"
  | staging => "staging"
  | submitted => "submitted"
  | polling => "polling"
  | downloading => "downloading"
  | installed => "installed"
  | fallback => "fallback"

/-- Whether nothing follows the stage. -/
def isTerminal : Stage → Bool
  | ineligible | installed | fallback => true
  | _ => false

end Stage

/-- How long the stages of a remote build took. -/
structure StageTimes where
  staging : Span
  submit : Span
  polling : Span
  download : Span
  deriving DecidableEq

/-- How long all stages took together, if that fits 64 bits of seconds. -/
def StageTimes.total? (times : StageTimes) : Option Span := do
  let sum ← times.staging.sum? times.submit
  let sum ← sum.sum? times.polling
  sum.sum? times.download

end GraphOffload
