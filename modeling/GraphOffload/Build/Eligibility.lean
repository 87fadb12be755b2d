import GraphOffload.Corpus.Cursor

/-!
# What is built remotely

## Main definitions

* `GraphOffload.BuildSettings` : the settings of one build.
* `GraphOffload.Ineligible` : why a corpus is built locally.
* `GraphOffload.BuildSettings.ineligible?` : the first reason against a remote build.
-/

namespace GraphOffload

/-- The settings of one build; times are in milliseconds. -/
structure BuildSettings where
  enabled : Bool := false
  /-- The staging container; remote builds are off while it is empty. -/
  container : String := ""
  keyPrefix : String := ""
  /-- The fewest bytes of vectors that are worth a remote build. -/
  sizeThreshold : UInt64 := 52428800
  minLiveVectors : UInt64 := 0
  pollInterval : Nat := 5000
  pollTimeout : Nat := 3600000
  /-- How many status calls in a row may fail. -/
  maxPollErrors : UInt32 := 3
  /-- Whether staged blobs are deleted after the attempt. -/
  cleanup : Bool := true
  tenant : Option String := none
  deriving DecidableEq

/-- Why a corpus is built locally. -/
inductive Ineligible
  | disabled
  | noContainer
  | elementType (type : ElementType)
  | fewVectors (live least : Nat)
  | fewBytes (bytes threshold : Nat)
  deriving DecidableEq

/-- The text of a reason. -/
def Ineligible.message : Ineligible → String
  | .disabled => "remote build disabled"
  | .noContainer => "no staging container configured"
  | .elementType type => type.name ++ " vectors are built locally"
  | .fewVectors live least => s!"{live} live vectors, need at least {least}"
  | .fewBytes bytes threshold => s!"{bytes} vector bytes below threshold of {threshold}"

/-- The first reason against a remote build of a corpus, if there is one. -/
def BuildSettings.ineligible? (settings : BuildSettings) (shape : CorpusShape) : Option Ineligible :=
  if !settings.enabled then some .disabled
  else if settings.container.isEmpty then some .noContainer
  else if shape.elementType ≠ .float32 then some (.elementType shape.elementType)
  else if shape.liveCount = 0 ∨ shape.liveCount < settings.minLiveVectors then
    some (.fewVectors shape.liveCount.toNat (max settings.minLiveVectors 1).toNat)
  else if shape.totalBytes < settings.sizeThreshold then
    some (.fewBytes shape.totalBytes.toNat settings.sizeThreshold.toNat)
  else none

end GraphOffload
