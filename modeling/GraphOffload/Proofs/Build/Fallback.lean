import GraphOffload.Proofs.Build.Calls

/-!
# Falling back to the local builder

Whatever fails in a remote build, the local builder takes over, and only its own failure is a
failure of the build. The outcome names the stage of the first operation that failed.

## Main definitions

* `GraphOffload.Trace.localBuilds` : the calls on the local builder in a trace, with their replies.
* `GraphOffload.Build.FallsBack` : how outcome and local builder go together.

## Main results

* `GraphOffload.Build.execute_fallsBack` : every build falls back as it should.
-/

namespace GraphOffload

open Attempting

/-! ### Local builds -/

/-- A call on the local builder, with its reply. -/
def Exchange.localBuild? : Exchange → Option (BuildRequest × Except Failure Unit)
  | ⟨.buildLocally request, reply⟩ => some (request, reply)
  | _ => none

/-- The calls on the local builder in a trace, with their replies. -/
def Trace.localBuilds (trace : Trace) : List (BuildRequest × Except Failure Unit) :=
  trace.filterMap Exchange.localBuild?

/-- The local builds in two traces are those in each. -/
@[simp] theorem Trace.localBuilds_append (front back : Trace) :
    Trace.localBuilds (front ++ back) = front.localBuilds ++ back.localBuilds :=
  List.filterMap_append

/-- A trace without calls on the local builder has no local builds. -/
theorem Trace.localBuilds_eq_nil {trace : Trace} (h : ∀ exchange ∈ trace, exchange.1.phase ≤ 4 ∨
    ∃ path, exchange.1 = .delete path) : trace.localBuilds = [] := by
  refine List.filterMap_eq_nil_iff.mpr fun exchange mem => ?_
  obtain ⟨call, reply⟩ := exchange
  cases call with
  | buildLocally request => simpa [Call.phase] using h _ mem
  | _ => rfl

namespace Build

variable {area : StagingArea} {settings : BuildSettings} {request : BuildRequest} {trace : Trace}
  {outcome : Except Failure BuildOutcome}

/-- A remote build does not call the local builder. -/
theorem UpTo.localBuilds_eq_nil (upTo : UpTo 4 trace) : trace.localBuilds = [] :=
  Trace.localBuilds_eq_nil fun exchange mem => .inl (upTo exchange mem)

/-- Neither does the cleanup. -/
theorem localBuilds_cleanup (cleans : ∀ exchange ∈ trace, ∃ path, exchange.1 = .delete path) :
    trace.localBuilds = [] :=
  Trace.localBuilds_eq_nil fun exchange mem => .inr (cleans exchange mem)

/-- How outcome and local builder go together. -/
structure FallsBack (area : StagingArea) (settings : BuildSettings) (request : BuildRequest)
    (trace : Trace) (outcome : Except Failure BuildOutcome) : Prop where
  /-- A failure is the failure of the local builder. -/
  error_iff : ∀ failure, outcome = .error failure ↔
    ∃ request', (request', .error failure) ∈ trace.localBuilds
  /-- A remote build goes without the local builder. -/
  remote : ∀ report, outcome = .ok (.remote report) → trace.localBuilds = []
  /-- Any other build calls it once, with the request of the build. -/
  once : (∀ report, outcome ≠ .ok (.remote report)) → ∃ reply, trace.localBuilds = [(request, reply)]
  /-- A local build is no fallback if it was known from the start that a remote one is not worth it.
  -/
  ineligible_iff : ∀ fallbackFrom, outcome = .ok (.localBuild fallbackFrom) →
    (fallbackFrom = none ↔ (settings.ineligible? request.shape).isSome)
  /-- Else it names the stage of the first operation that failed, which is none that ends a build;
  after that operation come the cleanup, the counts and the local build. -/
  stage : ∀ stage, outcome = .ok (.localBuild (some stage)) → stage.isTerminal = false ∧
    ∃ remote later failure, trace = remote ++ later ∧
      FailsFirst area settings request remote stage failure ∧
      ∀ exchange ∈ later, (∃ path, exchange.1 = .delete path) ∨ exchange.1.IsIdle ∨
        exchange.1 = .buildLocally request

/-- A build that ends with the local builder falls back as it should, if it names the right stage. -/
theorem fallsBack_of_localBuild {reply : Except Failure Unit} {fallbackFrom : Option Stage}
    (builds : trace.localBuilds = [(request, reply)])
    (ineligible_iff : fallbackFrom = none ↔ (settings.ineligible? request.shape).isSome)
    (stage : ∀ stage, fallbackFrom = some stage → stage.isTerminal = false ∧
      ∃ remote later failure, trace = remote ++ later ∧
        FailsFirst area settings request remote stage failure ∧
        ∀ exchange ∈ later, (∃ path, exchange.1 = .delete path) ∨ exchange.1.IsIdle ∨
          exchange.1 = .buildLocally request) :
    FallsBack area settings request trace (reply.map fun _ => .localBuild fallbackFrom) where
  error_iff failure := by
    rw [builds]
    cases reply <;> simp [Except.map, eq_comm]
  remote report same := by cases reply <;> simp [Except.map] at same
  once _ := ⟨reply, builds⟩
  ineligible_iff other same := by
    cases reply with
    | error failure => exact nomatch same
    | ok done =>
      obtain rfl := BuildOutcome.localBuild.inj (Except.ok.inj same)
      exact ineligible_iff
  stage other same := by
    cases reply with
    | error failure => exact nomatch same
    | ok done => exact stage other (BuildOutcome.localBuild.inj (Except.ok.inj same))

/-- **Every build falls back as it should.** It fails just when the local builder was called and
failed, with the same failure. The local builder is called once unless the build was remote, and
then it is not called. A fallback names the stage of the first operation that failed.

**Proof sketch.** Of the ways in which a build ends only the last call is on the local builder, since
neither the operations of a remote build nor the cleanup call it. -/
theorem execute_fallsBack (run : Run (execute area settings request) trace outcome) :
    FallsBack area settings request trace outcome := by
  cases run_execute run with
  | ineligible reason => exact fallsBack_of_localBuild rfl (by simp [reason]) nofun
  | @remote remote cleanup report location eligible graph delivered cleans =>
    have none_built :
        Trace.localBuilds (remote ++ (cleanup ++ [⟨.count (.outcome .installed), ()⟩])) = [] := by
      rw [Trace.localBuilds_append, delivered.upTo.localBuilds_eq_nil, Trace.localBuilds_append,
        localBuilds_cleanup cleans]
      rfl
    exact {
      error_iff := fun failure => by simp [none_built]
      remote := fun _ _ => none_built
      once := fun other => absurd rfl (other report)
      ineligible_iff := nofun
      stage := nofun }
  | @fallback remote cleanup stage failure reply eligible fails cleans =>
    refine fallsBack_of_localBuild ?_ (by simp [eligible]) fun other same => ?_
    · rw [Trace.localBuilds_append, fails.upTo.localBuilds_eq_nil, Trace.localBuilds_append,
        localBuilds_cleanup cleans]
      rfl
    · obtain rfl := Option.some.inj same
      refine ⟨fails.not_isTerminal, remote, _, failure, rfl, fails, fun exchange mem => ?_⟩
      rcases List.mem_append.mp mem with mem | mem
      · exact .inl (cleans exchange mem)
      · simp only [List.mem_cons, List.not_mem_nil, or_false] at mem
        rcases mem with rfl | rfl | rfl
        · exact .inr (.inl trivial)
        · exact .inr (.inl trivial)
        · exact .inr (.inr rfl)

/-- A store that loses a part: the local builder takes over from the staging. -/
theorem execute_fallsBack_of_lost_part :
    ∃ trace, FallsBack World.smallArea World.smallSettings World.smallRequest trace
      (.ok (.localBuild (some .staging))) := by
  have fallback : ((World.small [⟨.sendPart, some 1, .generic⟩]).play
      (execute World.smallArea World.smallSettings World.smallRequest).run).1 =
        .ok (.localBuild (some .staging)) := by rfl
  have run := Dialogue.run_transcript World.answer
    (execute World.smallArea World.smallSettings World.smallRequest).run
    (World.small [⟨.sendPart, some 1, .generic⟩])
  rw [World.play] at fallback
  rw [fallback] at run
  exact ⟨_, execute_fallsBack run⟩

end Build

end GraphOffload
