import GraphOffload.Proofs.Build.Booking

/-!
# The counters of builds balance

What builds count is entered at many places. Over a whole history of builds the entries add up: each
build ends in one way, each remote build that was attempted completes its stages up to one that it fails
in, and what was moved is what was staged and what was delivered.

## Main definitions

* `GraphOffload.Performed` : a build that was performed, with all that passed.
* `GraphOffload.Account` : what there is to say of a build, and what it enters.
* `GraphOffload.Account.Of` : an account tells of a build.
* `GraphOffload.Balances` : counters agree with the accounts of a history.

## Main results

* `GraphOffload.Account.exists_of` : every build has an account, which tells what it entered.
* `GraphOffload.Balances.of_account` : the counters of one build agree with its account.
* `GraphOffload.Balances.add` : those of two histories agree if they are added.
* `GraphOffload.Build.execute_balances` : the counters of every history balance.
-/

namespace GraphOffload

open Attempting Build

/-! ### Labels -/

namespace Failure

/-- The labels of all failures. -/
def labels : List String :=
  ["invalid_range", "unsupported_operation", "already_exists", "not_found", "transfer",
    "partial_transfer", "storage", "service", "http", "poll_timeout", "job_failed", "missing_result",
    "json", "io", "config", "local_build", "internal"]

/-- The label of every failure is listed. -/
theorem label_mem_labels (failure : Failure) : failure.label ∈ labels := by
  cases failure <;> simp [label, labels]

/-- No label has a quotation mark, so that it can be read off the name of a counter. -/
theorem notMem_of_mem_labels : ∀ label ∈ labels, '"' ∉ label.toList := by decide

/-- Each failure is counted under one label. -/
theorem sum_labels (failure : Failure) :
    (labels.map fun label => if failure.label = label then 1 else 0).sum = 1 := by
  have each : ∀ label ∈ labels, (labels.map fun other => if label = other then 1 else 0).sum = 1 := by
    decide
  exact each _ failure.label_mem_labels

end Failure

/-! ### Builds and their accounts -/

/-- A build that was performed, with all that passed. -/
structure Performed where
  area : StagingArea
  settings : BuildSettings
  request : BuildRequest
  trace : Trace
  outcome : Except Failure BuildOutcome
  run : Run (execute area settings request) trace outcome

namespace Performed

/-- It was worth a remote build. -/
def isEligible (performed : Performed) : Bool :=
  (performed.settings.ineligible? performed.request.shape).isNone

/-- The build for a request in a world. -/
def inWorld {σ : Type} [Cursor σ] (area : StagingArea) (settings : BuildSettings) (request : BuildRequest)
    (world : World σ) : Performed where
  area := area
  settings := settings
  request := request
  trace := (execute area settings request).run.transcript World.answer world
  outcome := ((execute area settings request).run.play World.answer world).1
  run := Dialogue.run_transcript World.answer _ world

/-- How many bytes are reported for a graph that was built remotely. -/
def written (performed : Performed) : Nat :=
  match performed.outcome with
  | .ok (.remote report) => report.bytesWritten
  | _ => 0

end Performed

/-- What there is to say of a build: it was not worth a remote one, or one was attempted, with the keys
and sizes of the blobs that were staged. -/
inductive Account
  | ineligible
  | attempted (blobs : List (String × Nat)) (result : Except (Stage × Failure) BuildReport)

namespace Account

/-- What is entered. -/
def entries : Account → Ledger
  | ineligible => [(.outcome .ineligible, 1)]
  | attempted blobs result => stagedEntries blobs ++ (remoteEntries result ++ closingEntries result)

/-- How the build ended. -/
def ending : Account → Stage
  | ineligible => .ineligible
  | attempted _ (.ok _) => .installed
  | attempted _ (.error _) => .fallback

/-- The stages that were completed. -/
def completed : Account → List Stage
  | ineligible => []
  | attempted _ (.ok _) => remoteStages
  | attempted _ (.error (stage, _)) => remoteStages.takeWhile (· ≠ stage)

/-- How many remote builds were attempted. -/
def attempts : Account → Nat
  | ineligible => 0
  | attempted .. => 1

/-- The stage that the attempt failed in. -/
def stopped? : Account → Option Stage
  | attempted _ (.error (stage, _)) => some stage
  | _ => none

/-- How many attempts failed in the stage. -/
def stops (account : Account) (stage : Stage) : Nat := if account.stopped? = some stage then 1 else 0

/-- The attempt failed in the stage, with a failure of the label. -/
def failedIn (stage : Stage) (label : String) : Account → Bool
  | attempted _ (.error (stage', failure)) => stage' = stage ∧ failure.label = label
  | _ => false

/-- How many bytes were written. -/
def written : Account → Nat
  | attempted _ (.ok report) => report.bytesWritten
  | _ => 0

/-- How many bytes were staged. -/
def staged : Account → Nat
  | ineligible => 0
  | attempted blobs _ => (blobs.map Prod.snd).sum

/-- An account tells of a build. -/
inductive Of (performed : Performed) : Account → Prop
  /-- No remote build was attempted. -/
  | ineligible {why : Ineligible}
    (reason : performed.settings.ineligible? performed.request.shape = some why)
    (built : ∀ report, performed.outcome ≠ .ok (.remote report)) : Of performed .ineligible
  /-- The attempt staged the blobs and no others, and came to its end with the result: a report, which
  is then that of the build, or the first failure of an operation, with its stage. -/
  | attempted {remote rest : Trace} {attempt : Attempt} {blobs : List (String × Nat)}
    (eligible : performed.settings.ineligible? performed.request.shape = none)
    (split : performed.trace = remote ++ rest)
    (attempts : Dialogue.Run (Build.attempt performed.area performed.settings performed.request) remote
      attempt)
    (keys_eq : blobs.map Prod.fst = attempt.uploaded)
    (leaves : Leaves performed.area performed.settings performed.request remote attempt.uploaded)
    (uploads : ∀ blob ∈ blobs, remote.Uploads blob.1 blob.2)
    (built : ∀ report, performed.outcome = .ok (.remote report) ↔ attempt.result = .ok report)
    (fails : ∀ stage failure, attempt.result = .error (stage, failure) →
      FailsFirst performed.area performed.settings performed.request remote stage failure) :
    Of performed (.attempted blobs attempt.result)

namespace Of

variable {performed : Performed} {account : Account}

/-- An account is one of an attempt exactly if the build was worth one. -/
theorem attempts_eq (tells : account.Of performed) :
    [performed].countP (·.isEligible) = account.attempts := by
  cases tells with
  | ineligible reason => simp [Performed.isEligible, reason, attempts]
  | attempted eligible => simp [Performed.isEligible, eligible, attempts]

/-- An account tells how many bytes are reported. -/
theorem written_eq (tells : account.Of performed) : performed.written = account.written := by
  unfold Performed.written
  split
  · rename_i report same
    cases tells with
    | ineligible reason built => exact absurd same (built report)
    | attempted _ _ _ _ _ _ built =>
      rw [(built report).mp same]
      rfl
  · rename_i not_remote
    cases tells with
    | ineligible => rfl
    | @attempted _ _ attempt _ _ _ _ _ _ _ built =>
      cases same : attempt.result with
      | ok report => exact absurd ((built report).mpr same) (not_remote report)
      | error failed => rfl

/-- An attempt fails in a stage that something follows. -/
theorem stopped_proceeds (tells : account.Of performed) :
    ∀ stage ∈ account.stopped?, stage.isTerminal = false := by
  intro stage stopped
  cases tells with
  | ineligible => cases stopped
  | @attempted _ _ attempt _ _ _ _ _ _ _ _ fails =>
    rcases same : attempt.result with ⟨failed, failure⟩ | report
    · rw [same] at stopped
      obtain rfl := Option.some.inj stopped
      exact (fails failed failure same).not_isTerminal
    · rw [same] at stopped
      cases stopped

end Of

/-- An attempt completes its stages one after the other, up to the one it fails in. -/
theorem course_eq {account : Account}
    (proceeds : ∀ stage ∈ account.stopped?, stage.isTerminal = false) :
    account.attempts = account.completed.count .staging + account.stops .staging ∧
    account.completed.count .staging = account.completed.count .submitted + account.stops .submitted ∧
    account.completed.count .submitted = account.completed.count .polling + account.stops .polling ∧
    account.completed.count .polling =
      account.completed.count .downloading + account.stops .downloading ∧
    account.completed.count .downloading = (if account.ending = .installed then 1 else 0) ∧
    (Stage.all.map account.stops).sum = (if account.ending = .fallback then 1 else 0) := by
  rcases account with _ | ⟨blobs, ⟨failed, failure⟩ | report⟩
  case attempted.error =>
    have before := proceeds failed rfl
    cases failed <;> first | exact ⟨rfl, rfl, rfl, rfl, rfl, rfl⟩ | cases before
  all_goals exact ⟨rfl, rfl, rfl, rfl, rfl, rfl⟩

/-! ### What is entered under each counter -/

/-- What is entered under a counter. -/
def under (account : Account) : Counter → Nat
  | .outcome stage => if account.ending = stage then 1 else 0
  | .fallback stage label => if account.failedIn stage label then 1 else 0
  | .stageTime stage => account.completed.count stage
  | .moved .upload => account.staged
  | .moved .download => account.written
  | .polled _ => 0

/-- Staged blobs enter their bytes as uploaded, and nothing else. -/
theorem total_stagedEntries (counter : Counter) (blobs : List (String × Nat)) :
    (stagedEntries blobs).total counter =
      if counter = .moved .upload then (blobs.map Prod.snd).sum else 0 := by
  induction blobs with
  | nil => exact (ite_self 0).symm
  | cons blob rest ih =>
    have entered : stagedEntries (blob :: rest) = (.moved .upload, blob.2) :: stagedEntries rest := rfl
    rw [entered, Ledger.total_cons, ih]
    by_cases same : counter = .moved .upload
    · simp [same]
    · simp [same, Ne.symm same]

/-- Completed stages are entered once each, and nothing else. -/
theorem total_stageEntries (counter : Counter) (stages : List Stage) :
    (stageEntries stages).total counter =
      match counter with
      | .stageTime stage => stages.count stage
      | _ => 0 := by
  induction stages with
  | nil => cases counter <;> rfl
  | cons stage rest ih =>
    have entered : stageEntries (stage :: rest) = (.stageTime stage, 1) :: stageEntries rest := rfl
    rw [entered, Ledger.total_cons, ih]
    cases counter with
    | stageTime other =>
      by_cases same : stage = other
      · simp [same, Nat.add_comm]
      · simp [same]
    | _ => simp

/-- **The entries of an account are those that it tells of.** -/
theorem total_entries (account : Account) (counter : Counter) :
    account.entries.total counter = account.under counter := by
  rcases account with _ | ⟨blobs, ⟨failed, failure⟩ | report⟩
  case ineligible =>
    rcases counter with stage | _ | _ | ⟨_ | _⟩ | _
    case outcome => cases stage <;> rfl
    all_goals rfl
  all_goals
    simp only [entries, Ledger.total_append, remoteEntries, closingEntries, Ledger.total_cons,
      total_stagedEntries, total_stageEntries, Ledger.total_nil]
    rcases counter with stage | ⟨stage, label⟩ | stage | ⟨_ | _⟩ | result
    case outcome => cases stage <;> simp [under, ending]
    case stageTime => cases stage <;> simp [under, completed, remoteStages]
    all_goals simp [under, failedIn, staged, written]

end Account

/-! ### Balances -/

/-- The fallbacks that are counted in a stage, whatever their labels. -/
def fallbacksIn (value : Counter → Nat) (stage : Stage) : Nat :=
  (Failure.labels.map fun label => value (.fallback stage label)).sum

/-- Of so many attempts that come to a stage, some complete it, and the others fall back from it. -/
structure Splits (value : Counter → Nat) (stage : Stage) (came : Nat) : Prop where
  completed_le : value (.stageTime stage) ≤ came
  fallbacks_eq : fallbacksIn value stage = came - value (.stageTime stage)

/-- Counters agree with the accounts of a history. -/
structure Balances (history : List Performed) (accounts : List Account) (value : Counter → Nat) :
    Prop where
  /-- Each build is counted once. -/
  outcomes : value (.outcome .ineligible) + value (.outcome .installed) + value (.outcome .fallback) =
    history.length
  /-- Each fallback is counted under one stage and one label. -/
  fallbacks : (Stage.all.map (fallbacksIn value)).sum = value (.outcome .fallback)
  /-- They are those of the failures that ended the attempts. -/
  labelled : ∀ stage label, '"' ∉ label.toList →
    value (.fallback stage label) = accounts.countP (·.failedIn stage label)
  /-- Each attempt comes to the staging, and from one stage to the next if it completes it. -/
  staging : Splits value .staging (history.countP (·.isEligible))
  submitted : Splits value .submitted (value (.stageTime .staging))
  polling : Splits value .polling (value (.stageTime .submitted))
  downloading : Splits value .downloading (value (.stageTime .polling))
  /-- An attempt that completes the last stage is installed. -/
  installed : value (.stageTime .downloading) = value (.outcome .installed)
  /-- The bytes that were downloaded are those that are reported. -/
  downloads : value (.moved .download) = (history.map Performed.written).sum
  /-- The bytes that were uploaded are those of the blobs that were staged. -/
  uploads : value (.moved .upload) = (accounts.map Account.staged).sum

/-- The fallbacks of two histories are added. -/
theorem fallbacksIn_add (value value' : Counter → Nat) (stage : Stage) :
    fallbacksIn (fun counter => value counter + value' counter) stage =
      fallbacksIn value stage + fallbacksIn value' stage :=
  List.sum_map_add

/-- Where attempts split in two histories, they split in both together. -/
theorem Splits.add {value value' : Counter → Nat} {stage : Stage} {came came' : Nat}
    (h : Splits value stage came) (h' : Splits value' stage came') :
    Splits (fun counter => value counter + value' counter) stage (came + came') where
  completed_le := Nat.add_le_add h.completed_le h'.completed_le
  fallbacks_eq := by
    rw [fallbacksIn_add, h.fallbacks_eq, h'.fallbacks_eq]
    have := h.completed_le
    have := h'.completed_le
    omega

namespace Balances

/-- Nothing is counted where nothing is built. -/
theorem nil : Balances [] [] fun _ => 0 := by
  have none_in (stage : Stage) : fallbacksIn (fun _ => 0) stage = 0 := by simp [fallbacksIn]
  have parts (stage : Stage) : Splits (fun _ => 0) stage 0 := ⟨Nat.le_refl 0, none_in stage⟩
  exact ⟨rfl, rfl, fun _ _ _ => rfl, parts _, parts _, parts _, parts _, rfl, rfl, rfl⟩

/-- **The counters of two histories agree with both if they are added.**

**Proof sketch.** Every count and every sum of bytes is that of the one history and that of the other.
-/
theorem add {history history' : List Performed} {accounts accounts' : List Account}
    {value value' : Counter → Nat} (h : Balances history accounts value)
    (h' : Balances history' accounts' value') :
    Balances (history ++ history') (accounts ++ accounts')
      fun counter => value counter + value' counter where
  outcomes := by
    have := h.outcomes
    have := h'.outcomes
    rw [List.length_append]
    omega
  fallbacks := by
    have both : fallbacksIn (fun counter => value counter + value' counter) =
        fun stage => fallbacksIn value stage + fallbacksIn value' stage :=
      funext (fallbacksIn_add value value')
    rw [both, List.sum_map_add, h.fallbacks, h'.fallbacks]
  labelled stage label plain := by
    rw [List.countP_append, h.labelled stage label plain, h'.labelled stage label plain]
  staging := by
    rw [List.countP_append]
    exact h.staging.add h'.staging
  submitted := h.submitted.add h'.submitted
  polling := h.polling.add h'.polling
  downloading := h.downloading.add h'.downloading
  installed := by rw [h.installed, h'.installed]
  downloads := by rw [List.map_append, List.sum_append, h.downloads, h'.downloads]
  uploads := by rw [List.map_append, List.sum_append, h.uploads, h'.uploads]

/-- The fallback of an attempt is counted in the stage that it failed in. -/
theorem fallbacksIn_under (account : Account) (stage : Stage) :
    fallbacksIn account.under stage = account.stops stage := by
  rcases account with _ | ⟨blobs, ⟨failed, failure⟩ | report⟩
  case attempted.error =>
    have one := failure.sum_labels
    by_cases same : failed = stage
    · simpa [fallbacksIn, Account.under, Account.failedIn, Account.stops, Account.stopped?, same]
        using one
    · simp [fallbacksIn, Account.under, Account.failedIn, Account.stops, Account.stopped?, same]
  all_goals simp [fallbacksIn, Account.under, Account.failedIn, Account.stops, Account.stopped?]

/-- **What is entered for one build agrees with its account.**

**Proof sketch.** A failure is one of an operation, so that its stage is one of a remote build, and the
stages before it are completed. -/
theorem of_account {performed : Performed} {account : Account} (tells : account.Of performed) :
    Balances [performed] [account] account.under := by
  obtain ⟨attempts_eq, staging_eq, submitted_eq, polling_eq, downloading_eq, stops_eq⟩ :=
    Account.course_eq tells.stopped_proceeds
  have parts {stage : Stage} {came : Nat}
      (came_eq : came = account.completed.count stage + account.stops stage) :
      Splits account.under stage came := by
    constructor
    case completed_le =>
      rw [came_eq]
      exact Nat.le_add_right _ _
    case fallbacks_eq =>
      rw [fallbacksIn_under, came_eq]
      exact (Nat.add_sub_cancel_left _ _).symm
  constructor
  case outcomes => rcases account with _ | ⟨blobs, failed | report⟩ <;> rfl
  case fallbacks =>
    rw [funext (fallbacksIn_under account)]
    exact stops_eq
  case labelled =>
    intro stage label _
    rw [List.countP_singleton]
    rfl
  case staging => exact parts (tells.attempts_eq.trans attempts_eq)
  case submitted => exact parts staging_eq
  case polling => exact parts submitted_eq
  case downloading => exact parts polling_eq
  case installed => exact downloading_eq
  case downloads => simp [Account.under, tells.written_eq]
  case uploads => simp [Account.under]

/-- Only what is counted under labels without quotation marks matters, and no status calls.

**Proof sketch.** All that a balance speaks of are outcomes, times of stages, bytes moved, and
fallbacks, whose labels have no quotation marks. -/
theorem congr {history : List Performed} {accounts : List Account} {value value' : Counter → Nat}
    (h : Balances history accounts value)
    (same : ∀ counter : Counter, counter.Plain → counter.isPoll = false →
      value' counter = value counter) : Balances history accounts value' := by
  have outcome (stage : Stage) := same (.outcome stage) trivial rfl
  have stageTime (stage : Stage) := same (.stageTime stage) trivial rfl
  have moved (direction : Direction) := same (.moved direction) trivial rfl
  have fallbacks : fallbacksIn value' = fallbacksIn value := by
    funext stage
    refine congrArg List.sum (List.map_congr_left fun label mem => ?_)
    exact same (.fallback stage label) (Failure.notMem_of_mem_labels label mem) rfl
  have parts {stage : Stage} {came : Nat} (parts : Splits value stage came) : Splits value' stage came := by
    refine ⟨?_, ?_⟩
    · rw [stageTime]
      exact parts.completed_le
    · rw [fallbacks, stageTime]
      exact parts.fallbacks_eq
  constructor
  case outcomes => simpa only [outcome] using h.outcomes
  case fallbacks => simpa only [outcome, fallbacks] using h.fallbacks
  case labelled =>
    intro stage label plain
    rw [same (.fallback stage label) plain rfl]
    exact h.labelled stage label plain
  case staging => exact parts h.staging
  case submitted => simpa only [stageTime] using parts h.submitted
  case polling => simpa only [stageTime] using parts h.polling
  case downloading => simpa only [stageTime] using parts h.downloading
  case installed => simpa only [stageTime, outcome] using h.installed
  case downloads => simpa only [moved] using h.downloads
  case uploads => simpa only [moved] using h.uploads

end Balances

/-! ### Histories -/

namespace Account

/-- Every build has an account, which tells what it entered.

**Proof sketch.** By whether the build was worth a remote one. If it was, the entries are those of the
attempt (`booked_attempt`), of the cleanup, which has none (`booked_cleanUp`), and of the conclusion
(`booked_conclude`). -/
theorem exists_of (performed : Performed) :
    ∃ account, Of performed account ∧ performed.trace.booked = account.entries := by
  obtain ⟨area, settings, request, trace, outcome, run⟩ := performed
  cases reason : settings.ineligible? request.shape with
  | some why =>
    have ends := run_execute run
    cases ends with
    | @ineligible _ reply reason' =>
      refine ⟨.ineligible, .ineligible reason fun report => ?_, rfl⟩
      cases reply <;> rintro ⟨⟩
    | remote eligible | fallback eligible => cases eligible.symm.trans reason
  | none =>
    obtain ⟨attempt, remote, cleanup, rest, rfl, attempts, cleans, concludes⟩ :=
      (run_execute_iff reason).mp run
    obtain ⟨blobs, keys_eq, uploads, booked_eq⟩ := booked_attempt attempts
    refine ⟨.attempted blobs attempt.result, .attempted reason rfl attempts keys_eq
      (run_attempt_leaves attempts) uploads ?_ ?_, ?_⟩
    · exact remote_iff_of_conclude concludes
    · intro stage failure failed
      rcases run_attempt attempts with ⟨report, _, same, _⟩ | ⟨stage', failure', same, fails⟩
      · cases same.symm.trans failed
      · cases same.symm.trans failed
        exact fails
    · rw [Trace.booked_append, Trace.booked_append, booked_eq, booked_cleanUp cleans,
        booked_conclude concludes, List.nil_append, List.append_assoc]
      rfl

/-- No entry has a quotation mark in its labels. -/
theorem plain_of_mem_entries (account : Account) : ∀ entry ∈ account.entries, entry.1.Plain := by
  have staged (blobs : List (String × Nat)) : ∀ entry ∈ stagedEntries blobs, entry.1.Plain :=
    List.forall_mem_map.mpr fun _ _ => trivial
  have stages (list : List Stage) : ∀ entry ∈ stageEntries list, entry.1.Plain :=
    List.forall_mem_map.mpr fun _ _ => trivial
  rcases account with _ | ⟨blobs, ⟨failed, failure⟩ | report⟩
  case ineligible => exact List.forall_mem_singleton.mpr trivial
  case attempted.error =>
    refine List.forall_mem_append.mpr ⟨staged blobs, List.forall_mem_append.mpr ⟨stages _, ?_⟩⟩
    refine List.forall_mem_cons.mpr ⟨?_, List.forall_mem_singleton.mpr trivial⟩
    exact Failure.notMem_of_mem_labels _ failure.label_mem_labels
  case attempted.ok =>
    refine List.forall_mem_append.mpr ⟨staged blobs, List.forall_mem_append.mpr ⟨?_, ?_⟩⟩
    · exact List.forall_mem_append.mpr ⟨stages _, List.forall_mem_cons.mpr ⟨trivial, stages _⟩⟩
    · exact List.forall_mem_singleton.mpr trivial

/-- A series of a build grows by what is entered under its counter. -/
theorem growth_name {account : Account} {trace : Trace} (booked_eq : trace.booked = account.entries)
    {counter : Counter} (plain : counter.Plain) (other : counter.isPoll = false) :
    trace.growth counter.name = account.under counter := by
  have all_plain : ∀ entry ∈ trace.ledger, entry.1.Plain := by
    intro entry mem
    cases poll : entry.1.isPoll with
    | true =>
      obtain ⟨counter, amount⟩ := entry
      cases counter with
      | polled result => trivial
      | _ => cases poll
    | false =>
      apply account.plain_of_mem_entries
      rw [← booked_eq]
      exact List.mem_filter.mpr ⟨mem, by simp [poll]⟩
  rw [Trace.growth_name plain all_plain, Trace.total_ledger other, booked_eq, account.total_entries]

end Account

/-- **The counters of every history of builds balance.** Whatever is asked for, replied and broken off,
each build has an account, and from zero on the counters agree with the accounts: each build is counted
once, each fallback under the stage and the label of the failure that ended its attempt, each stage once
for each attempt that completed it, and all bytes that were staged and delivered.

**Proof sketch.** The series of a build grow by what is entered in its account. Counters of two histories
add up. -/
theorem Build.execute_balances (history : List Performed) :
    ∃ accounts, List.Forall₂ Account.Of history accounts ∧
      Balances history accounts fun counter =>
        (Trace.tally (history.flatMap Performed.trace)).value counter.name := by
  suffices grown : ∃ accounts, List.Forall₂ Account.Of history accounts ∧
      Balances history accounts fun counter =>
        Trace.growth counter.name (history.flatMap Performed.trace) by
    simpa only [Trace.value_tally] using grown
  induction history with
  | nil => exact ⟨[], .nil, .nil⟩
  | cons performed history ih =>
    obtain ⟨accounts, tell, balance⟩ := ih
    obtain ⟨account, tells, booked_eq⟩ := Account.exists_of performed
    have first : Balances [performed] [account] fun counter => performed.trace.growth counter.name :=
      (Balances.of_account tells).congr fun _ plain other => Account.growth_name booked_eq plain other
    refine ⟨account :: accounts, .cons tells tell, ?_⟩
    simp only [List.flatMap_cons, Trace.growth_append]
    exact first.add balance

/-- A graph is built remotely, and then the first part of another upload is lost. -/
example :
    let build (plan : List PlannedFault) : Performed :=
      .inWorld World.smallArea World.smallSettings World.smallRequest (World.small plan)
    let history := [build [], build [⟨.sendPart, some 1, .generic⟩]]
    let counters : List Counter := [.outcome .installed, .outcome .fallback,
      .fallback .staging "transfer", .stageTime .staging, .moved .upload, .moved .download]
    counters.map (fun counter => (Trace.tally (history.flatMap Performed.trace)).value counter.name) =
      [1, 1, 1, 1, 16, 3] := by
  decide +kernel

end GraphOffload
