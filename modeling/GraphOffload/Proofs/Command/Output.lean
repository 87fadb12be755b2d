import GraphOffload.Proofs.Command.Preparing
import GraphOffload.Simulation.Machine

/-!
# The output file of a build

A command that builds a graph creates the file for it, or empties it if it is there, before the build
begins. If the command succeeds the file holds the graph, as it was read from the store. If the build
fails the file is still empty, unless it could itself not be written: then it may hold a beginning of
the graph. What was in it before is gone.

## Main definitions

* `GraphOffload.ShellTrace.content` : what a file holds after a trace.
* `GraphOffload.ShellTrace.ReadsGraph` : the graph of a job that was completed, as it was read.
* `GraphOffload.Command.Built` : how the building of a graph into a file ends.
* `GraphOffload.Command.Leaves` : what a command leaves in the output file.

## Main results

* `GraphOffload.Command.built_of_run` : a graph is built in one of these ways.
* `GraphOffload.Command.run_leaves` : what every run of a command leaves in its output file.
* `GraphOffload.Command.not_run_keeps_output` : it does not keep what was there if the build fails.
-/

namespace GraphOffload

/-! ### Files -/

/-- A file, as far as a command writes to it: what it holds, if it is there, and whether it is the sink
of the build. -/
structure OutputFile where
  content : Option Bytes
  isSink : Bool := false

/-- What an exchange with the shell does to the file of a path. A file that is created is the sink from
then on, and holds what the sink takes. -/
def ShellExchange.onFile (path : String) : ShellExchange → OutputFile → OutputFile
  | ⟨.createSink created, .ok ()⟩, file =>
    if created = path then ⟨some [], true⟩ else { file with isSink := false }
  | ⟨.work call, reply⟩, file =>
    if file.isSink then
      { file with content := file.content.map (· ++ Exchange.taken ⟨call, reply⟩) }
    else file
  | _, file => file

namespace ShellTrace

variable {trace front back : ShellTrace} {path : String}

/-- What a trace does to the file of a path. -/
def onFile (path : String) (trace : ShellTrace) (file : OutputFile) : OutputFile :=
  trace.foldl (fun file exchange => ShellExchange.onFile path exchange file) file

/-- What the file of a path holds after a trace, if it is there. -/
def content (path : String) (before : Option Bytes) (trace : ShellTrace) : Option Bytes :=
  (trace.onFile path ⟨before, false⟩).content

/-- What two traces do to a file they do one after the other. -/
@[simp] theorem onFile_append {file : OutputFile} :
    ShellTrace.onFile path (front ++ back) file = back.onFile path (front.onFile path file) :=
  List.foldl_append

/-- Quiet calls leave every file as it is. -/
theorem onFile_of_quiet (quiet : ∀ exchange ∈ trace, exchange.1.IsQuiet) (file : OutputFile) :
    trace.onFile path file = file := by
  induction trace with
  | nil => rfl
  | cons exchange rest ih =>
    obtain ⟨first, others⟩ := List.forall_mem_cons.mp quiet
    have same : ShellExchange.onFile path exchange file = file := by
      obtain ⟨call, reply⟩ := exchange
      cases call <;> first | exact first.elim | rfl
    show ShellTrace.onFile path rest (ShellExchange.onFile path exchange file) = file
    rw [same, ih others]

/-- The sink holds what it took since it was created. -/
theorem onFile_sink (no_other : ∀ exchange ∈ trace, ∀ created, exchange.1 ≠ .createSink created)
    (bytes : Bytes) :
    trace.onFile path ⟨some bytes, true⟩ = ⟨some (bytes ++ trace.work.sunk), true⟩ := by
  induction trace generalizing bytes with
  | nil => simp [onFile]
  | cons exchange rest ih =>
    obtain ⟨first, others⟩ := List.forall_mem_cons.mp no_other
    have rest_eq := ih others
    obtain ⟨call, reply⟩ := exchange
    cases call with
    | createSink created => exact absurd rfl (first created)
    | work call =>
      have work_eq : ShellTrace.work (⟨.work call, reply⟩ :: rest) = ⟨call, reply⟩ :: work rest := rfl
      show ShellTrace.onFile path rest ⟨some (bytes ++ Exchange.taken ⟨call, reply⟩), true⟩ = _
      rw [rest_eq, work_eq, Trace.sunk_cons, List.append_assoc]
    | _ => exact rest_eq bytes

/-- A file that is created after quiet calls, and no other one after it, holds what the sink took. -/
theorem content_of_created (quiet : ∀ exchange ∈ front, exchange.1.IsQuiet)
    (no_other : ∀ exchange ∈ back, ∀ created, exchange.1 ≠ .createSink created)
    (before : Option Bytes) :
    content path before (front ++ ⟨.createSink path, .ok ()⟩ :: back) = some back.work.sunk := by
  have created : ShellExchange.onFile path ⟨.createSink path, .ok ()⟩ ⟨before, false⟩ =
      ⟨some [], true⟩ := if_pos rfl
  have split : ShellTrace.onFile path (⟨.createSink path, .ok ()⟩ :: back) ⟨before, false⟩ =
      back.onFile path (ShellExchange.onFile path ⟨.createSink path, .ok ()⟩ ⟨before, false⟩) := rfl
  rw [content, onFile_append, onFile_of_quiet quiet, split, created, onFile_sink no_other,
    List.nil_append]

end ShellTrace

/-! ### Graphs -/

/-- The graph of a job that was completed, as it was read from a container. -/
def Trace.ReadsGraph (container : String) (trace : Trace) (graph : Bytes) : Prop :=
  ∃ jobId location path, trace.Completes jobId location ∧
    (location.bucketName = "" ∨ location.bucketName = container) ∧
    ObjectPath.parse location.graphKey = .ok path ∧ trace.ReadsAs path graph

/-- The graph of a job that a server said was completed, as the shell read it from a container. -/
def ShellTrace.ReadsGraph (container : String) (client : ServiceClient) (trace : ShellTrace)
    (graph : Bytes) : Prop :=
  ∃ jobId location path, trace.Completes client jobId location ∧
    (location.bucketName = "" ∨ location.bucketName = container) ∧
    ObjectPath.parse location.graphKey = .ok path ∧ trace.work.ReadsAs path graph

namespace Build

open Attempting

variable {area : StagingArea} {settings : BuildSettings} {request : BuildRequest} {trace : Trace}
  {outcome : Except Failure BuildOutcome}

/-- What is left in the sink when no local builder is there: the graph if the build succeeds, and if it
fails nothing, or a beginning of the graph if the sink failed. -/
structure LeavesInSink (container : String) (trace : Trace) (outcome : Except Failure BuildOutcome) :
    Prop where
  whole : ∀ report, outcome = .ok report → trace.ReadsGraph container trace.sunk
  part : ∀ failure, outcome = .error failure → trace.sunk = [] ∨
    (∃ exchange ∈ trace, exchange.SinkFails) ∧
      ∃ graph, trace.ReadsGraph container graph ∧ trace.sunk <+: graph

/-- The graph was read as before, as long as nothing more is fetched. -/
theorem readsGraph_append {container : String} {front back : Trace} {graph : Bytes}
    (reads : front.ReadsGraph container graph) (unread : back.ranges = []) :
    Trace.ReadsGraph container (front ++ back) graph := by
  obtain ⟨jobId, location, path, completes, here, parsed, reads⟩ := reads
  exact ⟨jobId, location, path, completes.append _, here, parsed, reads.append unread⟩

/-- A remote build that failed left nothing in the sink, or a beginning of the graph. -/
theorem FailsFirst.sunk_prefix {stage : Stage} {failure : Failure}
    (fails : FailsFirst area settings request trace stage failure) (refuses : trace.RefusesEmptyRanges) :
    trace.sunk = [] ∨ (∃ exchange ∈ trace, exchange.SinkFails) ∧
      ∃ graph, trace.ReadsGraph area.container graph ∧ trace.sunk <+: graph := by
  rcases fails.upTo_or_sink with untouched |
    ⟨before, writes, _, jobId, location, _, _, rfl, fetched, writing⟩
  · exact .inl untouched.sunk_eq_nil
  have untouched := fetched.upTo.sunk_eq_nil
  obtain ⟨completes, here, _⟩ := fetched.of_fetched
  rw [Trace.sunk_append, untouched, List.nil_append]
  rcases run_writeInOrder_of_fetched fetched writing refuses.of_append with
    ⟨rfl, _⟩ | ⟨path, graph, parsed, reads, _, part⟩
  · exact .inl rfl
  · obtain ⟨takes, exchange, mem, fails⟩ := part failure rfl
    refine .inr ⟨⟨exchange, List.mem_append_right _ mem, fails⟩, graph, ?_, takes⟩
    exact ⟨jobId, location, path, completes.append _, (not_and_or.mp here).imp not_not.mp not_not.mp,
      parsed, reads.append (unread_of_writes writing)⟩

/-- What comes after a remote build that failed neither fetches nor writes. -/
theorem phase_ne_of_fallback {cleanup : Trace} {counted counted' : Measurement}
    {reply : Except Failure Unit} {phase : Nat}
    (cleans : ∀ exchange ∈ cleanup, ∃ path, exchange.1 = .delete path) (h : phase = 3 ∨ phase = 4) :
    ∀ exchange ∈ cleanup ++
        [⟨.count counted, ()⟩, ⟨.count counted', ()⟩, ⟨.buildLocally request, reply⟩],
      exchange.1.phase ≠ phase := by
  refine List.forall_mem_append.mpr ⟨fun exchange mem => ?_, ?_⟩
  · obtain ⟨path, is_delete⟩ := cleans exchange mem
    rw [is_delete, Call.phase]
    omega
  · simp only [List.forall_mem_cons, Call.phase]
    exact ⟨by omega, by omega, by omega, by simp⟩

/-- **What a build leaves in the sink when no local builder is there.**

**Proof sketch.** By how the build ends (`run_execute`). Without a builder only a remote build, or one
that failed at the sink (`FailsFirst.sunk_prefix`), has written anything; and what comes later neither
writes nor fetches. -/
theorem leavesInSink_of_run (run : Run (execute area settings request) trace outcome)
    (refuses : trace.RefusesEmptyRanges)
    (no_builder : ∀ request reply, ⟨.buildLocally request, reply⟩ ∈ trace →
      ∃ failure, reply = .error failure) : LeavesInSink area.container trace outcome := by
  cases run_execute run with
  | @ineligible why reply reason =>
    obtain ⟨failure, rfl⟩ := no_builder request reply (by simp)
    exact ⟨by simp [Except.map], fun _ _ => .inl rfl⟩
  | @remote remote cleanup report location eligible graph delivered cleans =>
    obtain ⟨completes, here, path, parsed, reads, _⟩ := delivered.of_delivered refuses.of_append
    have later : Later (cleanup ++ [⟨.count (.outcome .installed), ()⟩]) :=
      List.forall_mem_append.mpr ⟨fun e mem => .inl (cleans e mem), by simp [Call.IsIdle]⟩
    refine ⟨fun report' _ => ?_, by simp⟩
    rw [Trace.sunk_append, Trace.sunk_eq_nil (later.phase_ne (.inr rfl)), List.append_nil]
    refine readsGraph_append ?_ (Trace.ranges_eq_nil (later.phase_ne (.inl rfl)))
    exact ⟨_, location, path, completes, (not_and_or.mp here).imp not_not.mp not_not.mp, parsed, reads⟩
  | @fallback remote cleanup stage failure reply eligible fails cleans =>
    obtain ⟨failure', rfl⟩ := no_builder request reply (by simp)
    refine ⟨by simp [Except.map], fun _ _ => ?_⟩
    rcases fails.sunk_prefix refuses.of_append with nothing | ⟨⟨exchange, mem, fails⟩, graph, reads, takes⟩
    · refine .inl ?_
      rw [Trace.sunk_append, nothing]
      exact Trace.sunk_eq_nil (phase_ne_of_fallback cleans (.inr rfl))
    · refine .inr ⟨⟨exchange, List.mem_append_left _ mem, fails⟩, graph, readsGraph_append reads ?_, ?_⟩
      · exact Trace.ranges_eq_nil (phase_ne_of_fallback cleans (.inl rfl))
      · rw [Trace.sunk_append, Trace.sunk_eq_nil (phase_ne_of_fallback cleans (.inr rfl)),
          List.append_nil]
        exact takes

end Build

namespace Command

/-! ### Building into a file -/

section

variable {settings : Settings} {client : ServiceClient} {arguments : BuildArguments}
  {trace : ShellTrace}

/-- How the building of a graph into a file ends: it breaks, or the file is created before the build,
and flushed after it. -/
inductive Built (settings : Settings) (client : ServiceClient) (arguments : BuildArguments) :
    ShellTrace → Except Ending Unit → Prop
  | broken {trace : ShellTrace} : Built settings client arguments trace (.error .broken)
  | built {file : FlatFile} {front made : ShellTrace} {calls : Trace} {result : BuildOutcome}
      (quiet : ∀ exchange ∈ front, exchange.1.IsQuiet)
      (run : Attempting.Run (Build.execute (stagingArea settings) settings.toBuild
        (request arguments file)) calls (.ok result))
      (served : Served client settings.service.requestTimeout.toNat calls made) :
      Built settings client arguments
        (front ++ ⟨.createSink arguments.output, .ok ()⟩ :: (made ++ [⟨.work .flush, .ok ()⟩]))
        (.ok ())
  | failed {file : FlatFile} {front made : ShellTrace} {calls : Trace} {failure : Failure} {text : String}
      (quiet : ∀ exchange ∈ front, exchange.1.IsQuiet)
      (run : Attempting.Run (Build.execute (stagingArea settings) settings.toBuild
        (request arguments file)) calls (.error failure))
      (served : Served client settings.service.requestTimeout.toNat calls made) :
      Built settings client arguments
        (front ++ ⟨.createSink arguments.output, .ok ()⟩ ::
          (made ++ [⟨.work .flush, .ok ()⟩, ⟨.complain text, ()⟩]))
        (.error .failed)

/-- A graph is built in one of these ways.

**Proof sketch.** Call by call. Each of them may break the command; when all went well the build was run
between the creation of the file and its flush, and its calls are those that the shell made for it
(`Dialogue.interpreted_of_run`). -/
theorem built_of_run {outcome : Except Ending Unit}
    (run : Dialogue.Run (build settings client arguments).run trace outcome) :
    Built settings client arguments trace outcome := by
  unfold build at run
  obtain ⟨content, rest, rfl, run₁⟩ := run_perform_bind run
  rcases run_orBroken_bind run₁ with rfl | ⟨file, _, run₂⟩
  · exact .broken
  obtain ⟨directory, rest, rfl, run₃⟩ := run_perform_bind run₂
  rcases run_orBroken_bind run₃ with rfl | ⟨backend, _, run₄⟩
  · exact .broken
  obtain ⟨opened, rest, rfl, run₅⟩ := run_perform_bind run₄
  rcases run_orBroken_bind run₅ with rfl | ⟨_, _, run₆⟩
  · exact .broken
  obtain ⟨created, rest, rfl, run₇⟩ := run_perform_bind run₆
  rcases run_orBroken_bind run₇ with rfl | ⟨_, is_created, run₈⟩
  · exact .broken
  obtain ⟨result, made, rest, rfl, making, run₉⟩ := run_lift_bind run₈
  obtain ⟨calls, executes, served⟩ := Dialogue.interpreted_of_run making
  obtain ⟨flushed, rest, rfl, run₁₀⟩ := run_perform_bind run₉
  rcases run_orBroken_bind run₁₀ with rfl | ⟨_, is_flushed, run₁₁⟩
  · exact .broken
  -- nothing broke, so that the file was created and its content flushed
  cases created with
  | error fault => cases is_created
  | ok _ =>
    cases flushed with
    | error fault => cases is_flushed
    | ok _ =>
      have quiet : ∀ exchange ∈ ([⟨.openCorpus arguments.input, content⟩,
          ⟨.workingDirectory, directory⟩, ⟨.openStore backend, opened⟩] : ShellTrace),
          exchange.1.IsQuiet := by
        simp [ShellCall.IsQuiet]
      cases result with
      | ok result =>
        obtain ⟨rfl, rfl⟩ := Dialogue.run_done_iff.mp run₁₁
        exact .built quiet executes served
      | error failure =>
        obtain ⟨rfl, rfl⟩ := run_stop_iff.mp run₁₁
        exact .failed quiet executes served

/-! ### What is left in the file -/

variable {calls : Trace} {patience : Nat} {path : String} {front made rest : ShellTrace}

/-- The shell saw the calls of the build after the file was created. -/
theorem work_of_created (quiet : ∀ exchange ∈ front, exchange.1.IsQuiet) {back : ShellTrace} :
    ShellTrace.work (front ++ ⟨.createSink path, .ok ()⟩ :: back) = back.work := by
  rw [ShellTrace.work_append, work_of_quiet quiet, List.nil_append]
  rfl

/-- A file that is created before a build holds what the build left in the sink. -/
theorem content_of_served (quiet : ∀ exchange ∈ front, exchange.1.IsQuiet)
    (served : Served client patience calls made)
    (no_other : ∀ exchange ∈ rest, ∀ created, exchange.1 ≠ .createSink created)
    (unsunk : rest.work.sunk = []) (before : Option Bytes) :
    ShellTrace.content path before (front ++ ⟨.createSink path, .ok ()⟩ :: (made ++ rest)) =
      some calls.sunk := by
  have none_created := List.forall_mem_append.mpr ⟨served.ne_createSink, no_other⟩
  rw [ShellTrace.content_of_created quiet none_created, ShellTrace.work_append, Trace.sunk_append,
    unsunk, List.append_nil, served.sunk_work]

/-- A build sees no more of the store than the shell does. -/
theorem refuses_of_served (quiet : ∀ exchange ∈ front, exchange.1.IsQuiet)
    (served : Served client patience calls made)
    (refuses : Trace.RefusesEmptyRanges
      (ShellTrace.work (front ++ ⟨.createSink path, .ok ()⟩ :: (made ++ rest)))) :
    calls.RefusesEmptyRanges := by
  rw [work_of_created quiet, ShellTrace.work_append] at refuses
  have refuses := refuses.of_append
  rw [Trace.RefusesEmptyRanges, served.ranges_work] at refuses
  exact refuses

/-- The graph that a build read, the shell read. -/
theorem readsGraph_of_served {container : String} {graph : Bytes}
    (quiet : ∀ exchange ∈ front, exchange.1.IsQuiet) (served : Served client patience calls made)
    (unread : rest.work.ranges = []) (reads : calls.ReadsGraph container graph) :
    ShellTrace.ReadsGraph container client
      (front ++ ⟨.createSink path, .ok ()⟩ :: (made ++ rest)) graph := by
  obtain ⟨jobId, location, place, completes, here, parsed, reads⟩ := reads
  refine ⟨jobId, location, place, ?_, here, parsed, ?_⟩
  · obtain ⟨request, patience', deadline, answer, reply, asked, mem, means⟩ := served.completes completes
    exact ⟨request, patience', deadline, answer, reply, asked, by simp [mem], means⟩
  · rw [work_of_created quiet, ShellTrace.work_append]
    exact (served.readsAs reads).append unread

end

/-! ### Whole commands -/

/-- The settings and the client of a command are those that it finds in the files and the environment of
the machine. -/
def Configures (line : CommandLine) (trace : ShellTrace) (settings : Settings)
    (client : ServiceClient) : Prop :=
  ∃ file front back, trace = ⟨.nearestFile ".env", file⟩ :: (front ++ back) ∧
    Dialogue.Run (Command.settings (DotEnv.parse (file.getD [])) line.settingsFile).run front
      (.ok settings) ∧
    ServiceClient.ofSettings settings.service = .ok client

/-- What a command that builds a graph leaves in the output file, whatever was there before. If it
succeeds, the graph of a job that was completed. If the build fails, nothing, or a beginning of such a
graph if the file could not be written; for the file was created or emptied before the build made its
first call. -/
structure Leaves (line : CommandLine) (output : String) (trace : ShellTrace) (ending : Ending) :
    Prop where
  success : ending.code = 0 → ∃ settings client graph, Configures line trace settings client ∧
    trace.ReadsGraph settings.storage.bucket client graph ∧
    ∀ before, trace.content output before = some graph
  emptied : ending.code = 1 → ∃ front back,
    trace = front ++ ⟨.createSink output, .ok ()⟩ :: back ∧ ShellTrace.work front = []
  failure : ending.code = 1 → ∃ kept, (∀ before, trace.content output before = some kept) ∧
    (kept = [] ∨ (∃ exchange ∈ trace.work, exchange.SinkFails) ∧
      ∃ settings client graph, Configures line trace settings client ∧
        trace.ReadsGraph settings.storage.bucket client graph ∧ kept <+: graph)

/-- How a command ends, by what came of it. -/
def endingOf : Except Ending Unit → Ending
  | .ok () => .success
  | .error ending => ending

/-- A command that breaks promises nothing. -/
theorem leaves_of_broken {line : CommandLine} {output : String} {trace : ShellTrace} :
    Leaves line output trace .broken := by
  constructor <;> exact fun code => absurd code (by decide)

/-- What is left in the output file after the building of a graph.

**Proof sketch.** The file was created after quiet calls, and holds what the build left in the sink.
There is no local builder, so that the build succeeds only with a remote graph. -/
theorem Built.leaves {line : CommandLine} {settings : Settings} {client : ServiceClient}
    {arguments : BuildArguments} {front back : ShellTrace} {outcome : Except Ending Unit}
    (built : Built settings client arguments back outcome)
    (quiet : ∀ exchange ∈ front, exchange.1.IsQuiet)
    (configures : Configures line (front ++ back) settings client)
    (refuses : (ShellTrace.work (front ++ back)).RefusesEmptyRanges) :
    Leaves line arguments.output (front ++ back)
      (endingOf outcome) := by
  cases built with
  | broken => exact leaves_of_broken
  | @built file front' made calls result quiet' executes served =>
    have all_quiet := List.forall_mem_append.mpr ⟨quiet, quiet'⟩
    rw [← List.append_assoc] at configures refuses ⊢
    have leaves := Build.leavesInSink_of_run executes (refuses_of_served all_quiet served refuses)
      fun _ _ mem => ⟨_, served.no_builder mem⟩
    constructor
    case success =>
      refine fun _ => ⟨settings, client, calls.sunk, configures, ?_, ?_⟩
      · exact readsGraph_of_served all_quiet served rfl (leaves.whole result rfl)
      · exact content_of_served all_quiet served (by simp) rfl
    all_goals exact fun code => absurd code UInt8.zero_ne_one
  | @failed file front' made calls failure text quiet' executes served =>
    have all_quiet := List.forall_mem_append.mpr ⟨quiet, quiet'⟩
    rw [← List.append_assoc] at configures refuses ⊢
    have leaves := Build.leavesInSink_of_run executes (refuses_of_served all_quiet served refuses)
      fun _ _ mem => ⟨_, served.no_builder mem⟩
    constructor
    case success => exact fun code => absurd code UInt8.zero_ne_one.symm
    case emptied => exact fun _ => ⟨_, _, rfl, work_of_quiet all_quiet⟩
    case failure =>
      refine fun _ => ⟨calls.sunk, content_of_served all_quiet served (by simp) rfl, ?_⟩
      rcases leaves.part failure rfl with nothing | ⟨fails, graph, reads, takes⟩
      · exact .inl nothing
      · refine .inr ⟨?_, settings, client, graph, configures, ?_, takes⟩
        · obtain ⟨exchange, mem, fails⟩ := served.exists_sinkFails fails
          rw [work_of_created all_quiet, ShellTrace.work_append]
          exact ⟨exchange, List.mem_append_left _ mem, fails⟩
        · exact readsGraph_of_served all_quiet served rfl reads

/-- **What a command leaves in its output file.** -/
theorem run_leaves {words : List String} {line : CommandLine} {arguments : BuildArguments}
    {trace : ShellTrace} {ending : Ending} (run : Dialogue.Run (Command.run words) trace ending)
    (parsed : CommandLine.parse words = .ok line) (action : line.action = .build arguments)
    (refuses : trace.work.RefusesEmptyRanges) : Leaves line arguments.output trace ending := by
  obtain ⟨file, rest, rfl, run₁⟩ := Dialogue.run_request_bind_iff.mp run
  rw [parsed] at run₁
  obtain ⟨outcome, acts, back, rfl, acting, ended⟩ := Dialogue.run_bind_iff.mp run₁
  have ends : back = [] ∧ ending = endingOf outcome := by
    cases outcome <;> exact Dialogue.run_done_iff.mp ended
  obtain ⟨rfl, rfl⟩ := ends
  rw [List.append_nil] at refuses ⊢
  rcases Dialogue.run_bindCont_iff.mp acting with ⟨ending, rfl, loading⟩ |
    ⟨settings, front, back, rfl, loading, run₂⟩
  · obtain rfl := (prepares_settings _ _ _ _ loading).2 ending rfl
    exact leaves_of_broken
  rcases run_orBroken_bind run₂ with rfl | ⟨client, connected, run₃⟩
  · exact leaves_of_broken
  rw [action] at run₃
  have quiet : ∀ exchange ∈ (⟨.nearestFile ".env", file⟩ :: front : ShellTrace),
      exchange.1.IsQuiet :=
    List.forall_mem_cons.mpr ⟨trivial, (prepares_settings _ _ _ _ loading).1⟩
  exact (built_of_run run₃).leaves quiet ⟨file, front, back, rfl, loading, connected⟩ refuses

/-- A machine with a file of one vector, and an output file from before. -/
def smallMachine : Machine where
  directory := ["work"]
  environment := [("GRAPHLIFT_STORAGE_BACKEND", Utf8.bytes "memory")]
  files := [(["work", "in"], [1, 0, 0, 0, 1, 0, 0, 0, 0, 0, 0, 0]), (["work", "out"], [103])]
  server := { port := 80 }
  world := { corpus := .absent }

/-- The machine with a store on disk, in which a graph lies, and a server that is done at once. -/
def servedMachine : Machine :=
  { smallMachine with
    environment :=
      [("GRAPHLIFT_REMOTE_BUILD_ENABLED", Utf8.bytes "true"),
        ("GRAPHLIFT_REMOTE_BUILD_SIZE_THRESHOLD_BYTES", Utf8.bytes "0"),
        ("GRAPHLIFT_STORAGE_BACKEND", Utf8.bytes "local"),
        ("GRAPHLIFT_STORAGE_LOCAL_PATH", Utf8.bytes "store"),
        ("GRAPHLIFT_STORAGE_BUCKET", Utf8.bytes "b"),
        ("GRAPHLIFT_BUILD_SERVICE_ENDPOINT", Utf8.bytes "http://127.0.0.1:8080")]
    files := smallMachine.files ++ [(["work", "store", "g"], [7, 8, 9])]
    server :=
      { port := 8080
        answers :=
          [⟨{ status := 200, body := Utf8.bytes "\x7b\"job_id\": \"j\"\x7d" }, false⟩,
            ⟨{ status := 200
               body := Utf8.bytes ("\x7b\"status\": \"completed\", \"result\": " ++
                "\x7b\"bucketName\": \"\", \"graphFileLocation\": \"g\"\x7d\x7d") }, false⟩] } }

/-- The words of a small build. -/
def smallWords : List String := ["build", "--input", "in", "--output", "out"]

/-- What the words of a small build mean. -/
def smallArguments : BuildArguments := ⟨"in", "out", "vector", "_0", .l2, "faiss"⟩

/-- The words mean a build. -/
theorem parse_smallWords : CommandLine.parse smallWords = .ok ⟨none, .build smallArguments⟩ := by
  decide +kernel

/-- What passes between a small build and the machine that serves it. -/
def smallTrace : ShellTrace := (Command.run smallWords).transcript Machine.answer servedMachine

/-- A graph that is done at once takes the place of what was in the output file. -/
theorem run_leaves_small_graph :
    Leaves ⟨none, .build smallArguments⟩ "out" smallTrace .success ∧
      smallTrace.content "out" (some [103]) = some [7, 8, 9] := by
  have run := Dialogue.run_transcript Machine.answer (Command.run smallWords) servedMachine
  -- one evaluation of the whole command serves all three
  obtain ⟨success, refuses, holds⟩ :
      (Dialogue.play Machine.answer (Command.run smallWords) servedMachine).1 = .success ∧
        (∀ range ∈ smallTrace.work.ranges, range.start < range.finish) ∧
        smallTrace.content "out" (some [103]) = some [7, 8, 9] := by
    decide +kernel
  rw [success] at run
  exact ⟨run_leaves run parse_smallWords rfl refuses, holds⟩

/-- A build that fails does not keep what was in the output file. -/
theorem not_run_keeps_output :
    ¬ ∀ (machine : Machine) (words : List String) (line : CommandLine) (arguments : BuildArguments),
      CommandLine.parse words = .ok line → line.action = .build arguments →
      (machine.run words).1.code = 1 →
        (machine.run words).2.read (machine.locate arguments.output) =
          machine.read (machine.locate arguments.output) := by
  intro keeps
  obtain ⟨failed, before, after⟩ : (smallMachine.run smallWords).1.code = 1 ∧
      smallMachine.read (smallMachine.locate "out") = .ok [103] ∧
      (smallMachine.run smallWords).2.read (smallMachine.locate "out") = .ok [] := by
    decide +kernel
  have kept := keeps smallMachine smallWords _ _ parse_smallWords rfl failed
  rw [show smallArguments.output = "out" from rfl, before, after] at kept
  exact absurd (Except.ok.inj kept) (by decide)

end Command

end GraphOffload
