import GraphOffload.Proofs.Build.Calls
import GraphOffload.Proofs.Storage.Ranges
import GraphOffload.Proofs.Transfer.Fetching
import GraphOffload.Proofs.Transfer.Writing

/-!
# What a build leaves in the sink

A remote build writes the graph that it read from the store, all of it, and nothing else. If it
gives way to the local builder, nothing lies in the sink unless the sink itself failed, and then a
prefix of the graph.

## Main definitions

* `GraphOffload.Trace.Completes` : the service said that a job is done, and where its graph lies.
* `GraphOffload.Trace.Concludes` : that was the last that the service was asked.
* `GraphOffload.Build.Delivers` : what sink and outcome have to do with each other.

## Main results

* `GraphOffload.Poll.run_awaitCompletion` : the wait for a job succeeds only with what the service
  said.
* `GraphOffload.Build.execute_delivers` : what a build leaves in the sink, remote or not.
-/

namespace GraphOffload

open Attempting

/-- The service said that a job is done, and where its graph lies. -/
def Trace.Completes (trace : Trace) (jobId : String) (location : GraphLocation) : Prop :=
  ∃ deadline reply, ⟨.status jobId deadline, some (.ok reply)⟩ ∈ trace ∧
    reply.status = .completed ∧ reply.result = some location

/-- The service said so at last: it was not asked anything afterwards. -/
def Trace.Concludes (trace : Trace) (jobId : String) (location : GraphLocation) : Prop :=
  ∃ front deadline reply back, trace = front ++ ⟨.status jobId deadline, some (.ok reply)⟩ :: back ∧
    reply.status = .completed ∧ reply.result = some location ∧ Trace.Idle back

/-- What the service said at last, it said. -/
theorem Trace.Concludes.completes {trace : Trace} {jobId : String} {location : GraphLocation}
    (h : trace.Concludes jobId location) : trace.Completes jobId location := by
  obtain ⟨front, deadline, reply, back, rfl, completed, found, _⟩ := h
  exact ⟨deadline, reply, by simp, completed, found⟩

/-- What was said before does not matter. -/
theorem Trace.Concludes.after {trace : Trace} {jobId : String} {location : GraphLocation}
    (h : trace.Concludes jobId location) (front : Trace) :
    Trace.Concludes (front ++ trace) jobId location := by
  obtain ⟨middle, deadline, reply, back, rfl, done⟩ := h
  exact ⟨front ++ middle, deadline, reply, back, by simp, done⟩

/-! ### Waiting for the job -/

namespace Poll

variable {settings : BuildSettings} {jobId : String} {started : Nat} {trace : Trace}
  {location : GraphLocation}

/-- What decides that a job is done is the service's word. -/
theorem verdict?_eq_ok {reply : StatusReply} (h : verdict? jobId reply = some (.ok location)) :
    reply.status = .completed ∧ reply.result = some location := by
  unfold verdict? at h
  split at h
  · rename_i completed
    split at h
    · rename_i found
      obtain rfl := Except.ok.inj (Option.some.inj h)
      exact ⟨completed, found⟩
    · exact nomatch Option.some.inj h
  · exact nomatch Option.some.inj h
  · exact nomatch h

/-- After a pause the next call decides, or the time is up. -/
theorem run_pause_bind {next : Attempting GraphLocation}
    (run : Run (do if ← pause settings.pollInterval (started + settings.pollTimeout) then
      timeUp jobId started else next) trace (.ok location)) :
    ∃ front back, trace = front ++ back ∧ Run next back (.ok location) := by
  rcases run_bind_iff.mp run with ⟨failure, same, _⟩ | ⟨late, front, back, rfl, _, later⟩
  · exact nomatch same
  · cases late with
    | true =>
      obtain ⟨_, _, same⟩ := run_attempt_iff.mp later
      exact nomatch same
    | false => exact ⟨front, back, rfl, later⟩

/-- The wait for a job succeeds only with what the service said.

**Proof sketch.** Induction on the calls that may be made. The wait succeeds only with the verdict on a
reply (`verdict?_eq_ok`), and makes no other call on the service then. -/
theorem run_pollFrom {calls failed : Nat}
    (run : Run (pollFrom settings jobId started calls failed) trace (.ok location)) :
    trace.Concludes jobId location := by
  induction calls generalizing failed trace with
  | zero =>
    obtain ⟨_, _, same⟩ := run_attempt_iff.mp run
    exact nomatch same
  | succ calls ih =>
    obtain ⟨reply, rest, rfl, run₁⟩ := run_attempt_ok_bind_iff.mp run
    rcases reply with _ | failure | reply
    · obtain ⟨rest, rfl, run₂⟩ := run_count_bind_iff.mp run₁
      obtain ⟨_, _, same⟩ := run_attempt_iff.mp run₂
      exact nomatch same
    · obtain ⟨rest, rfl, run₂⟩ := run_count_bind_iff.mp run₁
      split at run₂
      · exact nomatch (run_throw_iff.mp run₂).2
      · obtain ⟨front, back, rfl, run₃⟩ := run_pause_bind run₂
        exact (ih run₃).after (_ :: _ :: front)
    · obtain ⟨rest, rfl, run₂⟩ := run_count_bind_iff.mp run₁
      split at run₂
      · rename_i outcome decided
        obtain ⟨rfl, rfl⟩ := run_ofExcept_iff.mp run₂
        obtain ⟨completed, found⟩ := verdict?_eq_ok decided
        exact ⟨[], _, reply, _, rfl, completed, found, by simp [Trace.Idle, Call.IsIdle]⟩
      · obtain ⟨front, back, rfl, run₃⟩ := run_pause_bind run₂
        exact (ih run₃).after (_ :: _ :: front)

/-- **A job that was waited for until it was done** is one of which the service said so at last. -/
theorem run_awaitCompletion (run : Run (awaitCompletion settings jobId) trace (.ok location)) :
    trace.Concludes jobId location := by
  obtain ⟨_, rest, rfl, run₁⟩ := run_attempt_ok_bind_iff.mp run
  exact (run_pollFrom run₁).after [_]

end Poll

/-! ### What does not matter -/

namespace Trace

variable {trace front back : Trace} {path : ObjectPath} {bytes : Bytes}

/-- It was said, whatever comes afterwards. -/
theorem Completes.append {jobId : String} {location : GraphLocation} (h : front.Completes jobId location)
    (back : Trace) : Trace.Completes (front ++ back) jobId location := by
  obtain ⟨deadline, reply, mem, done⟩ := h
  exact ⟨deadline, reply, List.mem_append_left _ mem, done⟩

/-- Ranges are fetched by the calls of the fetching. -/
theorem ranges_eq_nil (h : ∀ exchange ∈ trace, exchange.1.phase ≠ 3) : trace.ranges = [] := by
  refine List.filterMap_eq_nil_iff.mpr fun exchange mem => ?_
  obtain ⟨call, reply⟩ := exchange
  cases call with
  | endRange path start finish => exact absurd rfl (h _ mem)
  | _ => rfl

/-- Only writes leave something in the sink. -/
theorem sunk_eq_nil (h : ∀ exchange ∈ trace, exchange.1.phase ≠ 4) : trace.sunk = [] := by
  refine List.flatMap_eq_nil_iff.mpr fun exchange mem => ?_
  obtain ⟨call, reply⟩ := exchange
  cases call with
  | write data => exact absurd rfl (h _ mem)
  | _ => rfl

/-- The object was read as before, as long as no more of it is fetched. -/
theorem ReadsAs.append (h : front.ReadsAs path bytes) (unread : back.ranges = []) :
    Trace.ReadsAs (front ++ back) path bytes := by
  have ranges_eq : Trace.ranges (front ++ back) = front.ranges := by
    rw [ranges_append, unread, List.append_nil]
  obtain ⟨⟨size, mem, size_eq⟩, slices, covers⟩ := h
  refine ⟨⟨size, List.mem_append_left _ mem, size_eq⟩, ?_, ?_⟩
  · rwa [ranges_eq]
  · rwa [ranges_eq]

/-- What refuses empty ranges in a trace does so in its beginning. -/
theorem RefusesEmptyRanges.of_append (h : Trace.RefusesEmptyRanges (front ++ back)) :
    front.RefusesEmptyRanges :=
  fun range mem => h range (by rw [ranges_append]; exact List.mem_append_left _ mem)

end Trace

namespace Build

variable {area : StagingArea} {settings : BuildSettings} {request : BuildRequest} {trace : Trace}

/-- Before the fetching no range is fetched. -/
theorem UpTo.ranges_eq_nil (h : UpTo 2 trace) : trace.ranges = [] :=
  Trace.ranges_eq_nil fun e mem => by have := h e mem; omega

/-- Before the writing nothing is written. -/
theorem UpTo.sunk_eq_nil (h : UpTo 3 trace) : trace.sunk = [] :=
  Trace.sunk_eq_nil fun e mem => by have := h e mem; omega

/-! ### The fetched graph -/

/-- When a graph was fetched, the service had named it, it lies in the right container, and all that
was fetched are its chunks.

**Proof sketch.** The way to the milestone leads over the wait (`Poll.run_awaitCompletion`), the size
(`run_head_ok`) and the fetching (`Download.run_fetchAll`); none but the last fetches ranges. -/
theorem Reaches.of_fetched {blobs : StagedBlobs} {jobId : String} {location : GraphLocation}
    {size : UInt64} {chunks : List (Nat × Bytes)}
    (reaches : Reaches area settings request trace (.fetched blobs jobId location size chunks)) :
    trace.Completes jobId location ∧ ¬ LiesElsewhere area location ∧
    ∃ path, ObjectPath.parse location.graphKey = .ok path ∧ ⟨.head path, .ok size⟩ ∈ trace ∧
      ∃ arrivals : List (Chunk × Bytes),
        (∀ arrival ∈ arrivals, Download.Arrived (Chunk.plan size area.options.chunkSize) arrival) ∧
        chunks = arrivals.map (fun a => (a.1.index, a.2)) ∧
        trace.ranges = arrivals.map fun a => a.1.fetched path a.2 := by
  cases reaches with
  | @fetched _ pause fetches _ _ _ _ path _ sized idle parsed run =>
    cases sized with
    | @sized before pause' asks _ _ _ _ completed idle' here asking =>
      obtain ⟨path', parsed', rfl⟩ := run_head_ok asking
      obtain rfl := Except.ok.inj (parsed.symm.trans parsed')
      obtain ⟨arrivals, arrived, chunks_eq, ranges_eq⟩ := Download.run_fetchAll run
      have unread : Trace.ranges (before ++ (pause' ++ [⟨.head path, .ok size⟩]) ++ pause) = [] := by
        refine UpTo.ranges_eq_nil ?_
        exact (completed.upTo.append ((UpTo.of_idle idle').append (.singleton (Nat.zero_le _)))).append
          (.of_idle idle)
      refine ⟨?_, here, path, parsed, by simp, arrivals, arrived, chunks_eq, ?_⟩
      · cases completed with
        | @completed before pause'' polls _ _ _ submitted idle'' polling =>
          obtain ⟨deadline, reply, mem, done⟩ := (Poll.run_awaitCompletion polling).completes
          exact ⟨deadline, reply, by simp [mem], done⟩
      · rw [← List.append_assoc, Trace.ranges_append, unread, List.nil_append, ranges_eq]

/-- What is written of a fetched graph is the graph as it was read, or a prefix of it if the sink
failed.

**Proof sketch.** Nothing is written before the chunks are in order, and then they are the object as
it was read. -/
theorem run_writeInOrder_of_fetched {before writes : Trace} {blobs : StagedBlobs} {jobId : String}
    {location : GraphLocation} {size : UInt64} {chunks : List (Nat × Bytes)}
    {outcome : Except Failure Nat}
    (fetched : Reaches area settings request before (.fetched blobs jobId location size chunks))
    (run : Run (Download.writeInOrder location.graphKey chunks
      (Chunk.plan size area.options.chunkSize).length) writes outcome)
    (refuses : before.RefusesEmptyRanges) :
    (writes = [] ∧ ∃ failure, outcome = .error failure) ∨
    ∃ path graph, ObjectPath.parse location.graphKey = .ok path ∧ before.ReadsAs path graph ∧
      (∀ written, outcome = .ok written → writes.sunk = graph ∧ written = graph.length) ∧
      (∀ failure, outcome = .error failure →
        writes.sunk <+: graph ∧ ∃ exchange ∈ writes, exchange.SinkFails) := by
  obtain ⟨_, _, path, parsed, sized, arrivals, arrived, rfl, ranges_eq⟩ := fetched.of_fetched
  rcases Download.run_writeInOrder run with nothing | ⟨ordered, assembled, all, part⟩
  · exact .inl nothing
  · exact .inr ⟨path, ordered.flatten, parsed,
      Download.readsAs_of_assemble arrived ranges_eq assembled sized refuses, all, part⟩

/-- Writing fetches nothing. -/
theorem unread_of_writes {key : String} {chunks : List (Nat × Bytes)} {count : Nat}
    {outcome : Except Failure Nat} (run : Run (Download.writeInOrder key chunks count) trace outcome) :
    trace.ranges = [] :=
  Trace.ranges_eq_nil fun e mem => by
    have := (run.forall_within (Download.within_writeInOrder chunks count) e mem).phase_eq
    omega

/-- A remote build that is done left the graph in the sink, as it was read. -/
theorem Reaches.of_delivered {blobs : StagedBlobs} {jobId : String} {location : GraphLocation}
    {written : Nat}
    (delivered : Reaches area settings request trace (.delivered blobs jobId location written))
    (refuses : trace.RefusesEmptyRanges) :
    trace.Completes jobId location ∧ ¬ LiesElsewhere area location ∧
    ∃ path, ObjectPath.parse location.graphKey = .ok path ∧ trace.ReadsAs path trace.sunk ∧
      written = trace.sunk.length := by
  cases delivered with
  | @delivered before writes after _ _ _ _ _ _ fetched idle writing =>
    obtain ⟨completes, here, _⟩ := fetched.of_fetched
    rcases run_writeInOrder_of_fetched fetched writing refuses.of_append with
      ⟨_, failure, same⟩ | ⟨path, graph, parsed, reads, all, _⟩
    · exact nomatch same
    obtain ⟨rfl, written_eq⟩ := all written rfl
    have untouched := fetched.upTo.sunk_eq_nil
    have unsunk : after.sunk = [] := (UpTo.of_idle idle).sunk_eq_nil
    have unread : Trace.ranges (writes ++ after) = [] := by
      rw [Trace.ranges_append, unread_of_writes writing, (UpTo.of_idle idle).ranges_eq_nil]
      rfl
    have sunk_eq : Trace.sunk (before ++ (writes ++ after)) = writes.sunk := by
      rw [Trace.sunk_append, Trace.sunk_append, untouched, unsunk, List.append_nil, List.nil_append]
    rw [sunk_eq]
    exact ⟨completes.append _, here, path, parsed, reads.append unread, written_eq⟩

/-! ### Sink and outcome -/

/-- What sink and outcome have to do with each other. -/
structure Delivers (area : StagingArea) (trace : Trace)
    (outcome : Except Failure BuildOutcome) : Prop where
  /-- A remote build leaves the graph in the sink, as it was read from the place that the service
  named. -/
  remote : ∀ report, outcome = .ok (.remote report) → ∃ location path graph,
    trace.Completes report.jobId location ∧ report.graphKey = location.graphKey ∧
    (location.bucketName = "" ∨ location.bucketName = area.container) ∧
    ObjectPath.parse report.graphKey = .ok path ∧ trace.ReadsAs path graph ∧ trace.sunk = graph ∧
    report.bytesWritten = graph.length
  /-- When the local builder is called there is nothing in the sink, or the sink failed and there is a
  prefix of the graph. -/
  fallback : ∀ (front : Trace) request reply back,
    trace = front ++ ⟨.buildLocally request, reply⟩ :: back →
    front.sunk = [] ∨ (∃ exchange ∈ front, exchange.SinkFails) ∧
      ∃ jobId location path graph, front.Completes jobId location ∧
        ObjectPath.parse location.graphKey = .ok path ∧ front.ReadsAs path graph ∧ front.sunk <+: graph

/-- The calls after a remote build, but for the one on the local builder: the cleanup, and what is
counted. -/
def Later (trace : Trace) : Prop :=
  ∀ exchange ∈ trace, (∃ path, exchange.1 = .delete path) ∨ exchange.1.IsIdle

/-- They neither fetch nor write nor build. -/
theorem Later.phase_ne (later : Later trace) {phase : Nat} (h : phase = 3 ∨ phase = 4) :
    ∀ exchange ∈ trace, exchange.1.phase ≠ phase := by
  intro exchange mem
  rcases later exchange mem with ⟨path, is_delete⟩ | idle
  · rw [is_delete, Call.phase]
    omega
  · rw [idle.phase_eq]
    omega

/-- A remote build and what comes after it do not call the local builder. -/
theorem ne_buildLocally {remote later : Trace} (upTo : UpTo 4 remote) (after : Later later) :
    ∀ exchange ∈ remote ++ later, ∀ request, exchange.1 ≠ .buildLocally request := by
  intro exchange mem request is_call
  rcases List.mem_append.mp mem with mem | mem
  · have := upTo exchange mem
    simp [is_call, Call.phase] at this
  · rcases after exchange mem with ⟨path, is_delete⟩ | idle
    · simp [is_call] at is_delete
    · simp [is_call, Call.IsIdle] at idle

/-- Nothing but the last call is on the local builder. -/
theorem eq_of_calls_builder (before : Trace) {front back : Trace} {reply : Except Failure Unit}
    {request' : BuildRequest} {reply' : Except Failure Unit}
    (same : before ++ [⟨.buildLocally request, reply⟩] =
      front ++ ⟨.buildLocally request', reply'⟩ :: back)
    (not_before : ∀ exchange ∈ before, ∀ request, exchange.1 ≠ .buildLocally request) :
    front = before ∧ back = [] := by
  obtain ⟨front_eq, _, back_eq⟩ := Trace.eq_of_append_cons_eq
    (fun exchange => ∃ request, exchange.1 = .buildLocally request) same ⟨request', rfl⟩
    (fun e mem h => h.elim fun request is_call => not_before e mem request is_call) (by simp)
  exact ⟨front_eq, back_eq⟩

/-- **What a build leaves in the sink.** A remote build leaves the graph as it was read, whole. When
the local builder is called, the sink is as it was, or it failed and has a prefix of the graph.

**Proof sketch.** Nothing is written before all chunks are there and in order. What is written then
are the chunks, so what the sink took is a prefix of the graph, and all of it unless the sink
failed. -/
theorem execute_delivers {outcome : Except Failure BuildOutcome}
    (run : Run (execute area settings request) trace outcome) (refuses : trace.RefusesEmptyRanges) :
    Delivers area trace outcome := by
  cases run_execute run with
  | @ineligible why reply reason =>
    refine ⟨fun report same => ?_, fun front request' reply' back same => .inl ?_⟩
    · cases reply <;> simp [Except.map] at same
    · obtain ⟨rfl, _⟩ := eq_of_calls_builder
        [⟨.count (.outcome .ineligible), ()⟩] same (by simp)
      rfl
  | @remote remote cleanup report location eligible graph delivered cleans =>
    have later : Later (cleanup ++ [⟨.count (.outcome .installed), ()⟩]) :=
      List.forall_mem_append.mpr ⟨fun e mem => .inl (cleans e mem), by simp [Call.IsIdle]⟩
    refine ⟨fun report' same => ?_, fun front request' reply' back same => ?_⟩
    · obtain rfl := BuildOutcome.remote.inj (Except.ok.inj same)
      obtain ⟨completes, here, path, parsed, reads, written_eq⟩ :=
        delivered.of_delivered refuses.of_append
      refine ⟨location, path, remote.sunk, completes.append _, graph, ?_, graph ▸ parsed, ?_, ?_,
        written_eq⟩
      · exact (not_and_or.mp here).imp not_not.mp not_not.mp
      · exact reads.append (Trace.ranges_eq_nil (later.phase_ne (.inl rfl)))
      · rw [Trace.sunk_append, Trace.sunk_eq_nil (later.phase_ne (.inr rfl)), List.append_nil]
    · exact absurd rfl (ne_buildLocally delivered.upTo later _
        (by rw [same]; exact List.mem_append_right _ List.mem_cons_self) request')
  | @fallback remote cleanup stage failure reply eligible fails cleans =>
    have later : Later (cleanup ++ [⟨.count (.fallback stage failure.label), ()⟩,
        ⟨.count (.outcome .fallback), ()⟩]) :=
      List.forall_mem_append.mpr ⟨fun e mem => .inl (cleans e mem), by simp [Call.IsIdle]⟩
    refine ⟨fun report same => ?_, fun front request' reply' back same => ?_⟩
    · cases reply <;> simp [Except.map] at same
    obtain ⟨rfl, _⟩ := eq_of_calls_builder (remote ++ (cleanup ++
      [⟨.count (.fallback stage failure.label), ()⟩, ⟨.count (.outcome .fallback), ()⟩]))
      (by simpa using same) (ne_buildLocally fails.upTo later)
    have unread := Trace.ranges_eq_nil (later.phase_ne (.inl rfl))
    have unsunk := Trace.sunk_eq_nil (later.phase_ne (.inr rfl))
    rw [Trace.sunk_append, unsunk, List.append_nil]
    -- the sink has been touched only if the writing itself is what failed
    rcases fails.upTo_or_sink with untouched |
      ⟨before, writes, _, jobId, location, _, _, rfl, fetched, writing⟩
    · exact .inl untouched.sunk_eq_nil
    · have unwritten := unread_of_writes writing
      have untouched := fetched.upTo.sunk_eq_nil
      rw [Trace.sunk_append, untouched, List.nil_append]
      rcases run_writeInOrder_of_fetched fetched writing refuses.of_append.of_append with
        ⟨rfl, _⟩ | ⟨path, bytes, parsed, reads, _, part⟩
      · exact .inl rfl
      · obtain ⟨takes, exchange, mem, fails⟩ := part failure rfl
        refine .inr ⟨⟨exchange, by simp [mem], fails⟩, jobId, location, path, bytes, ?_, parsed, ?_,
          takes⟩
        · exact (fetched.of_fetched.1.append _).append _
        · exact (reads.append unwritten).append unread

/-- A service that is done at once: its graph goes to the sink. -/
theorem execute_delivers_small_graph :
    ∃ trace report, Delivers World.smallArea trace (.ok (.remote report)) ∧ trace.sunk = [7, 8, 9] := by
  let program := (execute World.smallArea World.smallSettings World.smallRequest).run
  have run := Dialogue.run_transcript World.answer program (World.small [])
  have refuses := World.refusesEmptyRanges_transcript program (World.small []) rfl
  have sunk_eq : Trace.sunk (program.transcript World.answer (World.small [])) = [7, 8, 9] := by
    decide +kernel
  have remote : ((World.small []).play program).1.toOption.any BuildOutcome.isRemote = true := by
    decide +kernel
  rw [World.play] at remote
  generalize (Dialogue.play World.answer program (World.small [])).1 = outcome at run remote
  match outcome, remote with
  | .ok (.remote report), _ => exact ⟨_, report, execute_delivers run refuses, sunk_eq⟩

end Build

end GraphOffload
