import GraphOffload.Command.Run
import GraphOffload.Proofs.Build.Delivery

/-!
# Builds by way of a shell

A command has the shell make the calls of a build. All of them pass as they are but three: a job is
submitted and its status asked for over the network, and the local builder is not there. So a build
that a command does is a build like any other, of which the shell saw what it did to the store and to
the sink, and the network saw the rest.

## Main definitions

* `GraphOffload.ShellTrace.work` : the calls of a build that the shell made in a trace.
* `GraphOffload.ShellTrace.Completes` : a server said that a job is done, and where its graph lies.
* `GraphOffload.Command.Served` : a trace in which the calls of a build were made.

## Main results

* `GraphOffload.Command.Served.sunk_work`, `GraphOffload.Command.Served.ranges_work` : the sink and the
  store of the build are those of the shell.
* `GraphOffload.Command.Served.completes` : what the build was told by the service, a server said.
* `GraphOffload.Command.Served.no_builder` : there is no local builder.
-/

namespace GraphOffload

/-- A call on a shell with its reply. -/
abbrev ShellExchange := Dialogue.Exchange ShellCall.Reply

/-- What passed between a command and the shell, in its order. -/
abbrev ShellTrace := List ShellExchange

/-- The call of a build that is made in an exchange with the shell. -/
def ShellExchange.work? : ShellExchange → Option Exchange
  | ⟨.work call, reply⟩ => some ⟨call, reply⟩
  | _ => none

/-- The calls of a build that the shell made in a trace. -/
def ShellTrace.work (trace : ShellTrace) : Trace := trace.filterMap ShellExchange.work?

/-- Without calls the shell does no work for a build. -/
@[simp] theorem ShellTrace.work_nil : ShellTrace.work [] = [] := rfl

/-- The work for a build in two traces is that in each. -/
@[simp] theorem ShellTrace.work_append (front back : ShellTrace) :
    ShellTrace.work (front ++ back) = front.work ++ back.work :=
  List.filterMap_append

/-- A server said to a client that a job is done, and where its graph lies. -/
def ShellTrace.Completes (client : ServiceClient) (trace : ShellTrace) (jobId : String)
    (location : GraphLocation) : Prop :=
  ∃ request patience deadline answer reply, client.statusRequest jobId = .ok request ∧
    ⟨.exchange request patience (some deadline), some answer⟩ ∈ trace ∧
    ServiceClient.readStatus answer = .ok reply ∧
    reply.status = .completed ∧ reply.result = some location

/-- The calls of a build that the shell does not see as such. -/
def Call.IsServed : Call → Bool
  | .submit _ | .status .. | .buildLocally _ => true
  | _ => false

namespace Command

variable {client : ServiceClient} {patience : Nat}

/-! ### One call -/

/-- All other calls pass as they are. -/
theorem run_serve_of_not_isServed {call : Call} {piece : ShellTrace} {reply : call.Reply}
    (run : Dialogue.Run (serve client patience call) piece reply) (passes : call.IsServed = false) :
    piece = [⟨.work call, reply⟩] := by
  have asks : serve client patience call = (ShellCall.work call).ask := by
    cases call <;> first | rfl | exact absurd passes Bool.false_ne_true.symm
  rw [asks] at run
  obtain ⟨reply', rest, rfl, ended⟩ := Dialogue.run_ask_iff.mp run
  obtain ⟨rfl, rfl⟩ := Dialogue.run_done_iff.mp ended
  rfl

/-- There is no local builder. -/
theorem run_serve_buildLocally {request : BuildRequest} {piece : ShellTrace} {reply : Except Failure Unit}
    (run : Dialogue.Run (serve client patience (.buildLocally request)) piece reply) :
    piece = [] ∧ reply = .error request.noLocalBuilder :=
  Dialogue.run_done_iff.mp run

/-- A job is submitted over the network, if at all. -/
theorem run_serve_submit {job : BuildJob} {piece : ShellTrace} {reply : Except Failure String}
    (run : Dialogue.Run (serve client patience (.submit job)) piece reply) :
    ∀ exchange ∈ piece, ∃ request, exchange.1 = .exchange request patience none := by
  simp only [serve] at run
  cases asked : client.submitRequest job with
  | error failure =>
    rw [asked] at run
    obtain ⟨rfl, _⟩ := Dialogue.run_done_iff.mp run
    simp
  | ok request =>
    rw [asked] at run
    obtain ⟨answer, rest, rfl, ended⟩ := Dialogue.run_ask_iff.mp run
    obtain ⟨rfl, _⟩ := Dialogue.run_done_iff.mp ended
    simp

/-- The status of a job is asked for over the network; the build is told what the answer means. -/
theorem run_serve_status {jobId : String} {deadline : Nat} {piece : ShellTrace}
    {reply : Option (Except Failure StatusReply)}
    (run : Dialogue.Run (serve client patience (.status jobId deadline)) piece reply) :
    (∃ failure, piece = [] ∧ reply = some (.error failure)) ∨
    ∃ request answer, client.statusRequest jobId = .ok request ∧
      piece = [⟨.exchange request patience (some deadline), answer⟩] ∧
      reply = answer.map ServiceClient.readStatus := by
  simp only [serve] at run
  cases asked : client.statusRequest jobId with
  | error failure =>
    rw [asked] at run
    obtain ⟨rfl, rfl⟩ := Dialogue.run_done_iff.mp run
    exact .inl ⟨failure, rfl, rfl⟩
  | ok request =>
    rw [asked] at run
    obtain ⟨answer, rest, rfl, ended⟩ := Dialogue.run_ask_iff.mp run
    obtain ⟨rfl, rfl⟩ := Dialogue.run_done_iff.mp ended
    exact .inr ⟨request, answer, rfl, rfl, rfl⟩

/-- What is not seen as a call of the build goes over the network. -/
theorem run_serve_of_isServed {call : Call} {piece : ShellTrace} {reply : call.Reply}
    (run : Dialogue.Run (serve client patience call) piece reply) (served : call.IsServed = true) :
    ∀ exchange ∈ piece, ∃ request deadline, exchange.1 = .exchange request patience deadline := by
  cases call with
  | submit job =>
    intro exchange mem
    obtain ⟨request, same⟩ := run_serve_submit run exchange mem
    exact ⟨request, none, same⟩
  | status jobId deadline =>
    rcases run_serve_status run with ⟨_, rfl, _⟩ | ⟨request, answer, _, rfl, _⟩
    · simp
    · exact List.forall_mem_singleton.mpr ⟨request, some deadline, rfl⟩
  | buildLocally request =>
    obtain ⟨rfl, _⟩ := run_serve_buildLocally run
    simp
  | _ => exact nomatch served

/-! ### All calls of a build -/

/-- Calls that the shell does not see leave nothing in the sink. -/
theorem sunk_filter (calls : Trace) :
    Trace.sunk (calls.filter fun exchange => !exchange.1.IsServed) = calls.sunk := by
  induction calls with
  | nil => rfl
  | cons exchange rest ih =>
    rw [List.filter_cons, Trace.sunk_cons, ← ih]
    obtain ⟨call, reply⟩ := exchange
    cases call <;> rfl

/-- Nor do they fetch anything. -/
theorem ranges_filter (calls : Trace) :
    Trace.ranges (calls.filter fun exchange => !exchange.1.IsServed) = calls.ranges := by
  induction calls with
  | nil => rfl
  | cons exchange rest ih =>
    have split : Trace.ranges (exchange :: rest) = Trace.ranges [exchange] ++ Trace.ranges rest :=
      Trace.ranges_append [exchange] rest
    rw [split, ← ih, List.filter_cons]
    obtain ⟨call, reply⟩ := exchange
    cases call <;> first | rfl | exact Trace.ranges_append [_] _

/-- A trace in which the calls of a build were made. -/
abbrev Served (client : ServiceClient) (patience : Nat) : Trace → ShellTrace → Prop :=
  Dialogue.Interpreted (serve client patience)

variable {calls : Trace} {trace : ShellTrace}

namespace Served

/-- The shell saw the calls that passed, in their order. -/
theorem work_eq (served : Served client patience calls trace) :
    trace.work = calls.filter fun exchange => !exchange.1.IsServed := by
  induction served with
  | nil => rfl
  | @cons call reply piece back rest run later ih =>
    rw [ShellTrace.work_append, ih, List.filter_cons]
    cases is_served : call.IsServed with
    | true =>
      have unseen : ShellTrace.work piece = [] := by
        refine List.filterMap_eq_nil_iff.mpr fun exchange mem => ?_
        obtain ⟨call', reply'⟩ := exchange
        obtain ⟨request, deadline, rfl⟩ := run_serve_of_isServed run is_served _ mem
        rfl
      simp [unseen]
    | false =>
      obtain rfl := run_serve_of_not_isServed run is_served
      rfl

/-- No file is created while the calls of a build are made. -/
theorem ne_createSink (served : Served client patience calls trace) :
    ∀ exchange ∈ trace, ∀ path, exchange.1 ≠ .createSink path := by
  induction served with
  | nil => simp
  | @cons call reply piece back rest run later ih =>
    refine List.forall_mem_append.mpr ⟨fun exchange mem path creates => ?_, ih⟩
    cases is_served : call.IsServed with
    | true =>
      obtain ⟨request, deadline, same⟩ := run_serve_of_isServed run is_served exchange mem
      rw [creates] at same
      exact nomatch same
    | false =>
      obtain rfl := run_serve_of_not_isServed run is_served
      obtain rfl := List.mem_singleton.mp mem
      exact nomatch creates

/-- There is no local builder. -/
theorem no_builder (served : Served client patience calls trace) {request : BuildRequest}
    {reply : Except Failure Unit} (mem : ⟨.buildLocally request, reply⟩ ∈ calls) :
    reply = .error request.noLocalBuilder := by
  induction served with
  | nil => exact nomatch mem
  | cons run later ih =>
    rcases List.mem_cons.mp mem with same | mem
    · cases same
      exact (run_serve_buildLocally run).2
    · exact ih mem

/-- What the build was told by the service, a server said. -/
theorem completes {jobId : String} {location : GraphLocation}
    (served : Served client patience calls trace) (completes : calls.Completes jobId location) :
    trace.Completes client jobId location := by
  obtain ⟨deadline, reply, mem, completed, found⟩ := completes
  induction served with
  | nil => exact nomatch mem
  | @cons call reply' piece back rest run later ih =>
    rcases List.mem_cons.mp mem with same | mem
    · cases same
      rcases run_serve_status run with ⟨_, _, same⟩ | ⟨request, answer, asked, rfl, means⟩
      · exact nomatch Option.some.inj same
      · cases answer with
        | none => exact nomatch means
        | some answer =>
          exact ⟨request, patience, deadline, answer, reply, asked, by simp,
            (Option.some.inj means).symm, completed, found⟩
    · obtain ⟨request, patience', deadline', answer, reply'', asked, mem, rest⟩ := ih mem
      exact ⟨request, patience', deadline', answer, reply'', asked, List.mem_append_right _ mem, rest⟩

/-- The sink of the build is that of the shell. -/
theorem sunk_work (served : Served client patience calls trace) : trace.work.sunk = calls.sunk := by
  rw [served.work_eq, sunk_filter]

/-- The ranges that the build fetched are those that the shell fetched. -/
theorem ranges_work (served : Served client patience calls trace) :
    trace.work.ranges = calls.ranges := by
  rw [served.work_eq, ranges_filter]

/-- What the build read of the store, the shell read. -/
theorem readsAs {path : ObjectPath} {bytes : Bytes} (served : Served client patience calls trace)
    (reads : calls.ReadsAs path bytes) : trace.work.ReadsAs path bytes := by
  obtain ⟨⟨size, asked, size_eq⟩, slices, covers⟩ := reads
  rw [← served.ranges_work] at slices covers
  refine ⟨⟨size, ?_, size_eq⟩, slices, covers⟩
  rw [served.work_eq, List.mem_filter]
  exact ⟨asked, rfl⟩

/-- If the sink fails in the build, it fails for the shell. -/
theorem exists_sinkFails (served : Served client patience calls trace)
    (fails : ∃ exchange ∈ calls, exchange.SinkFails) :
    ∃ exchange ∈ trace.work, exchange.SinkFails := by
  obtain ⟨⟨call, reply⟩, mem, fails⟩ := fails
  refine ⟨⟨call, reply⟩, ?_, fails⟩
  rw [served.work_eq, List.mem_filter]
  refine ⟨mem, ?_⟩
  cases call <;> first | rfl | exact absurd fails id

end Served

end Command

end GraphOffload
