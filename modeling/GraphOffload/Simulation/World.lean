import GraphOffload.Simulation.FaultyStore
import GraphOffload.Simulation.ScriptedCorpus
import GraphOffload.Storage.BlobStore

/-!
# A world in memory

A world with planned faults that plays its part in a dialogue: the calls that take time move its
clock, and of several pieces under way the oldest comes first.

## Main definitions

* `GraphOffload.ScriptedSink` : a sink of limited size that takes bytes in steps.
* `GraphOffload.ScriptedService` : a build service that follows a script.
* `GraphOffload.ScriptedBuilder` : a local builder that writes a fixed graph.
* `GraphOffload.World` : all of them, with a store, a corpus and a clock.
* `GraphOffload.World.answer` : the world's part in a dialogue.
-/

namespace GraphOffload

/-! ### Sinks -/

/-- A sink of limited size that takes bytes in steps. -/
structure ScriptedSink where
  capacity : Option Nat := none
  stepSize : Option Nat := none
  failFlush : Bool := false
  received : Bytes := []
  flushes : Nat := 0

namespace ScriptedSink

/-- How many of the bytes offered are taken, if there is room for any. -/
def taken? (sink : ScriptedSink) (data : Bytes) : Option (Fin (data.length + 1)) :=
  let room := sink.capacity.map (· - sink.received.length)
  if room = some 0 then none
  else
    let count := min (min data.length (room.getD data.length)) (sink.stepSize.getD data.length)
    some ⟨count, by omega⟩

/-- Takes bytes. -/
def write (sink : ScriptedSink) (data : Bytes) :
    Except Fault (Fin (data.length + 1)) × ScriptedSink :=
  match sink.taken? data with
  | none => (.error ⟨.other, "device full"⟩, sink)
  | some count => (.ok count, { sink with received := sink.received ++ data.take count })

/-- Flushes. -/
def flush (sink : ScriptedSink) : Except Fault Unit × ScriptedSink :=
  let sink := { sink with flushes := sink.flushes + 1 }
  if sink.failFlush then (.error ⟨.other, "flush failed"⟩, sink) else (.ok (), sink)

/-- Takes bytes until all are taken or the sink fails. -/
def writeAll (sink : ScriptedSink) (data : Bytes) : Nat → Except Fault Unit × ScriptedSink
  | 0 => (.ok (), sink)
  | tries + 1 =>
    if data.isEmpty then (.ok (), sink)
    else match sink.write data with
      | (.error fault, sink) => (.error fault, sink)
      | (.ok count, sink) =>
        if count.val = 0 then (.error Fault.nothingWritten, sink)
        else sink.writeAll (data.drop count) tries

end ScriptedSink

/-! ### Services -/

/-- What a scripted service stores before it replies. -/
inductive ScriptedObject
  | data (key : String) (bytes : Bytes)
  /-- The staged vector blob with its bytes in reverse order. -/
  | reversed (key : String)

/-- One reply of a scripted service to a status call. -/
structure ScriptedReply where
  delay : Nat := 0
  failure : Option Failure := none
  object : Option ScriptedObject := none
  /-- The reply for the key of the vector blob; absent if it is no message of the right form. -/
  reply : String → Option StatusReply

/-- A build service that follows a script. -/
structure ScriptedService where
  submitDelay : Nat := 0
  submitFailure : Option Failure := none
  jobId : String := "abc"
  /-- The replies to status calls to come; after the last one the job stays in progress. -/
  replies : List ScriptedReply := []
  /-- The jobs submitted so far. -/
  submitted : List BuildJob := []
  /-- The status calls so far: the id asked for, and when. -/
  calls : List (String × Nat) := []

/-! ### Local builders -/

/-- A local builder that writes a fixed graph, or is not there. -/
structure ScriptedBuilder where
  output : Bytes
  failure : Option Failure := none
  available : Bool := true
  /-- The requests so far. -/
  requests : List BuildRequest := []

/-! ### Worlds -/

/-- A world in memory, with a corpus whose cursors have states in `σ`. -/
structure World (σ : Type) where
  corpus : Corpus σ
  store : FaultyStore := {}
  service : ScriptedService := {}
  sink : ScriptedSink := {}
  builder : ScriptedBuilder := { output := [] }
  /-- The time in milliseconds. -/
  time : Nat := 0
  /-- The date and time of day at time zero. -/
  epoch : Timestamp := ⟨0, 0⟩
  nextName : Ulid := 0
  /-- The parts of uploads that were read. -/
  partsRead : List Part := []
  events : List TransferEvent := []
  counted : List Measurement := []

namespace World

variable {σ : Type} [Cursor σ]

/-- Runs an operation on the store. -/
def onStore {α : Type} (world : World σ) (operation : FaultyStore → α × FaultyStore) : α × World σ :=
  let (value, store) := operation world.store
  (value, { world with store := store })

/-- Runs an operation on the sink. -/
def onSink {α : Type} (world : World σ) (operation : ScriptedSink → α × ScriptedSink) : α × World σ :=
  let (value, sink) := operation world.sink
  (value, { world with sink := sink })

/-- Lets time pass. -/
def pass (world : World σ) (duration : Nat) : World σ :=
  { world with time := world.time + duration }

/-- The service takes a job. -/
def submit (world : World σ) (job : BuildJob) : Except Failure String × World σ :=
  let service := { world.service with submitted := world.service.submitted ++ [job] }
  let world := { world with service := service }.pass service.submitDelay
  match service.submitFailure with
  | some failure => (.error failure, world)
  | none => (.ok service.jobId, world)

/-- An object under a key, as the service puts it. -/
def putObject (store : FaultyStore) (key : String) (data : Bytes) :
    Except Failure Unit × FaultyStore :=
  match ObjectPath.parse key with
  | .error error => (.error (.path error), store)
  | .ok path =>
    let (outcome, store) := store.put path data
    (outcome.mapError (BlobStore.failureOf key), store)

/-- An object under a key, as the service gets it. -/
def getObject (store : FaultyStore) (key : String) : Except Failure Bytes × FaultyStore :=
  match ObjectPath.parse key with
  | .error error => (.error (.path error), store)
  | .ok path =>
    let (outcome, store) := store.get path
    (outcome.mapError (BlobStore.failureOf key), store)

/-- The service puts an object, which may depend on the vector blob. -/
def putScripted (store : FaultyStore) (vectorKey : String) :
    ScriptedObject → Except Failure Unit × FaultyStore
  | .data key bytes => putObject store key bytes
  | .reversed key =>
    match getObject store vectorKey with
    | (.error failure, store) => (.error failure, store)
    | (.ok bytes, store) => putObject store key bytes.reverse

/-- What the service does when it gets to a scripted reply. -/
def perform (world : World σ) (script : ScriptedReply) : Except Failure StatusReply × World σ :=
  let vectorKey := (world.service.submitted.getLast?.map BuildJob.vectorKey).getD ""
  match script.failure with
  | some failure => (.error failure, world)
  | none =>
    let (stored, world) : Except Failure Unit × World σ := match script.object with
      | none => (.ok (), world)
      | some object => world.onStore (putScripted · vectorKey object)
    match stored with
    | .error failure => (.error failure, world)
    | .ok () => match script.reply vectorKey with
      | none => (.error .malformedMessage, world)
      | some reply => (.ok reply, world)

/-- The service is asked for the status of a job. -/
def status (world : World σ) (jobId : String) (deadline : Nat) :
    Option (Except Failure StatusReply) × World σ :=
  let calls := world.service.calls ++ [(jobId, world.time)]
  match world.service.replies with
  | [] =>
    (some (.ok { status := .inProgress }),
      { world with service := { world.service with calls := calls } })
  | script :: rest =>
    let world := { world with service := { world.service with calls := calls, replies := rest } }
    if 0 < script.delay ∧ deadline < world.time + script.delay then
      (none, { world with time := max world.time deadline })
    else
      let (reply, world) := (world.pass script.delay).perform script
      (some reply, world)

/-- The local builder writes its graph to the sink. -/
def buildLocally (world : World σ) (request : BuildRequest) : Except Failure Unit × World σ :=
  if world.builder.available then
    let builder := { world.builder with requests := world.builder.requests ++ [request] }
    let (written, sink) := world.sink.writeAll builder.output (builder.output.length + 1)
    let world := { world with builder := builder, sink := sink }
    match written, builder.failure with
    | .error fault, _ => (.error (.device fault), world)
    | .ok (), some failure => (.error failure, world)
    | .ok (), none => (.ok (), world)
  else (.error request.noLocalBuilder, world)

/-- The world's part in a dialogue. -/
def answer : (call : Call) → World σ → call.Reply × World σ
  | .head path, world => world.onStore (·.head path)
  | .put path data, world => world.onStore (·.put path data)
  | .get path, world => world.onStore (·.get path)
  | .delete path, world => world.onStore (·.delete path)
  | .list path, world => world.onStore (·.list path)
  | .beginRange path start finish, world =>
    world.onStore fun store => ((), store.beginRange path start finish)
  | .endRange path start finish, world => world.onStore (·.endRange path start finish)
  | .openUpload path, world => world.onStore (·.openUpload path)
  | .beginPart part data, world => world.onStore fun store => ((), store.beginPart part data)
  | .endPart part, world => world.onStore (·.endPart part)
  | .completeUpload, world => world.onStore (·.completeUpload)
  | .abortUpload, world => world.onStore (·.abortUpload)
  -- A reader ends at any time before it is waited for, so this world reads a part when it is waited for.
  | .beginRead _ part, world => ((), { world with partsRead := world.partsRead ++ [part] })
  | .endRead key part, world => (world.corpus.readPart key part, world)
  | .readDocIds, world => (world.corpus.encodeDocIds, world)
  | .submit job, world => world.submit job
  | .status jobId deadline, world => world.status jobId deadline
  | .write data, world => world.onSink (·.write data)
  | .flush, world => world.onSink (·.flush)
  | .choose _, world => (0, world)
  | .now, world => (world.time, world)
  | .sleepUntil instant, world => ((), { world with time := max world.time instant })
  | .wallClock, world =>
    (⟨world.epoch.seconds + world.time / 1000, world.time % 1000 * 1000000⟩, world)
  | .freshName, world => (world.nextName, { world with nextName := world.nextName + 1 })
  | .notify event, world => ((), { world with events := event :: world.events })
  | .count measurement, world => ((), { world with counted := measurement :: world.counted })
  | .buildLocally request, world => world.buildLocally request

/-- The run of a program in a world. -/
def play {α : Type} (world : World σ) (program : Program α) : α × World σ :=
  Dialogue.play answer program world

end World

end GraphOffload
