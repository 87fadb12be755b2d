import GraphOffload.Command.Run
import GraphOffload.Simulation.ScriptedServer
import GraphOffload.Simulation.World

/-!
# A machine in memory

A machine with files, an environment and a server, on which commands run.

## Main definitions

* `GraphOffload.Machine` : the files of a machine and what commands find on it.
* `GraphOffload.Machine.answer` : the machine's part in a dialogue.
* `GraphOffload.Machine.run` : the run of a command.
-/

namespace GraphOffload

/-- A place in a file system, by the segments of its absolute path. -/
abbrev Location := List String

/-- A machine on which commands run. -/
structure Machine where
  directory : Location
  environment : Environment := []
  files : List (Location × Bytes) := []
  /-- Directories that were made, besides those that files lie in. -/
  directories : List Location := []
  server : ScriptedServer
  printed : String := ""
  /-- The file that a build reads vectors from, and what its header says. -/
  input : Option (Location × FlatFile) := none
  /-- The file that a build writes to. -/
  sink : Option Location := none
  backend : Backend := .memory
  /-- The store, sink and clock of a build. -/
  world : World FlatFileCursor

namespace Machine

/-! ### Files -/

/-- The place that a path means. -/
def locate (machine : Machine) (path : String) : Location :=
  Backend.resolve machine.directory path

/-- Whether a place is a directory. -/
def isDirectory (machine : Machine) (place : Location) : Bool :=
  let inner := (machine.files.map (·.1.dropLast)) ++ machine.directory :: machine.directories
  inner.any place.isPrefixOf

/-- The bytes of a file. -/
def read (machine : Machine) (place : Location) : Except Fault Bytes :=
  match machine.files.lookup place with
  | some bytes => .ok bytes
  | none => .error (if machine.isDirectory place then Fault.directory else Fault.noFile)

/-- The machine with a file, in place of the one that was there. -/
def write (machine : Machine) (place : Location) (bytes : Bytes) : Machine :=
  { machine with files := machine.files.filter (·.1 ≠ place) ++ [(place, bytes)] }

/-- The file of a name in a directory, or in the nearest one above it that has one. -/
def nearest (machine : Machine) (name : String) : Option Bytes :=
  (List.range (machine.directory.length + 1)).reverse.findSome? fun depth =>
    machine.files.lookup (machine.directory.take depth ++ [name])

/-! ### Builds -/

/-- Opens the file that a build reads vectors from. -/
def openCorpus (machine : Machine) (path : String) : Except Fault Bytes × Machine :=
  let place := machine.locate path
  let content := machine.read place
  let file := content.toOption.bind fun bytes => (FlatFile.parse path bytes).toOption
  (content, { machine with input := file.map (place, ·) })

/-- What is said of a directory that cannot be made because there is a file. -/
def fileInTheWay : Fault := ⟨.other, "File exists (os error 17)"⟩

/-- Every call on a store that cannot be reached fails. -/
def unreachable : List PlannedFault :=
  [.head, .put, .openUpload, .sendPart, .complete, .abort, .get, .getRange, .delete, .list].map
    fun kind => ⟨kind, none, .generic⟩

/-- Opens a store. -/
def openStore (machine : Machine) (backend : Backend) : Except Fault Unit × Machine :=
  let machine := { machine with backend := backend }
  match backend with
  | .memory => (.ok (), machine)
  | .disk root =>
    if machine.files.any fun file => file.1.isPrefixOf root then (.error fileInTheWay, machine)
    else (.ok (), { machine with directories := root :: machine.directories })
  | _ =>
    let store := { machine.world.store with plan := unreachable }
    (.ok (), { machine with world := { machine.world with store := store } })

/-- Creates or empties the file that a build writes to. -/
def createSink (machine : Machine) (path : String) : Except Fault Unit × Machine :=
  let place := machine.locate path
  if machine.isDirectory place ∨ path.endsWith "/" then (.error Fault.directory, machine)
  else if machine.isDirectory place.dropLast then
    (.ok (), { machine.write place [] with sink := some place })
  else (.error Fault.noFile, machine)

/-- The objects of a store on disk: the files below its directory. -/
def objectsBelow (machine : Machine) (root : Location) : ObjectMap :=
  ⟨machine.files.filterMap fun file =>
    if root.isPrefixOf file.1 then some (⟨file.1.drop root.length⟩, file.2) else none⟩

/-- What a build finds when it makes a call. -/
def present (machine : Machine) : World FlatFileCursor :=
  let world := machine.world
  let corpus : Corpus FlatFileCursor := match machine.input with
    | none => world.corpus
    | some (place, file) => match machine.read place with
      | .ok content => file.toCorpus content
      | .error fault => ⟨file.shape, .error fault⟩
  let store := match machine.backend with
    | .disk root => { world.store with objects := machine.objectsBelow root }
    | _ => world.store
  { world with corpus := corpus, store := store }

/-- The files when a build has made a call. -/
def settle (machine : Machine) (world : World FlatFileCursor) : Machine :=
  let others := match machine.backend with
    | .disk root =>
      (machine.files.filter fun file => ¬ root.isPrefixOf file.1) ++
        world.store.objects.entries.map fun entry => (root ++ entry.1.segments, entry.2)
    | _ => machine.files
  let machine := { machine with files := others, world := world }
  match machine.sink with
  | none => machine
  | some place =>
    if world.sink.received.isEmpty then machine else machine.write place world.sink.received

/-- A call of a build. -/
def work (machine : Machine) (call : Call) : call.Reply × Machine :=
  let (reply, world) := World.answer call machine.present
  (reply, machine.settle world)

/-! ### Servers -/

/-- Sends a request. A server that hangs is waited for until the patience or the time is over. -/
def exchange (machine : Machine) (request : HttpRequest) (patience : Nat) (deadline : Option Nat) :
    Option (Option HttpResponse) × Machine :=
  let (answer, server) := machine.server.exchange request
  let machine := { machine with server := server }
  let finished := machine.world.time + if answer.any (·.hangs) then patience else 0
  let isLate := deadline.any (· < finished)
  let time := if isLate then max machine.world.time (deadline.getD 0) else finished
  (if isLate then none else some (ScriptedServer.heard answer),
    { machine with world := { machine.world with time := time } })

/-! ### Commands -/

/-- The machine's part in a dialogue. -/
def answer : (call : ShellCall) → Machine → call.Reply × Machine
  | .lookUp name, machine => (machine.environment.lookup name, machine)
  | .workingDirectory, machine => (machine.directory, machine)
  | .nearestFile name, machine => (machine.nearest name, machine)
  | .readFile path, machine => (machine.read (machine.locate path), machine)
  | .openCorpus path, machine => machine.openCorpus path
  | .openStore backend, machine => machine.openStore backend
  | .createSink path, machine => machine.createSink path
  | .exchange request patience deadline, machine => machine.exchange request patience deadline
  | .work call, machine => machine.work call
  | .print text, machine => ((), { machine with printed := machine.printed ++ text })
  | .complain _, machine => ((), machine)

/-- The run of a command: how it ends, and the machine after it. -/
def run (machine : Machine) (arguments : List String) : Command.Ending × Machine :=
  Dialogue.play answer (Command.run arguments) machine

/-- The files in the working directory by their paths there. -/
def localFiles (machine : Machine) : List (String × Bytes) :=
  machine.files.filterMap fun file =>
    if machine.directory.isPrefixOf file.1 then
      some ("/".intercalate (file.1.drop machine.directory.length), file.2)
    else none

end Machine

end GraphOffload
