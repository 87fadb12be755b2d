import GraphOffload.Command.Run
import GraphOffload.Http.Wire
import GraphOffload.Simulation.Machine
import Std.Async.DNS
import Std.Async.TCP

/-!
# The program

The calls of a command, made on the machine that the program runs on.
-/

namespace GraphOffload.Program

open Std.Async

/-! ### Faults -/

/-- The kind and text of a failed call on the system. -/
def toFault : IO.Error → Fault
  | .noFileOrDirectory .. => Fault.noFile
  | .inappropriateType .. => Fault.directory
  | error => ⟨.other, toString error⟩

/-- What came of a call on the system. -/
def attempt {α : Type} (action : IO α) : IO (Except Fault α) := do
  match ← action.toBaseIO with
  | .ok value => return .ok value
  | .error error => return .error (toFault error)

/-- The bytes of a file. -/
def readFile (path : String) : IO (Except Fault Bytes) := do
  return (← attempt (IO.FS.readBinFile path)).map ByteArray.toList

/-! ### Sessions -/

/-- What a build has opened. -/
structure Session where
  input : IO.Ref (String × Option FlatFile)
  backend : IO.Ref Backend
  sink : IO.Ref (Option IO.FS.Handle)
  /-- The store, as far as it lies in memory. -/
  world : IO.Ref (World FlatFileCursor)

/-- A session in which nothing is open. -/
def Session.new : IO Session := do
  return {
    input := ← IO.mkRef ("", none)
    backend := ← IO.mkRef .memory
    sink := ← IO.mkRef none
    world := ← IO.mkRef { corpus := .absent } }

/-! ### Files -/

/-- The name of the file for an object. -/
def fileOf (root : List String) (path : ObjectPath) : String := "/" ++ Backend.fileOf root path

/-- The file of a name in a directory, or in the nearest one above it that has one. -/
def nearestFile (name : String) (directory : List String) : IO (Option Bytes) := do
  for depth in (List.range (directory.length + 1)).reverse do
    let path := "/" ++ "/".intercalate (directory.take depth ++ [name])
    if let .ok bytes ← readFile path then return some bytes
  return none

/-- The segments of the path of the working directory. -/
def workingDirectory : IO (List String) := do
  return Backend.resolve [] (← IO.currentDir).toString

/-- Makes a directory and those above it. -/
def createDirectory (segments : List String) : IO Unit :=
  IO.FS.createDirAll ("/" ++ "/".intercalate segments)

/-- Opens a store. -/
def openStore (session : Session) (backend : Backend) : IO (Except Fault Unit) := do
  session.backend.set backend
  match backend with
  | .memory => return .ok ()
  | .disk root => attempt (createDirectory root)
  | _ =>
    session.world.modify fun world =>
      { world with store := { world.store with plan := Machine.unreachable } }
    return .ok ()

/-- Opens the file that a build reads vectors from. -/
def openCorpus (session : Session) (path : String) : IO (Except Fault Bytes) := do
  let content ← readFile path
  let file := content.toOption.bind fun bytes => (FlatFile.parse path bytes).toOption
  session.input.set (path, file)
  return content

/-- Creates or empties the file that a build writes to. -/
def createSink (session : Session) (path : String) : IO (Except Fault Unit) := do
  match ← attempt (IO.FS.Handle.mk path .write) with
  | .ok handle =>
    session.sink.set (some handle)
    return .ok ()
  | .error fault => return .error fault

/-! ### Builds -/

/-- The object whose file a call reads or writes. -/
def touched (world : World FlatFileCursor) : Call → Option ObjectPath
  | .head path | .put path _ | .get path | .delete path | .beginRange path .. => some path
  | .completeUpload => world.store.upload.map OpenUpload.path
  | _ => none

/-- The world in which a call finds what lies on disk. -/
def present (session : Session) (call : Call) : IO (World FlatFileCursor) := do
  let world ← session.world.get
  let objects ← match ← session.backend.get, touched world call with
    | .disk root, some path => do
      match ← readFile (fileOf root path) with
      | .ok bytes => pure (ObjectMap.insert {} path bytes)
      | .error _ => pure {}
    | .disk _, none => pure {}
    | _, _ => pure world.store.objects
  let corpus ← match call, ← session.input.get with
    | .endRead .., (path, some file) | .readDocIds, (path, some file) => do
      match ← readFile path with
      | .ok content => pure (file.toCorpus content)
      | .error fault => pure ⟨file.shape, .error fault⟩
    | _, _ => pure world.corpus
  return { world with corpus := corpus, store := { world.store with objects := objects } }

/-- Writes the object to its file, or removes the file if there is no object any more. -/
def writeBack (root : List String) (path : ObjectPath) (objects : ObjectMap) : IO Unit := do
  let file := fileOf root path
  match objects.get? path with
  | some bytes =>
    createDirectory (root ++ path.segments.dropLast)
    IO.FS.writeBinFile file (ByteArray.mk bytes.toArray)
  | none =>
    if let .ok _ ← readFile file then IO.FS.removeFile file

/-- Makes a call on store or corpus. -/
def onWorld (session : Session) (call : Call) : IO call.Reply := do
  let world ← present session call
  let path := touched world call
  let (reply, after) := World.answer call world
  if let .disk root ← session.backend.get then
    if let some path := path then
      if call matches .put .. | .delete _ | .completeUpload then
        writeBack root path after.store.objects
  session.world.set after
  return reply

/-- A name of the time and of chance. -/
def freshName : IO Ulid := do
  let time := (← Std.Time.Timestamp.now).toMillisecondsSinceUnixEpoch.toInt.toNat
  let chance := (← IO.getRandomBytes 10).toList.foldl (fun n byte => 256 * n + byte.toNat) 0
  return BitVec.ofNat 128 ((time <<< 80) + chance)

/-- Offers bytes to the sink, which takes all of them. -/
def write (session : Session) (data : Bytes) : IO (Except Fault (Fin (data.length + 1))) := do
  match ← session.sink.get with
  | none => return .error Fault.nothingWritten
  | some handle =>
    let outcome ← attempt (handle.write (ByteArray.mk data.toArray))
    return outcome.map fun _ => Fin.last data.length

/-- Flushes the sink. -/
def flush (session : Session) : IO (Except Fault Unit) := do
  match ← session.sink.get with
  | none => return .ok ()
  | some handle => attempt handle.flush

/-- Makes a call of a build. -/
def work (session : Session) : (call : Call) → IO call.Reply
  | .write data => write session data
  | .flush => flush session
  | .now => IO.monoMsNow
  | .sleepUntil instant => do
    IO.sleep (.ofNat (instant - (← IO.monoMsNow)))
  | .wallClock => do
    let since := (← Std.Time.Timestamp.now).toNanosecondsSinceUnixEpoch.toInt
    return ⟨since / 1000000000, (since % 1000000000).toNat⟩
  | .freshName => freshName
  | call => onWorld session call

/-! ### Servers -/

/-- The address of a server. -/
def addressOf (url : Url) : Async (Option Std.Net.SocketAddress) := do
  let some authority := url.authority | return none
  let port : UInt16 := .ofNat (authority.port.getD 80)
  let name := String.ofList (authority.host.text.filter fun c => c ≠ '[' && c ≠ ']')
  let addresses ← Std.Async.DNS.getAddrInfo name (toString port.toNat)
  return addresses[0]?.map fun
    | .v4 address => .v4 ⟨address, port⟩
    | .v6 address => .v6 ⟨address, port⟩

/-- Receives until an answer is complete or the connection is closed. -/
partial def receive (socket : TCP.Socket.Client) (held : Bytes) : Async (Option HttpResponse) := do
  match ← socket.recv? 65536 with
  | none => return HttpResponse.decode true held
  | some bytes =>
    let held := held ++ bytes.toList
    match HttpResponse.decode false held with
    | some response => return some response
    | none => receive socket held

/-- Sends a request and receives the answer. -/
def converse (request : HttpRequest) : Async (Option HttpResponse) := do
  let some address ← addressOf request.url | return none
  let socket ← TCP.Socket.Client.mk
  socket.connect address
  socket.send (ByteArray.mk request.encode.toArray)
  receive socket []

/-- Waits for a task until a time, in short steps. -/
partial def waitUntil {α : Type} (task : Task α) (instant : Nat) : IO (Option α) := do
  if ← IO.hasFinished task then return some task.get
  else if instant ≤ (← IO.monoMsNow) then return none
  else
    IO.sleep 2
    waitUntil task instant

/-- Sends a request and waits for the answer. Only servers without encryption are spoken to. -/
def exchange (request : HttpRequest) (patience : Nat) (deadline : Option Nat) :
    IO (Option (Option HttpResponse)) := do
  if request.url.scheme ≠ "http" then return some none
  let limit := (← IO.monoMsNow) + patience
  let task ← IO.asTask (converse request).block
  match ← waitUntil task (min limit (deadline.getD limit)) with
  | some (.ok response) => return some response
  | some (.error _) => return some none
  | none => return if deadline.any (· < limit) then none else some none

/-! ### Commands -/

/-- Makes a call of a command. -/
def perform (session : Session) : (call : ShellCall) → IO call.Reply
  | .lookUp name => return (← IO.getEnv name).map Utf8.bytes
  | .workingDirectory => workingDirectory
  | .nearestFile name => do nearestFile name (← workingDirectory)
  | .readFile path => readFile path
  | .openCorpus path => openCorpus session path
  | .openStore backend => openStore session backend
  | .createSink path => createSink session path
  | .exchange request patience deadline => exchange request patience deadline
  | .work call => work session call
  | .print text => IO.print text
  | .complain text => IO.eprintln text

/-- Runs a program on this machine. -/
def execute {α : Type} (session : Session) : ShellProgram α → IO α
  | .done value => return value
  | .ask call next => do execute session (next (← perform session call))

end GraphOffload.Program

/-- Does what the arguments say. -/
def main (arguments : List String) : IO UInt32 := do
  let session ← GraphOffload.Program.Session.new
  let ending ← GraphOffload.Program.execute session (GraphOffload.Command.run arguments)
  return ending.code.toUInt32
