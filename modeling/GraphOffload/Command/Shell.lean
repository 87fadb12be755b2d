import GraphOffload.Call
import GraphOffload.Http.Message
import GraphOffload.Settings.Environment
import GraphOffload.Storage.Backend

/-!
# Calls of a command

A command touches the machine it runs on only by the calls listed here.

## Main definitions

* `GraphOffload.ShellCall` : the calls on environment, files, servers and terminal, and those of a build.
* `GraphOffload.ShellCall.Reply` : what each call is replied with.
* `GraphOffload.ShellProgram` : a program that makes such calls.
-/

namespace GraphOffload

/-- The calls of a command. -/
inductive ShellCall
  /-- Asks for a variable of the environment. -/
  | lookUp (name : String)
  /-- Asks for the segments of the path of the working directory. -/
  | workingDirectory
  /-- Reads the file of a name in the working directory, or in the nearest directory above it that has
  one. -/
  | nearestFile (name : String)
  | readFile (path : String)
  /-- Opens the vector file whose vectors a build will read. -/
  | openCorpus (path : String)
  /-- Opens the store that a build will use. -/
  | openStore (backend : Backend)
  /-- Creates the file that is the sink of a build, or empties it if it is there. -/
  | createSink (path : String)
  /-- Sends a request, and waits for the answer so many milliseconds, and no longer than until the
  deadline. -/
  | exchange (request : HttpRequest) (patience : Nat) (deadline : Option Nat)
  /-- A call of a build on its store, corpus, sink or clock. -/
  | work (call : Call)
  | print (text : String)
  /-- Tells what went wrong. -/
  | complain (text : String)

/-- What each call is replied with. The answer of a server is absent if none came in time, and its
absence is not noticed once the deadline has passed. -/
abbrev ShellCall.Reply : ShellCall → Type
  | lookUp _ => Option Bytes
  | workingDirectory => List String
  | nearestFile _ => Option Bytes
  | readFile _ | openCorpus _ => Except Fault Bytes
  | openStore _ | createSink _ => Except Fault Unit
  | exchange .. => Option (Option HttpResponse)
  | work call => call.Reply
  | print _ | complain _ => Unit

/-- A program that makes calls of a command. -/
abbrev ShellProgram (α : Type) := Dialogue ShellCall.Reply α

/-- The program that makes one call. -/
def ShellCall.ask (call : ShellCall) : ShellProgram call.Reply := Dialogue.request call

end GraphOffload
