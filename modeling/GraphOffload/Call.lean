import GraphOffload.Build.Eligibility
import GraphOffload.Build.Measurement
import GraphOffload.Build.Request
import GraphOffload.Corpus.Stream
import GraphOffload.Dialogue
import GraphOffload.Job.Index
import GraphOffload.Job.Status
import GraphOffload.Storage.ObjectPath
import GraphOffload.Storage.StoreError
import GraphOffload.Transfer.Event

/-!
# Calls on the world outside

A build touches the world only by the calls listed here, and by the reads that these calls set going.
Work that goes on side by side is begun by one call and ended by another; which of several pieces under
way ends first is for the world to say. A part that has begun to be read is read in the background, and
nobody can stop that: its reader opens a cursor of its own and has it give one document after the other
until it ends, even if the program fails first and never waits for it.

## Main definitions

* `GraphOffload.Call` : the calls on store, corpus, service, sink, clock and local builder.
* `GraphOffload.Call.Reply` : what each call is replied with.
* `GraphOffload.Program` : a program that makes such calls.
-/

namespace GraphOffload

/-- The calls on the world outside. -/
inductive Call
  /-- Asks for the size of an object. -/
  | head (path : ObjectPath)
  | put (path : ObjectPath) (data : Bytes)
  | get (path : ObjectPath)
  | delete (path : ObjectPath)
  /-- Asks for the paths below a path. -/
  | list (path : ObjectPath)
  /-- Begins to fetch a range of an object: the bytes from `start` up to `finish`. -/
  | beginRange (path : ObjectPath) (start finish : Nat)
  /-- Waits for a range that is being fetched. -/
  | endRange (path : ObjectPath) (start finish : Nat)
  /-- Opens an upload in parts; the object appears when the upload is completed. -/
  | openUpload (path : ObjectPath)
  /-- Begins to send the next part of the open upload. -/
  | beginPart (part : Part) (data : Bytes)
  /-- Waits for a part that is being sent, and tells how it went. -/
  | endPart (part : Part)
  | completeUpload
  | abortUpload
  /-- Begins to read a part of an upload, on behalf of the object with the key. The part is read in the
  background, from a stream of its own over a cursor that the reader opens, at any time from now until
  the reader ends. If nobody waits for the part, what was read is discarded when the reader ends. -/
  | beginRead (key : String) (part : Part)
  /-- Waits until the reader of a part ends. -/
  | endRead (key : String) (part : Part)
  /-- Reads the ids of all documents. -/
  | readDocIds
  | submit (job : BuildJob)
  /-- Asks for the status of a job, and waits for it no longer than until the deadline. -/
  | status (jobId : String) (deadline : Nat)
  /-- Offers bytes to the sink, which takes as many of them as it likes. -/
  | write (data : Bytes)
  | flush
  /-- Which of several pieces under way comes next: one, and as many others. -/
  | choose (others : Nat)
  /-- The time in milliseconds. -/
  | now
  | sleepUntil (instant : Nat)
  /-- The date and time of day. -/
  | wallClock
  /-- A name that nobody else has. -/
  | freshName
  /-- Tells the listener of a transfer. -/
  | notify (event : TransferEvent)
  | count (measurement : Measurement)
  /-- Has the local builder write the graph to the sink. -/
  | buildLocally (request : BuildRequest)

/-- What each call is replied with. -/
abbrev Call.Reply : Call → Type
  | head _ => Except StoreError UInt64
  | put .. | delete _ | openUpload _ | endPart _ | completeUpload | abortUpload =>
    Except StoreError Unit
  | get _ | endRange .. => Except StoreError Bytes
  | list _ => Except StoreError (List ObjectPath)
  | beginRange .. | beginPart .. | beginRead .. | sleepUntil _ | notify _ | count _ => Unit
  | endRead _ part => Except Failure part.Data
  | readDocIds => Except Fault Bytes
  | submit _ => Except Failure String
  | status .. => Option (Except Failure StatusReply)
  | write data => Except Fault (Fin (data.length + 1))
  | flush => Except Fault Unit
  | choose others => Fin (others + 1)
  | now => Nat
  | wallClock => Timestamp
  | freshName => Ulid
  | buildLocally _ => Except Failure Unit

/-- A program that makes calls on the world outside. -/
abbrev Program (α : Type) := Dialogue Call.Reply α

/-- The program that makes one call. -/
def Call.ask (call : Call) : Program call.Reply := Dialogue.request call

/-- A program that may fail. -/
abbrev Attempting (α : Type) := ExceptT Failure (Dialogue Call.Reply) α

/-- The program that makes one call, with its reply as the outcome. -/
def Call.attempt {α : Type} (call : Call) (toOutcome : call.Reply → Except Failure α) : Attempting α :=
  ExceptT.mk do return toOutcome (← call.ask)

end GraphOffload
