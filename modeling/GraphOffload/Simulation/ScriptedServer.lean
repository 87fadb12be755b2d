import GraphOffload.Failure
import GraphOffload.Http.Message

/-!
# A server in memory

A server that gives the answers of a script, one for each request, whatever the request asks.

## Main definitions

* `GraphOffload.ScriptedServer` : the answers to come, and the requests so far.
* `GraphOffload.ScriptedServer.exchange` : a request and its answer.
-/

namespace GraphOffload

/-- An answer of a script. -/
structure ScriptedAnswer where
  response : HttpResponse
  /-- Whether the server only takes the request, and never answers. -/
  hangs : Bool := false

/-- A server that gives the answers of a script. -/
structure ScriptedServer where
  /-- The port on the local machine. -/
  port : Nat
  answers : List ScriptedAnswer := []
  requests : List HttpRequest := []

namespace ScriptedServer

/-- The local machine. -/
def localMachine : Host := .ipv4 0x7F000001

/-- Whether a request gets to the server. -/
def isReachedBy (server : ScriptedServer) (request : HttpRequest) : Bool :=
  request.url.scheme = "http" &&
    request.url.authority = some { host := localMachine, port := some server.port }

/-- The answer when the script has come to its end. -/
def noScript : ScriptedAnswer where
  response := { status := 500, body := Utf8.bytes "no script" }

/-- What a client makes of an answer: some never have a body, and some only announce another. -/
def delivered (response : HttpResponse) : Option HttpResponse :=
  if response.status < 200 then none
  else if response.status = 204 ∨ response.status = 304 then some { response with body := [] }
  else some response

/-- A request and its answer, if the request gets to the server. -/
def exchange (server : ScriptedServer) (request : HttpRequest) :
    Option ScriptedAnswer × ScriptedServer :=
  if server.isReachedBy request then
    (some (server.answers.head?.getD noScript),
      { server with answers := server.answers.drop 1, requests := server.requests ++ [request] })
  else (none, server)

/-- What a client learns that waits for an answer until its patience ends. -/
def heard : Option ScriptedAnswer → Option HttpResponse
  | none => none
  | some answer => if answer.hangs then none else delivered answer.response

/-- Sends a request, if there is one, and reads the answer. -/
def ask {α : Type} (server : ScriptedServer) (request : Except Failure HttpRequest)
    (readAnswer : Option HttpResponse → Except Failure α) : Except Failure α × ScriptedServer :=
  match request with
  | .error failure => (.error failure, server)
  | .ok request =>
    let (answer, server) := server.exchange request
    (readAnswer (heard answer), server)

end ScriptedServer

end GraphOffload
