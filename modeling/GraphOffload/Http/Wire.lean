import GraphOffload.Http.Message

/-!
# Messages on the wire

A message is a first line, fields one a line, an empty line and a body. The fields of an answer say how
long its body is, or that it comes in chunks; else it goes on until the connection is closed.

## Main definitions

* `GraphOffload.HttpRequest.encode` : the bytes of a request.
* `GraphOffload.HttpResponse.decode` : the answer that bytes hold, if they hold all of it.
-/

namespace GraphOffload

/-! ### Requests -/

/-- The lines before the body of a request. -/
def HttpRequest.head (request : HttpRequest) (bodyLength : Nat) : List String :=
  let server := (request.url.authority.map fun authority =>
    authority.host.text ++ authority.port.elim [] Url.portText).getD []
  [request.method.word ++ " " ++ request.url.target ++ " HTTP/1.1",
    "host: " ++ String.ofList server, "accept: */*", "connection: close"] ++
    request.authorization.map ("authorization: " ++ ·) ++
    if request.body.isSome then
      ["content-type: application/json", "content-length: " ++ toString bodyLength]
    else []

/-- The bytes of a request. -/
def HttpRequest.encode (request : HttpRequest) : Bytes :=
  let body := (request.body.map fun body => Utf8.bytes body.render).getD []
  (request.head body.length).flatMap (fun line => Utf8.bytes (line ++ "\x0d\n")) ++
    Utf8.bytes "\x0d\n" ++ body

namespace HttpResponse

/-! ### Lines and fields -/

/-- The bytes before the end of a line, and what follows; absent if the line does not end. -/
def readLine : Bytes → Option (Bytes × Bytes)
  | [] => none
  | 13 :: 10 :: rest => some ([], rest)
  | 10 :: rest => some ([], rest)
  | byte :: rest => (readLine rest).map fun (line, rest) => (byte :: line, rest)

/-- The lines before an empty one, and what follows; absent if there is no empty line. At most so many
lines are read. -/
def readHead : Nat → Bytes → Option (List Bytes × Bytes)
  | 0, _ => none
  | limit + 1, bytes =>
    match readLine bytes with
    | none => none
    | some ([], rest) => some ([], rest)
    | some (line, rest) => (readHead limit rest).map fun (lines, rest) => (line :: lines, rest)

/-- The name and value of a field. -/
def readField (line : Bytes) : String × String :=
  let (name, value) := (Utf8.lossyText line).toList.span (· ≠ ':')
  (Text.lower (String.ofList (Charset.trim name)), String.ofList (Charset.trim (value.drop 1)))

/-- The status in a first line. -/
def readStatus (line : Bytes) : Option Nat := do
  let word ← (Text.split ' ' (Utf8.lossyText line).toList)[1]?
  if word.length = 3 then Host.numberIn 10 word else none

/-! ### Bodies -/

/-- A body in chunks, each after its length; absent if the last one is not there. At most so many chunks
are read. -/
def readChunks : Nat → Bytes → Option Bytes
  | 0, _ => none
  | limit + 1, bytes => do
    let (line, rest) ← readLine bytes
    let length ← Host.numberIn 16 ((Utf8.lossyText line).toList.takeWhile Char.isAlphanum)
    if length = 0 then some []
    else if rest.length < length then none
    else
      let (_, next) ← readLine (rest.drop length)
      return rest.take length ++ (← readChunks limit next)

/-- The body of an answer with a status and fields. -/
def readBody (status : Nat) (fields : List (String × String)) (isClosed : Bool) (bytes : Bytes) :
    Option Bytes :=
  if status = 204 ∨ status = 304 then some []
  else if fields.lookup "transfer-encoding" = some "chunked" then readChunks (bytes.length + 1) bytes
  else match (fields.lookup "content-length").bind String.toNat? with
    | some length => if length ≤ bytes.length then some (bytes.take length) else none
    | none => if isClosed then some bytes else none

/-! ### Answers -/

/-- The answer that bytes hold, if they hold all of it. Answers that only announce another are passed
over, at most so many of them. -/
def decodeAfter : Nat → Bool → Bytes → Option HttpResponse
  | 0, _, _ => none
  | limit + 1, isClosed, bytes => do
    let (head, rest) ← readHead (bytes.length + 1) bytes
    let status ← head.head?.bind readStatus
    if status < 200 then decodeAfter limit isClosed rest
    else
      let fields := head.tail.map readField
      let body ← readBody status fields isClosed rest
      return { status := status, contentType := fields.lookup "content-type", body := body }

/-- The answer that bytes hold, if they hold all of it. -/
def decode (isClosed : Bool) (bytes : Bytes) : Option HttpResponse :=
  decodeAfter (bytes.length + 1) isClosed bytes

end HttpResponse

end GraphOffload
