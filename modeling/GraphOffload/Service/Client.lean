import GraphOffload.Http.Message
import GraphOffload.Job.Index
import GraphOffload.Job.Status
import GraphOffload.Settings.Sections
import GraphOffload.Text.Base64
import GraphOffload.Url.Parse

/-!
# A client of the build service

The service has one resource to which jobs are submitted, and one resource for each job.

## Main definitions

* `GraphOffload.ServiceClient` : where the service is, and who asks.
* `GraphOffload.ServiceClient.ofSettings` : the client that settings name.
* `GraphOffload.ServiceClient.submitRequest`, `GraphOffload.ServiceClient.statusRequest` : what the
  service is asked.
* `GraphOffload.ServiceClient.readJobId`, `GraphOffload.ServiceClient.readStatus` : what an answer means.
-/

namespace GraphOffload

/-- Where the service is, and who asks. -/
structure ServiceClient where
  base : Url
  credentials : Option (String × Option String) := none

namespace ServiceClient

/-- The endpoint with exactly one slash at its end. -/
def withSlash (endpoint : String) : String :=
  String.ofList ((endpoint.toList.reverse.dropWhile (· = '/')).reverse ++ ['/'])

/-- The client that settings name. -/
def ofSettings (settings : ServiceSettings) : Except Failure ServiceClient :=
  match Url.parse (withSlash settings.endpoint) with
  | .error fault => .error (.settings (.badEndpoint settings.endpoint fault.message))
  | .ok base => .ok { base := base, credentials := settings.username.map (·, settings.password) }

/-! ### Resources -/

/-- The resource with a path relative to the endpoint. -/
def resource (client : ServiceClient) (path : String) : Except Failure Url :=
  match client.base.join (Text.split '/' path.toList) with
  | .error fault => .error (.mismatch (.badServicePath path fault.message))
  | .ok url => .ok url

/-- The resource to which jobs are submitted. -/
def submitUrl (client : ServiceClient) : Except Failure Url := client.resource "create_index"

/-- The resource of a job. -/
def jobUrl (client : ServiceClient) (jobId : String) : Except Failure Url :=
  (client.resource "job/").map (·.push jobId)

/-! ### Requests -/

/-- How a user and a password are written. -/
def basicAuthorization (user : String) (password : Option String) : String :=
  "Basic " ++ String.ofList (Base64.encode (Utf8.bytes (user ++ ":" ++ password.getD "")))

/-- How long the text of a URL may be. -/
def maxUrlLength : Nat := 65534

/-- A request for a resource. The user in the URL goes before the one in the settings. -/
def request (client : ServiceClient) (method : HttpMethod) (url : Url) (body : Option Json) :
    Except Failure HttpRequest :=
  let users := url.credentials?.toList ++ client.credentials.toList
  let url := { url with
    authority := url.authority.map fun authority => { authority with user := none } }
  if (url.scheme = "http" ∨ url.scheme = "https") ∧ url.text.utf8ByteSize ≤ maxUrlLength then
    .ok {
      method := method
      url := url
      authorization := users.map fun user => basicAuthorization user.1 user.2
      body := body }
  else .error .network

/-- What the service is asked when a job is submitted. -/
def submitRequest (client : ServiceClient) (job : BuildJob) : Except Failure HttpRequest := do
  client.request .post (← client.submitUrl) (some job.toRequest.toJson)

/-- What the service is asked for the status of a job. -/
def statusRequest (client : ServiceClient) (jobId : String) : Except Failure HttpRequest := do
  client.request .get (← client.jobUrl jobId) none

/-! ### Answers -/

/-- Reads an answer, if there is one. -/
def readAnswer {α : Type} (decode : Json.Decoder α) : Option HttpResponse → Except Failure α
  | none => .error .network
  | some response =>
    if response.isSuccess then
      match (Utf8.text? response.body).bind (Json.Decoder.ofText decode) with
      | none => .error .network
      | some value => .ok value
    else .error (.service response.status response.text)

/-- The id of a job that was submitted. -/
def readJobId : Option HttpResponse → Except Failure String := readAnswer decodeJobId

/-- The status of a job. -/
def readStatus : Option HttpResponse → Except Failure StatusReply := readAnswer StatusReply.decode

end ServiceClient

end GraphOffload
