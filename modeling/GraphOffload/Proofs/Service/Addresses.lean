import GraphOffload.Proofs.Url.Directories
import GraphOffload.Service.Client

/-!
# Where requests go

A client joins the names of its resources to its endpoint, and puts the id of a job at the end of one.
Both go where they should as long as the endpoint is the address of a directory and the id can be a
segment of a path. A query or a fragment swallows the slash that makes a directory of the endpoint, and
its last segment is lost; an id with tabs or line ends is taken for one without them, and an id of one or
two dots for a place.

## Main definitions

* `GraphOffload.ServiceClient.located`, `GraphOffload.ServiceClient.asked` : the URL of a path on the server
  of a client, with and without the user in it.
* `GraphOffload.ServiceClient.Asks` : what comes of a request for a path.
* `GraphOffload.ServiceClient.Addresses` : where the requests of a client go.

## Main results

* `GraphOffload.ServiceClient.addresses` : where they go, whatever the endpoint and the ids.
* `GraphOffload.ServiceClient.misaddresses` : some go elsewhere than they should.
-/

namespace GraphOffload

namespace ServiceClient

open UrlPath (Nameable counted dropEmptyLast enter)

variable {client : ServiceClient} {held root : UrlPath}

/-! ### Endpoints -/

/-- An endpoint without the slashes at its end. -/
def stripped (endpoint : String) : String :=
  String.ofList (endpoint.toList.reverse.dropWhile (· = '/')).reverse

/-- The endpoint is read with one slash at its end. -/
theorem withSlash_eq (endpoint : String) : withSlash endpoint = stripped endpoint ++ "/" := by
  rw [← String.toList_inj, withSlash, stripped, String.toList_append, String.toList_ofList,
    String.toList_ofList]
  rfl

/-- What is left of an endpoint was in it. -/
theorem mem_of_mem_stripped {endpoint : String} {c : Char} (mem : c ∈ (stripped endpoint).toList) :
    c ∈ endpoint.toList := by
  rw [stripped, String.toList_ofList, List.mem_reverse] at mem
  exact List.mem_reverse.mp ((List.dropWhile_suffix _).mem mem)

/-- The base of a client is its endpoint, read with one slash at its end. -/
theorem parse_of_ofSettings {settings : ServiceSettings} (accepted : ofSettings settings = .ok client) :
    Url.parse (stripped settings.endpoint ++ "/") = .ok client.base := by
  rw [ofSettings, withSlash_eq] at accepted
  split at accepted
  case h_1 => cases accepted
  case h_2 parsed =>
    rw [parsed]
    exact congrArg Except.ok (congrArg base (Except.ok.inj accepted))

/-! ### Resources -/

/-- The URL of a path on the server of a client. -/
def located (client : ServiceClient) (path : UrlPath) : Url :=
  { client.base with
    place := .path path
    query := none
    fragment := none }

/-- A resource takes the place of the last segment of the endpoint. -/
theorem resource_eq (based : client.base.place = .path held) (name : String) :
    client.resource name = .ok (client.located (held.dropLast ++ Text.split '/' name.toList)) := by
  rw [resource, Url.join, based]
  rfl

/-- Jobs are submitted to one resource. -/
theorem submitUrl_eq (based : client.base.place = .path held) :
    client.submitUrl = .ok (client.located (held.dropLast ++ ["create_index".toList])) :=
  resource_eq based "create_index"

/-- The resource of a job is where its id leads. -/
theorem jobUrl_eq (based : client.base.place = .path held) (jobId : String) :
    client.jobUrl jobId =
      .ok (client.located (enter (held.dropLast ++ ["job".toList]) jobId)) := by
  have directory : Text.split '/' "job/".toList = ["job".toList] ++ [[]] := by decide
  rw [jobUrl, resource_eq based, directory, ← List.append_assoc, ← UrlPath.push_eq]
  rfl

/-! ### Requests -/

/-- The URL of a path, as it is asked for: the user in it is told apart from it. -/
def asked (client : ServiceClient) (path : UrlPath) : Url :=
  { client.located path with
    authority := client.base.authority.map fun authority => { authority with user := none } }

/-- What the server is asked for is the path. -/
theorem target_asked (path : UrlPath) : (client.asked path).target = String.ofList path.text := by
  simp [asked, located, Url.target, Url.Place.text]

/-- What comes of a request for a path. -/
structure Asks (client : ServiceClient) (method : HttpMethod) (path : UrlPath) (body : Option Json)
    (outcome : Except Failure HttpRequest) : Prop where
  /-- The server of the client is asked for that path and nothing else. -/
  sent : (client.asked path).text.utf8ByteSize ≤ maxUrlLength → ∃ request, outcome = .ok request ∧
    request.method = method ∧ request.url = client.asked path ∧ request.body = body
  /-- A URL that is too long is not asked for. -/
  unsent : maxUrlLength < (client.asked path).text.utf8ByteSize → outcome = .error .network

/-- A client of the web asks for what it is to ask for. -/
theorem asks_request (web : client.base.scheme = "http" ∨ client.base.scheme = "https")
    (method : HttpMethod) (path : UrlPath) (body : Option Json) :
    client.Asks method path body (client.request method (client.located path) body) where
  sent short := ⟨_, if_pos ⟨web, short⟩, rfl, rfl, rfl⟩
  unsent long := if_neg fun both => Nat.not_le.mpr long both.2

/-- A submission is a request for one resource. -/
theorem submitRequest_eq (based : client.base.place = .path held) (job : BuildJob) :
    client.submitRequest job = client.request .post
      (client.located (held.dropLast ++ ["create_index".toList])) (some job.toRequest.toJson) := by
  rw [submitRequest, submitUrl_eq based]
  rfl

/-- A question for a status is a request for the resource of the job. -/
theorem statusRequest_eq (based : client.base.place = .path held) (jobId : String) :
    client.statusRequest jobId = client.request .get
      (client.located (enter (held.dropLast ++ ["job".toList]) jobId)) none := by
  rw [statusRequest, jobUrl_eq based]
  rfl

/-! ### Addresses -/

/-- Where the requests of a client go: below a root that its endpoint names. -/
structure Addresses (endpoint : String) (client : ServiceClient) (root : UrlPath) : Prop where
  /-- The resources take the place of the last segment of what the client took the endpoint for. -/
  rooted : ∃ held, client.base.place = .path held ∧ root = held.dropLast
  /-- Jobs are posted to one resource below the root. -/
  submission : ∀ job, client.Asks .post (root ++ ["create_index".toList]) (some job.toRequest.toJson)
    (client.submitRequest job)
  /-- The status of a job is asked for where the id of the job leads from another one. -/
  status : ∀ jobId, client.Asks .get (enter (root ++ ["job".toList]) jobId) none
    (client.statusRequest jobId)
  /-- That is in the other one, unless the id is one of dots. -/
  inside : ∀ jobId, (∃ segment, enter (root ++ ["job".toList]) jobId = root ++ ["job".toList, segment]) ↔
    jobId ≠ "." ∧ counted jobId.toList ≠ ['.', '.']
  /-- It is a segment that reads back as the id exactly if the id is nameable. -/
  named : ∀ jobId, (∃ segment, enter (root ++ ["job".toList]) jobId = root ++ ["job".toList, segment] ∧
    Percent.decode segment = Utf8.bytes jobId ∧ ∀ c ∈ ['/', '\\', '?', '#'], c ∉ segment) ↔
    Nameable jobId
  /-- The server is asked for different things when different nameable ids are asked for. -/
  distinct : ∀ jobId jobId', Nameable jobId → Nameable jobId' →
    (client.asked (enter (root ++ ["job".toList]) jobId)).target =
      (client.asked (enter (root ++ ["job".toList]) jobId')).target → jobId = jobId'
  /-- No segment of it is lost that way if the endpoint has neither query nor fragment. -/
  whole : (∀ c ∈ endpoint.toList, Url.endsPath c = false) → client.base.place = .path (root ++ [[]])
  /-- The root is the path of the endpoint itself, if the slash after that only extends its path. -/
  own : Url.Extends (stripped endpoint) → ∃ url segments, Url.parse (stripped endpoint) = .ok url ∧
    url.place = .path segments ∧ root = dropEmptyLast segments ∧ client.base = url.directory

/-- Ids that lead to one target have one segment. -/
theorem segment_eq_of_target {segment segment' : List Char}
    (same : (client.asked (root ++ [segment])).target = (client.asked (root ++ [segment'])).target) :
    segment = segment' := by
  rw [target_asked, target_asked, String.ofList_inj] at same
  simpa [UrlPath.text] using same

/-- **Where the requests of a client go**, whatever its endpoint, if that is one of the web, and whatever
the ids of jobs.

**Proof sketch.** The client keeps the address of its endpoint as a directory, by its segments
(`Url.path_of_parse`); the resources of all requests are found from there. Which ids have a place of
their own is `UrlPath.enter_stays_iff`, and which a readable one `UrlPath.enter_eq_iff`. The segments
that the endpoint gives are told apart by whether it ends in a slash (`Url.directory_of_parse_slash`),
or goes on with a query or a fragment (`Url.exists_parse_of_slash`). -/
theorem addresses {settings : ServiceSettings} (accepted : ofSettings settings = .ok client)
    (web : client.base.scheme = "http" ∨ client.base.scheme = "https") :
    ∃ root, Addresses settings.endpoint client root := by
  have parsed := parse_of_ofSettings accepted
  have is_web : Url.isWeb client.base.scheme = true := by
    rcases web with same | same
    all_goals rw [same]; rfl
  obtain ⟨held, based⟩ := Url.path_of_parse parsed is_web
  -- both resources are the place of jobs with one more segment
  have apart (segment : List Char) : held.dropLast ++ ["job".toList, segment] =
      held.dropLast ++ ["job".toList] ++ [segment] := by rw [List.append_assoc, List.singleton_append]
  have some_place : held.dropLast ++ ["job".toList] ≠ [] :=
    List.append_ne_nil_of_right_ne_nil _ (List.cons_ne_nil _ _)
  refine ⟨held.dropLast, ⟨held, based, rfl⟩, ?_, ?_, ?_, ?_, ?_, ?_, ?_⟩
  · intro job
    rw [submitRequest_eq based]
    exact asks_request web _ _ _
  · intro jobId
    rw [statusRequest_eq based]
    exact asks_request web _ _ _
  · intro jobId
    simp only [apart]
    exact UrlPath.enter_stays_iff some_place jobId
  · intro jobId
    simp only [apart]
    constructor
    · rintro ⟨segment, enter_eq, decoded, _⟩
      exact (UrlPath.enter_eq_iff some_place jobId).mp ⟨segment, enter_eq, decoded⟩
    · intro nameable
      obtain ⟨enter_eq, decoded⟩ := nameable.enter_eq (held.dropLast ++ ["job".toList])
      exact ⟨_, enter_eq, decoded, fun c ends => UrlPath.not_mem_encodeSegment ends _⟩
  · intro jobId jobId' nameable nameable' same
    rw [(nameable.enter_eq _).1, (nameable'.enter_eq _).1] at same
    exact nameable.eq_of_encodeSegment nameable' (segment_eq_of_target same)
  · intro unended
    obtain ⟨names, names_eq⟩ := Url.directory_of_parse_slash
      (fun c mem => unended c (mem_of_mem_stripped mem)) parsed is_web
    obtain rfl : held = names ++ [[]] := Url.Place.path.inj (based.symm.trans names_eq)
    rw [List.dropLast_concat, names_eq]
  · intro goes_on
    obtain ⟨own, own_eq, directory_eq⟩ := Url.exists_parse_of_slash goes_on parsed is_web
    rw [← directory_eq, Url.scheme_directory] at is_web
    obtain ⟨segments, segments_eq⟩ := Url.path_of_parse own_eq is_web
    rw [← directory_eq, Url.place_directory segments_eq] at based
    obtain rfl := Url.Place.path.inj based
    exact ⟨own, segments, own_eq, segments_eq, List.dropLast_concat, directory_eq.symm⟩

/-- A client of a server on the web. -/
def clientOf (path : UrlPath) (query : Option (List Char)) : ServiceClient where
  base := {
    scheme := "http"
    authority := some { host := .domain "svc".toList }
    place := .path path
    query := query }

/-- An endpoint with slashes at its end is the root of all requests. -/
theorem addresses_slashes :
    ofSettings { endpoint := "http://svc/api//" } = .ok (clientOf ["api".toList, []] none) ∧
      Addresses "http://svc/api//" (clientOf ["api".toList, []] none) ["api".toList] := by
  have accepted : ofSettings { endpoint := "http://svc/api//" } = .ok (clientOf ["api".toList, []] none) := by
    have parsed : Url.parse (withSlash "http://svc/api//") =
        .ok (clientOf ["api".toList, []] none).base := by decide +kernel
    rw [ofSettings]
    simp only [parsed]
    rfl
  obtain ⟨root, addressed⟩ := addresses accepted (.inl rfl)
  have whole := Url.Place.path.inj (addressed.whole (by simp [Url.endsPath]))
  obtain rfl : ["api".toList] = root := congrArg List.dropLast whole |>.trans List.dropLast_concat
  exact ⟨accepted, addressed⟩

/-- **Not all requests go where they should**: an endpoint with a query loses its last segment, ids with
and without a tab are asked for at one place, and an id of dots leads out of the resource of jobs. -/
theorem misaddresses :
    (∃ client, ofSettings { endpoint := "http://svc/api?x=1" } = .ok client ∧
      client.submitUrl.map Url.target = .ok "/create_index") ∧
    ∃ client, ofSettings { endpoint := "http://svc/api" } = .ok client ∧
      client.submitUrl.map Url.target = .ok "/api/create_index" ∧
      "a\tb" ≠ "ab" ∧ client.jobUrl "a\tb" = client.jobUrl "ab" ∧
      client.jobUrl "." = client.jobUrl ".." ∧
      (client.jobUrl "..").map Url.target = .ok "/api/job" ∧
      (client.jobUrl ".\t.").map Url.target = .ok "/api/" := by
  constructor
  · have parsed : Url.parse (withSlash "http://svc/api?x=1") =
        .ok (clientOf ["api".toList] (some "x=1/".toList)).base := by decide +kernel
    refine ⟨clientOf ["api".toList] (some "x=1/".toList), ?_, by decide +kernel⟩
    rw [ofSettings]
    simp only [parsed]
    rfl
  · have parsed : Url.parse (withSlash "http://svc/api") =
        .ok (clientOf ["api".toList, []] none).base := by decide +kernel
    refine ⟨clientOf ["api".toList, []] none, ?_, by decide +kernel⟩
    rw [ofSettings]
    simp only [parsed]
    rfl

end ServiceClient

end GraphOffload
