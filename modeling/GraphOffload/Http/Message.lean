import GraphOffload.Json.Document
import GraphOffload.Text.Charset
import GraphOffload.Url.Basic

/-!
# Messages to and from servers

## Main definitions

* `GraphOffload.HttpRequest` : what a server is asked.
* `GraphOffload.HttpResponse` : what a server answers.
* `GraphOffload.HttpResponse.text` : the text in an answer.
-/

namespace GraphOffload

/-- What is done with a resource. -/
inductive HttpMethod
  | get
  | post
  deriving DecidableEq

/-- The word for a method. -/
def HttpMethod.word : HttpMethod → String
  | get => "GET"
  | post => "POST"

/-- What a server is asked. -/
structure HttpRequest where
  method : HttpMethod
  url : Url
  /-- Who asks: the values of all fields that say so, in order. -/
  authorization : List String := []
  body : Option Json := none

/-- What a server answers. -/
structure HttpResponse where
  status : Nat
  contentType : Option String := none
  body : Bytes

namespace HttpResponse

/-- Whether the answer says that all went well. -/
def isSuccess (response : HttpResponse) : Bool := 200 ≤ response.status && response.status < 300

/-- The text in an answer, whatever its bytes. -/
def text (response : HttpResponse) : String :=
  (Charset.ofContentType response.contentType).decode response.body

end HttpResponse

end GraphOffload
