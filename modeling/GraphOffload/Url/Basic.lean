import GraphOffload.Url.Host
import GraphOffload.Url.Path

/-!
# URLs

## Main definitions

* `GraphOffload.Url` : a scheme, an authority, a path, a query and a fragment.
* `GraphOffload.Url.text` : the text of a URL.
* `GraphOffload.Url.target` : what a server is asked for.
* `GraphOffload.Url.join` : the URL of a path relative to another URL.
* `GraphOffload.Url.credentials?` : the user and password in a URL.
-/

namespace GraphOffload

namespace Url

/-- The user in a URL, as written. -/
structure User where
  name : List Char
  password : Option (List Char)
  deriving DecidableEq

/-- The server in a URL. -/
structure Authority where
  user : Option User := none
  host : Host
  /-- The port, if it is not the usual one of the scheme. -/
  port : Option Nat := none
  deriving DecidableEq

/-- The part of a URL that names a thing on the server. -/
inductive Place
  | path (segments : UrlPath)
  /-- A text that is no path. -/
  | rootless (text : List Char)
  deriving DecidableEq

end Url

/-- A uniform resource locator. -/
structure Url where
  scheme : String
  authority : Option Url.Authority := none
  place : Url.Place
  query : Option (List Char) := none
  fragment : Option (List Char) := none
  deriving DecidableEq

namespace Url

/-! ### Schemes -/

/-- The port that a scheme of the web uses if none is given. -/
def usualPort? (scheme : String) : Option Nat :=
  [("http", 80), ("https", 443), ("ws", 80), ("wss", 443), ("ftp", 21)].lookup scheme

/-- Whether URLs of a scheme name a server of the web. -/
def isWeb (scheme : String) : Bool := (usualPort? scheme).isSome

/-! ### Texts -/

/-- The text of a user, with the sign that follows it. -/
def User.text (user : User) : List Char :=
  user.name ++ (user.password.elim [] (':' :: ·)) ++ ['@']

/-- The text of a port, with the sign before it. -/
def portText (port : Nat) : List Char := ':' :: Nat.toDigits 10 port

/-- The text of an authority. -/
def Authority.text (authority : Authority) : List Char :=
  authority.user.elim [] User.text ++ authority.host.text ++ authority.port.elim [] portText

/-- The text of a place. Without an authority, a path that begins with an empty segment gets a dot, for
two slashes would announce an authority. -/
def Place.text (hasAuthority : Bool) : Place → List Char
  | rootless text => text
  | path segments =>
    if hasAuthority ∨ segments.head? ≠ some [] ∨ segments.length < 2 then segments.text
    else "/.".toList ++ segments.text

/-- The text of a URL. -/
def text (url : Url) : String :=
  String.ofList (url.scheme.toList ++ [':'] ++
    url.authority.elim [] (fun authority => "//".toList ++ authority.text) ++
    url.place.text url.authority.isSome ++
    url.query.elim [] ('?' :: ·) ++
    url.fragment.elim [] ('#' :: ·))

/-- What a server is asked for: path and query. -/
def target (url : Url) : String :=
  String.ofList (url.place.text true ++ url.query.elim [] ('?' :: ·))

/-! ### Relative paths -/

/-- The URL of a path relative to a URL: its segments take the place of the last one, and query and
fragment go. -/
def join (base : Url) (segments : UrlPath) : Except Url.Fault Url :=
  match base.place with
  | .rootless _ => .error .rootlessBase
  | .path held =>
    .ok { base with
      place := .path (held.dropLast ++ segments)
      query := none
      fragment := none }

/-- The URL whose path has one more segment, whatever its characters. -/
def push (url : Url) (text : String) : Url :=
  match url.place with
  | .rootless _ => url
  | .path held => { url with place := .path (held.push text) }

/-! ### Users -/

/-- The user and password in a URL, if they are texts and not both empty. -/
def credentials? (url : Url) : Option (String × Option String) := do
  let user ← url.authority.bind Authority.user
  let name ← Utf8.text? (Percent.decode user.name)
  let password := user.password.bind fun password => Utf8.text? (Percent.decode password)
  if name.isEmpty ∧ password.isNone then none else some (name, password)

end Url

end GraphOffload
