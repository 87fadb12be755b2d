import GraphOffload.Url.Basic

/-!
# Reading URLs

Blanks and control characters around a URL are dropped, and so are tabs and line ends within it. For
the web and for files a backslash counts as a slash.

## Main definitions

* `GraphOffload.Url.parse` : the URL of a text.
-/

namespace GraphOffload.Url

/-- The characters of a text that count. -/
def clean (text : String) : List Char :=
  let isOuter (c : Char) : Bool := c ≤ ' '
  let trimmed := ((text.toList.dropWhile isOuter).reverse.dropWhile isOuter).reverse
  trimmed.filter (!UrlPath.isIgnored ·)

/-- Whether a character may follow the first one of a scheme. -/
def isSchemeChar (c : Char) : Bool := c.isAlphanum || c = '+' || c = '-' || c = '.'

/-- The scheme of a text, in lower case, and what follows it. -/
def readScheme (text : List Char) : Option (String × List Char) :=
  match text.head?, text.span isSchemeChar with
  | some c, (scheme, ':' :: rest) =>
    if c.isAlpha then some (Text.lower (String.ofList scheme), rest) else none
  | _, _ => none

/-! ### Servers -/

/-- The user of a text, which may be followed by a password; absent if there is neither. -/
def readUser (text : List Char) : Option User :=
  let encode := Percent.encode Percent.inUser
  let (name, rest) := text.span (· ≠ ':')
  let password := rest.drop 1
  if name.isEmpty ∧ password.isEmpty then none
  else some ⟨encode name, if password.isEmpty then none else some (encode password)⟩

/-- A text cut at the last sign between user and host, if there is one. -/
def cutUser (text : List Char) : Option (List Char) × List Char :=
  let (host, before) := text.reverse.span (· ≠ '@')
  (match before with
    | [] => none
    | _ :: user => some user.reverse, host.reverse)

/-- A text cut at the first colon that does not stand in brackets. -/
def cutHost (inBrackets : Bool) : List Char → List Char × List Char
  | [] => ([], [])
  | c :: rest =>
    if c = ':' ∧ ¬ inBrackets then ([], c :: rest)
    else
      let (host, rest) := cutHost ((inBrackets || c = '[') && c ≠ ']') rest
      (c :: host, rest)

/-- The port after a host, absent if it is the usual one; and what follows it. -/
def readPort (usual : Option Nat) (text : List Char) : Except Fault (Option Nat × List Char) :=
  match text with
  | ':' :: text =>
    let (digits, rest) := text.span Char.isDigit
    let port := digits.foldl (fun n c => 10 * n + (c.toNat - 48)) 0
    if 65535 < port ∨ (rest ≠ [] ∧ rest.head? ≠ some '\\') then .error .badPort
    else .ok (if digits.isEmpty ∨ usual = some port then none else some port, rest)
  | rest => .ok (none, rest)

/-- The authority of a text that ends before a path, a query or a fragment; and what belongs to
the path after all. -/
def readAuthority (scheme : String) (text : List Char) (isLast : Bool) :
    Except Fault (Authority × List Char) := do
  let (user, server) := cutUser text
  if user = some [] ∧ server = [] ∧ ¬ isLast then throw .emptyHost
  let user := user.bind readUser
  let (host, rest) := cutHost false server
  if host.isEmpty ∧ isWeb scheme then throw .emptyHost
  let host ← if isWeb scheme then Host.parse host else Host.parsePlain host
  if host = .domain [] ∧ rest.head? = some ':' then throw .emptyHost
  let (port, rest) ← readPort (usualPort? scheme) rest
  if host = .domain [] ∧ user.isSome then throw .emptyHost
  return (⟨user, host, port⟩, rest)

/-! ### Paths, queries and fragments -/

/-- Whether a path ends before a character. -/
def endsPath (c : Char) : Bool := c = '?' || c = '#'

/-- The query and the fragment of a text that begins with one of them or is empty. -/
def readEnd (scheme : String) (text : List Char) : Option (List Char) × Option (List Char) :=
  let fragment : List Char → Option (List Char)
    | [] => none
    | _ :: text => some (Percent.encode Percent.inFragment text)
  match text with
  | '?' :: text =>
    let (query, rest) := text.span (· ≠ '#')
    let reserved := if isWeb scheme ∨ scheme = "file" then Percent.inWebQuery else Percent.inQuery
    (some (Percent.encode reserved query), fragment rest)
  | rest => (none, fragment rest)

/-- The URL of a scheme, an authority and the text of a place. -/
def ofParts (scheme : String) (authority : Option Authority) (place : Place) (rest : List Char) : Url :=
  let (query, fragment) := readEnd scheme rest
  { scheme := scheme
    authority := authority
    place := place
    query := query
    fragment := fragment }

/-- A text in which backslashes are slashes, up to a query or fragment. -/
def turnSlashes (text : List Char) : List Char :=
  let (path, rest) := text.span (!endsPath ·)
  path.map (fun c => if c = '\\' then '/' else c) ++ rest

/-! ### Kinds of URLs -/

/-- The URL of a scheme with an authority. -/
def readServer (scheme : String) (text : List Char) : Except Fault Url := do
  let (server, rest) := text.span fun c => c ≠ '/' && !endsPath c
  let (authority, more) ← readAuthority scheme server rest.isEmpty
  let (path, rest) := (more ++ rest).span (!endsPath ·)
  let segments := if path.isEmpty ∧ ¬ isWeb scheme then [] else UrlPath.parse path
  return ofParts scheme (some authority) (.path segments) rest

/-- The URL of a file. Empty segments at the beginning of its path go. -/
def readFile (text : List Char) : Except Fault Url := do
  let (server, rest) := match text with
    | '/' :: '/' :: text => text.span fun c => c ≠ '/' && !endsPath c
    | text => ([], text)
  let host ←
    if server.isEmpty then pure (Host.domain []) else Host.parse server
  let host := if host = .domain "localhost".toList then .domain [] else host
  let (path, rest) := rest.span (!endsPath ·)
  let named := (UrlPath.parse path).dropWhile List.isEmpty
  return ofParts "file" (some { host := host }) (.path (if named.isEmpty then [[]] else named)) rest

/-- The URL of a scheme that says nothing of servers. -/
def readOther (scheme : String) (text : List Char) : Except Fault Url :=
  match text with
  | '/' :: '/' :: text => readServer scheme text
  | text =>
    let (path, rest) := text.span (!endsPath ·)
    let place :=
      if path.head? = some '/' then Place.path (UrlPath.parse path)
      else .rootless (Percent.encode Percent.isControl path)
    .ok (ofParts scheme none place rest)

/-- The URL of a text. -/
def parse (text : String) : Except Fault Url :=
  match readScheme (clean text) with
  | none => .error .relative
  | some (scheme, rest) =>
    if isWeb scheme then readServer scheme ((turnSlashes rest).dropWhile (· = '/'))
    else if scheme = "file" then readFile (turnSlashes rest)
    else readOther scheme rest

end GraphOffload.Url
