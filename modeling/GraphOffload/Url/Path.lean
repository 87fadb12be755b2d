import GraphOffload.Text.Segments
import GraphOffload.Url.Percent

/-!
# Paths of URLs

A path is a list of segments. Two segments have a meaning of their own: one dot for the place itself
and two dots for the place above it; both may be written with percent signs.

## Main definitions

* `GraphOffload.UrlPath.walk` : follows segments from a place.
* `GraphOffload.UrlPath.parse` : the segments of a text.
* `GraphOffload.UrlPath.push` : the path with one more segment, whatever its characters.
-/

namespace GraphOffload

/-- A path by its segments, each with percent signs where they are needed. -/
abbrev UrlPath := List (List Char)

namespace UrlPath

/-- Whether a segment means the place itself. -/
def isHere (segment : List Char) : Bool :=
  [".", "%2e"].contains (String.ofList (segment.map Char.toLower))

/-- Whether a segment means the place above. -/
def isAbove (segment : List Char) : Bool :=
  ["..", ".%2e", "%2e.", "%2e%2e"].contains (String.ofList (segment.map Char.toLower))

/-- Follows segments from a place. If the last one means a place, the path ends with an empty
segment. -/
def walk (place : UrlPath) : UrlPath → UrlPath
  | [] => place
  | [last] =>
    if isAbove last then place.dropLast ++ [[]]
    else if isHere last then place ++ [[]]
    else place ++ [last]
  | segment :: next :: rest =>
    if isAbove segment then walk place.dropLast (next :: rest)
    else if isHere segment then walk place (next :: rest)
    else walk (place ++ [segment]) (next :: rest)

/-- The segments of a text, which may begin with a slash. -/
def parse (text : List Char) : UrlPath :=
  let rest := match text with
    | '/' :: rest => rest
    | other => other
  walk [] ((Text.split '/' rest).map (Percent.encode Percent.inPath))

/-- The path without an empty segment at its end. -/
def dropEmptyLast (path : UrlPath) : UrlPath :=
  if path.getLast? = some [] then path.dropLast else path

/-- Whether a character is left out of URLs. -/
def isIgnored (c : Char) : Bool := c = '\t' || c = '\n' || c = '\x0d'

/-- The characters of a text as one segment. -/
def encodeSegment (text : List Char) : List Char :=
  Percent.encode Percent.inSegment (text.filter (!isIgnored ·))

/-- The path with one more segment, in place of an empty one at its end. One dot and two dots add
nothing. -/
def push (path : UrlPath) (text : String) : UrlPath :=
  if text = "." ∨ text = ".." then dropEmptyLast path
  else walk (dropEmptyLast path) [encodeSegment text.toList]

/-- The text of a path. -/
def text (path : UrlPath) : List Char := path.flatMap ('/' :: ·)

end UrlPath

end GraphOffload
