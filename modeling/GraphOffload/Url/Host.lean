import GraphOffload.Text.Segments
import GraphOffload.Url.Percent
import GraphOffload.Url.Punycode

/-!
# Hosts

A host is named by a domain or by an IP address. A domain whose last label is a number is an IPv4
address, in which numbers may be decimal, octal or hexadecimal and may stand for several bytes; an IPv6
address stands in brackets.

## Main definitions

* `GraphOffload.Url.Fault` : why a text is no URL.
* `GraphOffload.Host` : a host.
* `GraphOffload.Host.parse`, `GraphOffload.Host.parsePlain` : the host of a text, for servers of the web
  and for other schemes.
* `GraphOffload.Host.text` : the text of a host.
-/

namespace GraphOffload

/-- Why a text is no URL. -/
inductive Url.Fault
  | emptyHost
  | badDomain
  | badHostCharacter
  | badIpv4
  | badIpv6
  | badPort
  /-- The text has no scheme. -/
  | relative
  /-- The path that another one is relative to has no segments. -/
  | rootlessBase
  deriving DecidableEq

/-- The text of a fault. -/
def Url.Fault.message : Url.Fault → String
  | .emptyHost => "empty host"
  | .badDomain => "invalid international domain name"
  | .badHostCharacter => "invalid domain character"
  | .badIpv4 => "invalid IPv4 address"
  | .badIpv6 => "invalid IPv6 address"
  | .badPort => "invalid port number"
  | .relative => "relative URL without a base"
  | .rootlessBase => "relative URL with a cannot-be-a-base base"

/-- A host. -/
inductive Host
  /-- A name; the empty one stands for no host. -/
  | domain (name : List Char)
  /-- A number of 32 bits. -/
  | ipv4 (number : Nat)
  /-- Eight numbers of 16 bits. -/
  | ipv6 (groups : List Nat)
  deriving DecidableEq

namespace Host

/-! ### Numbers -/

/-- The number that digits stand for in a base up to sixteen; no digits stand for zero. -/
def numberIn (base : Nat) (digits : List Char) : Option Nat :=
  digits.foldlM (fun n c => do
    let value ← Percent.hexValue? c
    if value < base then some (base * n + value) else none) 0

/-- A number in an IPv4 address: hexadecimal after `0x`, octal after `0`, else decimal. -/
def ipv4Number : List Char → Option Nat
  | [] => none
  | '0' :: 'x' :: digits => numberIn 16 digits
  | '0' :: 'X' :: digits => numberIn 16 digits
  | '0' :: c :: digits => numberIn 8 (c :: digits)
  | digits => numberIn 10 digits

/-! ### IPv4 -/

/-- The labels of a domain, without an empty one at the end. -/
def labels (domain : List Char) : List (List Char) :=
  let all := Text.split '.' domain
  if all.getLast? = some [] then all.dropLast else all

/-- Whether the last label of a domain is a number. -/
def endsInNumber (domain : List Char) : Bool :=
  match (labels domain).getLast? with
  | none => false
  | some last => (!last.isEmpty && last.all Char.isDigit) || (ipv4Number last).isSome

/-- The address of a domain whose last label is a number. All numbers but the last are bytes, and the
last one stands for the bytes that are left. -/
def parseIpv4 (domain : List Char) : Option Nat := do
  let numbers ← (labels domain).mapM ipv4Number
  let last ← numbers.getLast?
  let bytes := numbers.dropLast
  if bytes.length < 4 ∧ bytes.all (· < 256) ∧ last < Nat.pow 256 (4 - bytes.length) then
    some (bytes.foldl (fun n byte => 256 * n + byte) 0 * Nat.pow 256 (4 - bytes.length) + last)
  else none

/-- The four bytes of an address. -/
def ipv4Text (number : Nat) : List Char :=
  let byte (weight : Nat) : List Char := Nat.toDigits 10 (number / weight % 256)
  Text.join '.' [byte 16777216, byte 65536, byte 256, byte 1]

/-! ### IPv6 -/

/-- One of four bytes, in decimal digits without needless zeros. -/
def decimalByte (digits : List Char) : Option Nat := do
  if digits.isEmpty ∨ 3 < digits.length ∨ (digits.head? = some '0' ∧ digits ≠ ['0']) then none
  else
    let n ← numberIn 10 digits
    if n < 256 then some n else none

/-- Four bytes with dots between them, as two groups. -/
def dottedGroups (text : List Char) : Option (List Nat) := do
  match ← (Text.split '.' text).mapM decimalByte with
  | [a, b, c, d] => some [256 * a + b, 256 * c + d]
  | _ => none

/-- A group of one to four hexadecimal digits. -/
def hexGroup (digits : List Char) : Option Nat :=
  if digits.isEmpty ∨ 4 < digits.length then none else numberIn 16 digits

/-- Groups with colons between them, of which the last two may be written as four bytes. -/
def groups (allowDots : Bool) (text : List Char) : Option (List Nat) := do
  if text.isEmpty then return []
  let parts := Text.split ':' text
  let last ← parts.getLast?
  let front ← parts.dropLast.mapM hexGroup
  if allowDots ∧ last.contains '.' then return front ++ (← dottedGroups last)
  return front ++ [← hexGroup last]

/-- The texts before and after the first pair of colons. -/
def cutAtGap : List Char → Option (List Char × List Char)
  | ':' :: ':' :: rest => some ([], rest)
  | c :: rest => (cutAtGap rest).map fun (before, after) => (c :: before, after)
  | [] => none

/-- The eight groups of an address. A pair of colons stands for all the zeros that are missing, one at
least. -/
def parseIpv6 (text : List Char) : Option (List Nat) := do
  match cutAtGap text with
  | none =>
    let all ← groups true text
    if all.length = 8 then some all else none
  | some (before, after) =>
    let front ← groups false before
    let back ← groups true after
    if front.length + back.length < 8 then
      some (front ++ List.replicate (8 - front.length - back.length) 0 ++ back)
    else none

/-- The number of zeros that a list begins with. -/
def leadingZeros (list : List Nat) : Nat := (list.takeWhile (· = 0)).length

/-- The length and place of the longest run of zeros, of the first one if there are several. -/
def longestZeros : Nat → List Nat → Nat × Nat
  | _, [] => (0, 0)
  | place, n :: rest =>
    let later := longestZeros (place + 1) rest
    let here := leadingZeros (n :: rest)
    if later.1 ≤ here then (here, place) else later

/-- The groups with colons between them; two zeros or more that follow each other are left out, once. -/
def ipv6Text (list : List Nat) : List Char :=
  let write (part : List Nat) : List Char := Text.join ':' (part.map (Nat.toDigits 16))
  let (count, place) := longestZeros 0 list
  if count < 2 then write list
  else write (list.take place) ++ "::".toList ++ write (list.drop (place + count))

/-! ### Domains -/

/-- Characters that no domain may have. -/
def isForbidden (c : Char) : Bool :=
  Percent.isControl c || " %#/:<>?@[\\]^|".toList.contains c

/-- A label in ASCII. -/
def asciiLabel (label : List Char) : List Char :=
  if label.all (·.toNat < 128) then label else "xn--".toList ++ Punycode.encode label

/-- The domain of a text, in lower case and in ASCII. Only the letters `A` to `Z` are put in lower case:
the mapping of international domain names, by which other capitals, characters of compatibility and
decomposed letters get one spelling, is not made, nor are labels checked for what such names may not
have. So the domain is the one that a browser finds if the text is mapped already. -/
def parseDomain (text : List Char) : Except Url.Fault (List Char) :=
  match Utf8.text? (Percent.decode text) with
  | none => .error .badDomain
  | some decoded =>
    let lowered := decoded.toList.map Char.toLower
    if lowered.any isForbidden then .error .badDomain
    else .ok (Text.join '.' ((Text.split '.' lowered).map asciiLabel))

/-! ### Hosts -/

/-- The IPv6 address in brackets, if the text begins with one. -/
def bracketed? : List Char → Option (Except Url.Fault Host)
  | '[' :: rest =>
    if rest.getLast? = some ']' then
      some (((parseIpv6 rest.dropLast).map ipv6).elim (.error .badIpv6) .ok)
    else some (.error .badIpv6)
  | _ => none

/-- The host of a text, for a server of the web. -/
def parse (text : List Char) : Except Url.Fault Host :=
  match bracketed? text with
  | some host => host
  | none => do
    let name ← parseDomain text
    if name.isEmpty then .error .emptyHost
    else if endsInNumber name then ((parseIpv4 name).map ipv4).elim (.error .badIpv4) .ok
    else .ok (domain name)

/-- Characters that no host may have, whatever the scheme. -/
def isDelimiter (c : Char) : Bool :=
  c = '\x00' || " #/:<>?@[\\]^|".toList.contains c

/-- The host of a text under a scheme that is not of the web: what stands there, as it is. -/
def parsePlain (text : List Char) : Except Url.Fault Host :=
  match bracketed? text with
  | some host => host
  | none =>
    if text.any isDelimiter then .error .badHostCharacter
    else .ok (domain (Percent.encode Percent.isControl text))

/-- The text of a host. -/
def text : Host → List Char
  | domain name => name
  | ipv4 number => ipv4Text number
  | ipv6 groups => '[' :: ipv6Text groups ++ [']']

end Host

end GraphOffload
