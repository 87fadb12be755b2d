import GraphOffload.Json.Decode

/-!
# Lengths of time

## Main definitions

* `GraphOffload.Span` : a length of time in seconds and nanoseconds.
* `GraphOffload.Span.normal?` : the span of seconds and any number of nanoseconds.
* `GraphOffload.Span.sum?` : the sum of two spans, if its seconds fit 64 bits.
-/

namespace GraphOffload

/-- A length of time; the nanoseconds stay below a second. -/
structure Span where
  seconds : UInt64
  nanoseconds : UInt32
  deriving DecidableEq

namespace Span

/-- How many nanoseconds a second has. -/
def perSecond : Nat := 1000000000

/-- The span of seconds and any number of nanoseconds, whole seconds among them being carried over;
absent if the seconds do not fit 64 bits. -/
def normal? (seconds nanoseconds : Nat) : Option Span :=
  let total := seconds + nanoseconds / perSecond
  if total < UInt64.size then some ⟨.ofNat total, .ofNat (nanoseconds % perSecond)⟩ else none

/-- A span of whole milliseconds. -/
def ofMilliseconds (n : Nat) : Span :=
  ⟨.ofNat (n / 1000), .ofNat (n % 1000 * 1000000)⟩

/-- The sum of two spans, if its seconds fit 64 bits. -/
def sum? (a b : Span) : Option Span :=
  normal? (a.seconds.toNat + b.seconds.toNat) (a.nanoseconds.toNat + b.nanoseconds.toNat)

/-- The span as stored. -/
def toJson (span : Span) : Json :=
  .ofMembers
    [("secs", .ofNat span.seconds.toNat), ("nanos", .ofNat span.nanoseconds.toNat)]

/-- Reads a stored span. Both members must be there, and no others. -/
def decode : Json.Decoder Span := fun depth document => do
  if let .object members := document then
    if members.any fun member => member.1 ≠ some "secs" ∧ member.1 ≠ some "nanos" then none
  let (depth, fields) ← Json.Decoder.fields [["secs"], ["nanos"]] depth document
  match fields with
  | [seconds, nanoseconds] =>
    normal? (← Json.Decoder.required (Json.Decoder.natBelow UInt64.size) depth seconds)
      (← Json.Decoder.required (Json.Decoder.natBelow UInt32.size) depth nanoseconds)
  | _ => none

end Span

end GraphOffload
