/-!
# Faults of devices

What a file, a sink or an index reader reports when a call on it fails.

## Main definitions

* `GraphOffload.Fault` : a kind and a text.
-/

namespace GraphOffload

/-- The kinds of fault. -/
inductive Fault.Kind
  | notFound
  | isDirectory
  | unexpectedEnd
  | invalidInput
  | invalidData
  | unsupported
  | brokenPipe
  | writeZero
  | interrupted
  | other
  deriving DecidableEq

/-- A failed call on a device. -/
structure Fault where
  kind : Fault.Kind
  text : String
  deriving DecidableEq

namespace Fault

/-- A file that is not there. -/
def noFile : Fault := ⟨.notFound, "No such file or directory (os error 2)"⟩

/-- A directory where a file was to be read. -/
def directory : Fault := ⟨.isDirectory, "Is a directory (os error 21)"⟩

/-- A file that ends before everything asked for was read. -/
def shortRead : Fault := ⟨.unexpectedEnd, "failed to fill whole buffer"⟩

/-- A text file whose bytes are not UTF-8. -/
def notText : Fault := ⟨.invalidData, "stream did not contain valid UTF-8"⟩

/-- A sink that takes no byte and reports no fault. -/
def nothingWritten : Fault := ⟨.writeZero, "write zero"⟩

/-- A document with a number that is no id. -/
def idOutOfRange : Fault := ⟨.invalidData, "doc id out of range"⟩

/-- A vector is asked of a cursor that stands on no document. -/
def notOnDocument : Fault := ⟨.invalidInput, "cursor is not positioned on a document"⟩

end Fault

end GraphOffload
