import MetricAggregation.Datapoint
import MetricAggregation.SizeError

/-!
Reports on the wire: a line for every datapoint, and the lines packed into payloads of bounded length.
Lines are never split. They are gathered in one buffer, and cuts mark where its payloads end.
-/

namespace MetricAggregation

/-- How many datapoints were written, and how many could not be. -/
structure WriteResult where
  written : Nat
  dropped : Nat
deriving DecidableEq, Repr

namespace WriteResult

def merge (first second : WriteResult) : WriteResult :=
  ⟨first.written + second.written, first.dropped + second.dropped⟩

def anyFailures (result : WriteResult) : Bool := result.dropped ≠ 0

end WriteResult

/-- The line of a datapoint, if its value is finite. -/
def Datapoint.line? {α : Type} [Number α] (point : Datapoint α) : Option String :=
  if Number.isFinite point.value then
    some (point.path ++ " " ++ Number.text point.value ++ " " ++ toString point.timestamp ++ "\n")
  else none

/-- Packs lines into payloads. -/
structure PayloadWriter where
  maxLength : Nat
  buffer : ByteArray
  /-- The positions in the buffer where finished payloads end. -/
  cuts : Array Nat

/-- Payloads that are taken from a writer one by one. -/
structure Payloads where
  buffer : ByteArray
  /-- Where the next payload starts. -/
  start : Nat
  /-- Where the payloads that are left end. -/
  ends : List Nat

namespace PayloadWriter

/-- The length of the shortest line. -/
def leastLength : Nat := "a 0 0\n".utf8ByteSize

def empty (maxLength : Nat) : PayloadWriter := ⟨maxLength, .empty, #[]⟩

def new? (maxLength : Nat) : Except SizeError PayloadWriter :=
  if maxLength < leastLength then .error (.payloadTooShort leastLength) else .ok (empty maxLength)

/-- Where the payload that is still open starts. -/
def lastCut (writer : PayloadWriter) : Nat := writer.cuts.back?.getD 0

/-- The length of the payload that is still open. -/
def openLength (writer : PayloadWriter) : Nat := writer.buffer.size - writer.lastCut

/-- Finishes the open payload, if there is anything in it. -/
def cut (writer : PayloadWriter) : PayloadWriter :=
  if writer.openLength = 0 then writer
  else { writer with cuts := writer.cuts.push writer.buffer.size }

/-- Adds a line, to a new payload if it does not fit into the open one. A line longer than a payload is
dropped. -/
def addLine (writer : PayloadWriter) (line : ByteArray) : WriteResult × PayloadWriter :=
  if writer.maxLength < line.size then (⟨0, 1⟩, writer)
  else
    let writer := if writer.maxLength < writer.openLength + line.size then writer.cut else writer
    (⟨1, 0⟩, { writer with buffer := writer.buffer ++ line })

def write {α : Type} [Number α] (writer : PayloadWriter) (point : Datapoint α) :
    WriteResult × PayloadWriter :=
  match point.line? with
  | some line => writer.addLine line.toUTF8
  | none => (⟨0, 1⟩, writer)

def writeAll {α : Type} [Number α] (writer : PayloadWriter) (points : List (Datapoint α)) :
    WriteResult × PayloadWriter :=
  points.foldl (fun (result, writer) point =>
    let (outcome, writer) := writer.write point
    (result.merge outcome, writer)) (⟨0, 0⟩, writer)

def takePayloads (writer : PayloadWriter) : Payloads × PayloadWriter :=
  (⟨writer.buffer, 0, writer.cut.cuts.toList⟩, empty writer.maxLength)

end PayloadWriter

namespace Payloads

def size (payloads : Payloads) : Nat := payloads.ends.length

/-- The next payload, and those after it. -/
def next? (payloads : Payloads) : Option (ByteArray × Payloads) :=
  match payloads.ends with
  | [] => none
  | stop :: ends => some (payloads.buffer.extract payloads.start stop, ⟨payloads.buffer, stop, ends⟩)

def slices (buffer : ByteArray) (start : Nat) : List Nat → List ByteArray
  | [] => []
  | stop :: ends => buffer.extract start stop :: slices buffer stop ends

def toList (payloads : Payloads) : List ByteArray :=
  slices payloads.buffer payloads.start payloads.ends

end Payloads

end MetricAggregation
