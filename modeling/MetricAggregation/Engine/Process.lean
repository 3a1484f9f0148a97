import MetricAggregation.Engine.State

/-!
How an engine takes in messages and direct updates. What it does not accept changes no metric; it is only
counted.
-/

namespace MetricAggregation.Engine

variable {α φ μ : Type} [Number α]

/-- Counts a value, on the counter of a key. -/
def updateCounter (engine : Engine α φ μ) (key : String) (value rate : α) : Engine α φ μ :=
  { engine with
    counters := engine.counters.upsert key fun old => (old.getD .zero).update value rate }

def newTimer (engine : Engine α φ μ) (key : String) : Timer α :=
  .new engine.settings.policy engine.wallClock (engine.chance.draws key)

/-- Takes in a duration, on the timer of a key. -/
def updateTimer (engine : Engine α φ μ) (key : String) (duration : α) : Engine α φ μ :=
  { engine with
    timers := engine.timers.upsert key fun old =>
      (old.getD (engine.newTimer key)).update duration engine.wallClock }

def pushGauge (engine : Engine α φ μ) (key : String) (value : α) : Engine α φ μ :=
  { engine with gauges := engine.gauges.push key value }

/-- Marks events, on the meter of a key. -/
def markMeter (engine : Engine α φ μ) (key : String) (events : α) : Engine α φ μ :=
  { engine with
    meters := engine.meters.upsert key fun old =>
      (old.getD (.new engine.wallClock)).mark events }

def putExtension (engine : Engine α φ μ) (tag key : String) (metric : μ) : Engine α φ μ :=
  { engine with
    extensions := engine.extensions.upsert tag fun old => (old.getD .empty).insert key metric }

/-- The sample rate of a counter, one unless it is given. -/
def sampleRate (extra : Option String) : Except MessageError α :=
  match extra with
  | some field => parseSampleRate field
  | none => .ok 1

variable [MetricFactory φ] [MetricPlugin φ μ α]

/-- The metric of a further type that a message is for: the one there is, or a new one if its type is
known. -/
def extensionFor (engine : Engine α φ μ) (tag key : String) : Except MessageError μ :=
  match engine.extension? tag key with
  | some metric => .ok metric
  | none =>
    match engine.plugins.find? tag with
    | some factory =>
      .ok (MetricPlugin.build factory (engine.settings.address (MetricFactory.name factory) key)
        engine.wallClock (engine.chance.boxes tag key))
    | none => .error (.unknownType tag)

/-- Takes a message to a metric of a further type. A new metric stays only if it accepts the message. -/
def applyExtension (engine : Engine α φ μ) (tag : String) (message : Message) :
    Timed (Except MessageError (Engine α φ μ)) :=
  match engine.extensionFor tag message.key with
  | .error error => ⟨.error error, 0⟩
  | .ok metric =>
    let outcome := MetricPlugin.process φ metric engine.wallClock message.fields
    ⟨outcome.value.map (engine.putExtension tag message.key), outcome.took⟩

def apply (engine : Engine α φ μ) (message : Message) : Timed (Except MessageError (Engine α φ μ)) :=
  let value := message.fields.value
  match message.kind with
  | .counter => ⟨do
      let value ← parseValue value
      let rate ← sampleRate message.fields.extra
      return engine.updateCounter message.key value rate, 0⟩
  | .timer => ⟨(parseValue value).map (engine.updateTimer message.key), 0⟩
  | .gauge => ⟨(parseSingleValue value).map (engine.pushGauge message.key), 0⟩
  | .meter => ⟨(parseSingleValue value).map (engine.markMeter message.key), 0⟩
  | .extension tag => engine.applyExtension tag message

def readMessage (bytes : List UInt8) : Except MessageError Message :=
  match String.fromUTF8? ⟨bytes.toArray⟩ with
  | some line => Message.parse line
  | none => .error .notUtf8

def discard (engine : Engine α φ μ) : Engine α φ μ := { engine with badLines := engine.badLines + 1 }

def process (engine : Engine α φ μ) (bytes : List UInt8) : Engine α φ μ :=
  match readMessage bytes with
  | .error _ => engine.discard
  | .ok message =>
    let outcome := engine.apply message
    let time := engine.stopwatch.timeOf outcome.took
    let after := match outcome.value with
      | .ok updated =>
        { updated with received := updated.received.record message.fields.tag time.nanoseconds }
      | .error _ => engine.discard
    { after with stopwatch := engine.stopwatch.advance outcome.took }

/-- Whether a byte is white space in ASCII. -/
def isBlankByte (byte : UInt8) : Bool :=
  byte = 0x20 || byte = 0x09 || byte = 0x0A || byte = 0x0C || byte = 0x0D

/-- The lines of a packet that are not blank. -/
def packetLines (packet : List UInt8) : List (List UInt8) :=
  (packet.splitOn 0x0A).filter fun line => !line.all isBlankByte

def processPacket (engine : Engine α φ μ) (packet : List UInt8) : Engine α φ μ :=
  (packetLines packet).foldl process engine

def directKey (key : String) (value : α) : Except MessageError String :=
  if Number.isFinite value then
    let key := Key.normalize key
    if key.isEmpty then .error .emptyKey else .ok key
  else .error (.invalidValue (Number.text value))

def increment (engine : Engine α φ μ) (key : String) (value : α) : Engine α φ μ :=
  match directKey key value with
  | .ok key => engine.updateCounter key value 1
  | .error _ => engine.discard

def recordTiming (engine : Engine α φ μ) (key : String) (duration : α) : Engine α φ μ :=
  match directKey key duration with
  | .ok key => engine.updateTimer key duration
  | .error _ => engine.discard

def tickMeters (engine : Engine α φ μ) : Engine α φ μ :=
  { engine with meters := engine.meters.map Meter.tick }

end MetricAggregation.Engine
