import MetricAggregation.Plugin.Standard
import MetricAggregation.Scheduler

/-!
How an engine and its scheduler are set up.
-/

namespace MetricAggregation

/-- Why something cannot be set up. -/
inductive SetupError where
  | plugin (error : ConfigError)
  | invalidPercent (percent : Nat)
  | invalidFlushInterval
  | payloadTooShort (length least : Nat)
deriving DecidableEq, Repr

def SetupError.message : SetupError → String
  | plugin error => "failed to set up plugins: " ++ error.message
  | invalidPercent percent =>
    "percentile threshold must be between 1 and 100, got " ++ toString percent
  | invalidFlushInterval => "flush interval must be greater than zero"
  | payloadTooShort length least =>
    "maximum payload length must be " ++ toString least ++ " or greater, got " ++ toString length

/-- What an engine and its scheduler are set up with. The factories are in the order in which they are
registered. -/
structure Setup (φ : Type) where
  settings : Settings := .default
  plugins : List φ
  options : Options := .empty
  flushInterval : Duration := .ofSeconds 10
  percent : Nat := 90
  maxPayloadLength : Nat := 8192

namespace Setup

variable {α φ μ : Type} [MetricFactory φ]

/-- Registers the factories, and configures them when all are there. -/
def registry (setup : Setup φ) : Except ConfigError (Registry φ) := do
  let registry ← setup.plugins.foldlM Registry.register .empty
  registry.configure setup.options

def engine (setup : Setup φ) (chance : Chance α) (now : α) : Except SetupError (Engine α φ μ) :=
  match setup.registry with
  | .ok registry => .ok (.new setup.settings chance registry now)
  | .error error => .error (.plugin error)

/-- The interval at which meters are ticked. Their averages are defined by it, so it is not chosen. -/
def tickInterval : Duration := .ofSeconds MovingAverage.tickSeconds

/-- Sets up an engine at a time, and a scheduler for it that starts at an instant. -/
def scheduler (setup : Setup φ) (chance : Chance α) (now : α) (start : Nat) :
    Except SetupError (Scheduler α φ μ) := do
  if setup.flushInterval.nanoseconds = 0 then throw .invalidFlushInterval
  if setup.percent = 0 || 100 < setup.percent then throw (.invalidPercent setup.percent)
  if setup.maxPayloadLength < PayloadWriter.leastLength then
    throw (.payloadTooShort setup.maxPayloadLength PayloadWriter.leastLength)
  let engine ← setup.engine chance now
  return .new engine (.empty setup.maxPayloadLength) setup.flushInterval tickInterval setup.percent
    start

end Setup

end MetricAggregation
