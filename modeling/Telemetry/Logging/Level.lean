import Telemetry.Text.Integer

/-! The severities of log lines and the thresholds that let them through. -/
namespace Telemetry.Logging

/-- The severity of a log line. -/
inductive Level
  | error | warn | info | debug | trace
deriving DecidableEq, Repr

namespace Level

def name : Level → String
  | .error => "ERROR"
  | .warn => "WARN"
  | .info => "INFO"
  | .debug => "DEBUG"
  | .trace => "TRACE"

/-- How much a level says; a threshold lets levels through that say at most as much. -/
def rank : Level → Nat
  | .error => 1
  | .warn => 2
  | .info => 3
  | .debug => 4
  | .trace => 5

end Level

/-- The levels let through: all up to one, or none. -/
abbrev Threshold := Option Level

namespace Threshold

/-- The threshold that lets everything through. -/
def all : Threshold := some .trace

def admits (threshold : Threshold) (level : Level) : Bool :=
  match threshold with
  | none => false
  | some most => level.rank ≤ most.rank

/-- The threshold with a number. -/
def ofNumber? : Int → Option Threshold
  | 0 => some none
  | 1 => some (some .error)
  | 2 => some (some .warn)
  | 3 => some (some .info)
  | 4 => some (some .debug)
  | 5 => some (some .trace)
  | _ => none

/-- The threshold with a name in lower case. -/
def ofName? : String → Option Threshold
  | "off" => some none
  | "error" => some (some .error)
  | "warn" => some (some .warn)
  | "info" => some (some .info)
  | "debug" => some (some .debug)
  | "trace" => some (some .trace)
  | _ => none

/-- The threshold a text stands for: a number, or a name in letters of either case. -/
def parse? (cs : List Char) : Option Threshold :=
  match Text.readUInt64 cs with
  | .ok n => ofNumber? n
  | .error _ => ofName? (String.ofList (cs.map Char.toLower))

end Threshold
end Telemetry.Logging
