/-! The kinds of metric. -/
namespace Telemetry

/-- What the points of a metric are. -/
inductive MetricKind
  | empty
  | gauge
  | sum
  | histogram
  | exponentialHistogram
deriving DecidableEq, Repr, Inhabited

namespace MetricKind

/-- The name a kind is stored and shown under. -/
def name : MetricKind → String
  | .empty => "Empty"
  | .gauge => "Gauge"
  | .sum => "Sum"
  | .histogram => "Histogram"
  | .exponentialHistogram => "ExponentialHistogram"

/-- The kind with a name, if there is one. -/
def ofName? : String → Option MetricKind
  | "Empty" => some .empty
  | "Gauge" => some .gauge
  | "Sum" => some .sum
  | "Histogram" => some .histogram
  | "ExponentialHistogram" => some .exponentialHistogram
  | _ => none

/-- The kind with a name; an unknown name counts as empty. -/
def ofName (s : String) : MetricKind := (ofName? s).getD .empty

end MetricKind
end Telemetry
