import Telemetry.Config.Basic
import Telemetry.Logging.Filter
import Telemetry.Warning

/-! What the program logs, and to whom it is written. -/
namespace Telemetry.Logging

/-- The target that a warning is logged under. -/
def warningTarget : Warning → String
  | .unsupportedValue .. => "otview_core::codec::attributes"
  | .unsignedAttribute .. => "otview_core::codec::attributes"
  | .untypedList .. => "otview_core::codec::attributes"
  | .emptyKey => "otview_core::codec::attributes"
  | .unsignedBody .. => "otview_core::codec::body"
  | .pointMismatch .. => "otview_core::model::metric"
  | .nonFiniteDouble .. => "otview_ingest::otlp::value"
  | .summaryMetric .. => "otview_ingest::otlp::decode"
  | .metricWithoutData .. => "otview_ingest::otlp::decode"
  | .requestFailed .. => "otview_api::handler"
  | .loadRolledBack .. => "otview_api::handler"
  | .rollbackFailed .. => "otview_api::handler"

/-- Something that is logged. -/
inductive Event
  | warning (w : Warning)
  | storeOpened
  | storeClosed
  | requestReceived

namespace Event

def target : Event → String
  | .warning w => warningTarget w
  | .storeOpened => "otview_store::db"
  | .storeClosed => "otview_store::db"
  | .requestReceived => "otview_api::handler"

def level : Event → Level
  | .warning _ => .warn
  | .storeOpened => .info
  | .storeClosed => .info
  | .requestReceived => .debug

/-- The field that holds the text of a line. -/
def messageField : String := "message"

/-- The names of what an event tells beside its text, which counts as a field as well. -/
def fields (event : Event) : List String :=
  messageField :: match event with
    | .warning w => w.fields.map (·.1)
    | .storeOpened => ["db_path", "flush_every", "reader_pool_size"]
    | .storeClosed => ["db_path"]
    | .requestReceived => ["method"]

end Event

/-- Who log lines are written for. -/
structure Subscriber where
  filter : Filter
  format : LogFormat
deriving DecidableEq

namespace Subscriber

/-- The subscriber of a configuration. A filter in the environment that can be read as a whole takes the
place of the configured one. -/
def ofConfig (config : Config) (environmentFilter : Option String) : Subscriber where
  filter := (environmentFilter.bind Filter.parse?).getD (Filter.ofText config.logFilter)
  format := config.logFormat

/-- Installs a subscriber unless there is one. Says whether it was installed. -/
def install (current : Option Subscriber) (subscriber : Subscriber) : Option Subscriber × Bool :=
  match current with
  | some installed => (some installed, false)
  | none => (some subscriber, true)

/-- The events of which a line is written. -/
def written (subscriber : Subscriber) (events : List Event) : List Event :=
  events.filter fun e => subscriber.filter.admits e.target e.level e.fields

end Subscriber
end Telemetry.Logging
