import Telemetry.Config.Load
import Telemetry.Fixture
import Telemetry.Json.Fault
import Telemetry.Logging.Event
import Telemetry.Proofs.Sample.Loading
import Telemetry.Proofs.Store.Addressing
import Telemetry.Proofs.Store.TraceList
import Telemetry.Proofs.Waterfall.Contract
import Telemetry.Proofs.Waterfall.Reordering
import Telemetry.Proofs.Encoding.Typing
import Telemetry.Proofs.Encoding.Idempotence
import Telemetry.Proofs.Ingest.Records
import Telemetry.Proofs.Ingest.Traces
import Telemetry.Proofs.Json.Distinct
import Telemetry.Proofs.Storage.Form
import Telemetry.Proofs.Store.Masking
import Telemetry.Proofs.Store.Lifecycle
import Telemetry.Proofs.Service.Dispatch
import Telemetry.Proofs.Service.Reachable
import Telemetry.Proofs.Service.Refusal
import Telemetry.Proofs.Service.Listing
import Telemetry.Proofs.Json.Part
import Telemetry.Proofs.Metric.Series
import Telemetry.Proofs.Waterfall.Recursion
import Telemetry.Proofs.Decimal.Value
import Telemetry.Proofs.Encoding.Exactness
import Telemetry.Proofs.Sample.Cycle
import Telemetry.Proofs.Service.Payload
import Telemetry.Proofs.Service.Wire
import Telemetry.Proofs.Service.Logs
import Telemetry.Proofs.Encoding.Body
import Telemetry.Proofs.Ingest.Metrics
import Telemetry.Proofs.Json.Word
import Telemetry.Proofs.Config.Layer
import Telemetry.Proofs.Config.Loading
import Telemetry.Proofs.Identity.Content
import Telemetry.Proofs.Store.Appending
import Telemetry.Proofs.Ingest.Links
