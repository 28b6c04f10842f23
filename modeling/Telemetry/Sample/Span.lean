import Telemetry.Sample.Origin

/-! The demo traces: a currency conversion alone, and a purchase of three spans that links to it. -/
namespace Telemetry.Sample

open Otlp

def conversionSpan : SpanMessage where
  traceID := conversionTraceID
  spanID := conversionSpanID
  parentSpanID := []
  traceState := ""
  name := "sample.CurrencyService/Convert"
  kind := 2
  startTime := moment 1675283136 179472007
  endTime := moment 1675283136 179498174
  attributes := [text "currency.conversion.from" "USD", text "currency.conversion.to" "CAD",
    text "rpc.system" "grpc"]
  events := [
    { time := moment 1675283136 179475132
      name := "Processing currency conversion request"
      attributes := [text "event.class" "sample"]
      droppedAttributesCount := 0 },
    { time := moment 1675283136 179479924
      name := "Conversion successful. Response sent back."
      attributes := [text "event.class" "sample", whole "event.priority" 1]
      droppedAttributesCount := 1 }]
  links := []
  status := some ⟨1, ""⟩
  droppedAttributesCount := 0
  droppedEventsCount := 0
  droppedLinksCount := 0

/-- A span of the purchase; start and end are nanoseconds within its second. -/
def purchaseSpan (spanID parentSpanID : List UInt8) (kind : Int32) (startTime endTime : UInt64) :
    SpanMessage where
  traceID := purchaseTraceID
  spanID := spanID
  parentSpanID := parentSpanID
  traceState := ""
  name := "SAMPLE HTTP POST"
  kind := kind
  startTime := moment 1675361874 startTime
  endTime := moment 1675361874 endTime
  attributes := requestAttributes
  events := []
  links := []
  status := some ⟨0, ""⟩
  droppedAttributesCount := 0
  droppedEventsCount := 0
  droppedLinksCount := 0

def purchaseRoot : SpanMessage := purchaseSpan purchaseRootID [] 3 803511676 817351051

def purchaseClient : SpanMessage :=
  { purchaseSpan purchaseClientID purchaseRootID 3 804417635 816959885 with
    links := [
      { traceID := conversionTraceID
        spanID := conversionSpanID
        traceState := ""
        attributes := [text "relationship" "in-cart currency conversion"]
        droppedAttributesCount := 5 }] }

def purchaseServer : SpanMessage :=
  { purchaseSpan purchaseServerID purchaseClientID 2 805039872 816274688 with
    attributes := [
      text "http.flavor" "1.1",
      text "http.host" "frontend:8080",
      text "http.method" "POST",
      whole "http.request_length" 102,
      whole "http.status_code" 200,
      text "http.status_text" "Ok",
      text "http.target" "/api/cart",
      text "http.url" "http://frontend:8080/api/cart",
      text "http.user_agent" "python-requests/2.27.1",
      text "net.host.ip" "::ffff:172.24.0.22",
      text "net.host.name" "frontend",
      whole "net.host.port" 8080,
      text "net.peer.ip" "::ffff:172.24.0.23",
      whole "net.peer.port" 46054,
      text "net.transport" "ip_tcp",
      ("array.example", .array [.double (Decimal.ofDecimal 11 1), .double (Decimal.ofDecimal 12 1),
        .double (Decimal.ofDecimal 13 1)])] }

def spans : List (ResourceItems SpanMessage) := [
  items currencyResource currencyScope [conversionSpan],
  ⟨some loadGeneratorResource, [⟨some requestsScope, [purchaseRoot]⟩, ⟨some urllibScope, [purchaseClient]⟩]⟩,
  items frontendResource httpScope [purchaseServer]]

end Telemetry.Sample
