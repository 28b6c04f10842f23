import Telemetry.Sample.Origin

/-! The demo metrics: at least one of each kind. -/
namespace Telemetry.Sample

open Otlp

/-- The moment of the first points, and moments some seconds later. -/
def tick (seconds : UInt64) : UInt64 := moment (1675283136 + seconds) 179472007

/-- An exemplar with one attribute. Its trace id is sixteen consecutive bytes, its span id eight bytes seventeen
apart. -/
def exemplar (time : UInt64) (value : Float) (traceSeed spanSeed : UInt8) (key tag : String) :
    ExemplarMessage where
  attributes := [text key tag]
  time := time
  value := .double value
  traceID := (List.range 16).map fun i => traceSeed + UInt8.ofNat i
  spanID := (List.range 8).map fun i => spanSeed + UInt8.ofNat i * 17

def number (time : UInt64) (value : Float) (attributes : KeyValues) (exemplars : List ExemplarMessage) :
    NumberPointMessage where
  attributes := attributes
  startTime := 0
  time := time
  flags := 0
  value := .double value
  exemplars := exemplars

def gauge (name description unit : String) (points : List NumberPointMessage) : MetricMessage :=
  ⟨name, description, unit, .gauge points⟩

/-- A monotonic sum of totals since the start. -/
def sum (name description unit : String) (points : List NumberPointMessage) : MetricMessage :=
  ⟨name, description, unit, .sum points 2 true⟩

/-- A histogram of changes. -/
def histogram (name description unit : String) (points : List HistogramPointMessage) : MetricMessage :=
  ⟨name, description, unit, .histogram points 1⟩

/-- An exponential histogram of changes. -/
def exponentialHistogram (name description unit : String) (points : List ExponentialPointMessage) :
    MetricMessage :=
  ⟨name, description, unit, .exponentialHistogram points 1⟩

def histogramPoint (time : UInt64) (attributes : KeyValues) (count : UInt64) (sum min max : Float)
    (bucketCounts : List UInt64) (explicitBounds : List Float) (exemplars : List ExemplarMessage) :
    HistogramPointMessage where
  attributes := attributes
  startTime := 0
  time := time
  flags := 0
  exemplars := exemplars
  count := count
  sum := some sum
  min := some min
  max := some max
  bucketCounts := bucketCounts
  explicitBounds := explicitBounds

def exponentialPoint (time : UInt64) (attributes : KeyValues) (count : UInt64) (sum min max : Float)
    (scale : Int32) (zeroCount : UInt64) (positive negative : BucketsMessage)
    (exemplars : List ExemplarMessage) : ExponentialPointMessage where
  attributes := attributes
  startTime := 0
  time := time
  flags := 0
  exemplars := exemplars
  count := count
  sum := some sum
  min := some min
  max := some max
  scale := scale
  zeroCount := zeroCount
  zeroThreshold := Decimal.ofInt 0
  positive := some positive
  negative := some negative

open Decimal (ofDecimal)

def memoryUsage : MetricMessage :=
  gauge "memory.usage" "Current memory usage across different instances" "bytes" [
    number (tick 0) (ofDecimal 10245 1) (place "heap" "currencyservice-1" "currency-pod-1")
      [exemplar (tick 0) (ofDecimal 10245 1) 0x01 0xa1 "operation" "gc_collection"],
    number (tick 5) (ofDecimal 5123 1) (place "non_heap" "currencyservice-1" "currency-pod-1") [],
    number (tick 10) (ofDecimal 20487 1) (place "heap" "currencyservice-2" "currency-pod-2") []]
where
  place (memory replica host : String) : KeyValues :=
    [text "memory.type" memory, text "service.instance" replica, text "host.name" host]

def requestsTotal : MetricMessage :=
  sum "requests.total" "Total requests processed by endpoint" "requests" [
    number (tick 0) (ofDecimal 1500 0) (route "POST" 200 "/convert" "currencyservice-1")
      [exemplar (tick 0) (ofDecimal 1500 0) 0x11 0xb1 "user.id" "user123"],
    number (tick 5) (ofDecimal 850 0) (route "GET" 200 "/supported-currencies" "currencyservice-1") [],
    number (tick 10) (ofDecimal 25 0) (route "POST" 400 "/convert" "currencyservice-2") []]
where
  route (method : String) (code : Int64) (path replica : String) : KeyValues :=
    [text "http.method" method, whole "http.status_code" code, text "http.route" path,
      text "service.instance" replica]

def requestDuration : MetricMessage :=
  histogram "request.duration" "Request duration distribution across different endpoints" "seconds" [
    histogramPoint (tick 0) [text "http.method" "GET", text "http.route" "/api/convert"]
      100 (ofDecimal 255 1) (ofDecimal 1 1) (ofDecimal 25 1) [10, 20, 30, 25, 15]
      [ofDecimal 5 1, ofDecimal 1 0, ofDecimal 15 1, ofDecimal 2 0]
      [exemplar (tick 0) (ofDecimal 185 2) 0x21 0xc1 "slow_query" "complex_conversion",
        exemplar (tick 2) (ofDecimal 15 2) 0x31 0xd1 "cache_hit" "true"],
    histogramPoint (tick 5) [text "http.method" "GET", text "http.route" "/api/supported-currencies"]
      50 (ofDecimal 75 1) (ofDecimal 5 2) (ofDecimal 8 1) [15, 20, 10, 5, 0]
      [ofDecimal 1 1, ofDecimal 25 2, ofDecimal 5 1, ofDecimal 75 2] []]

def responseSize : MetricMessage :=
  exponentialHistogram "response.size" "Response size distribution for different content types" "bytes" [
    exponentialPoint (tick 0) [text "content.type" "application/json"]
      50 (ofDecimal 10240 0) (ofDecimal 100 0) (ofDecimal 2048 0) 2 5 ⟨1, [5, 10, 15, 10, 5]⟩ ⟨0, [2, 3]⟩
      [exemplar (tick 0) (ofDecimal 1856 0) 0x41 0xe1 "large_response" "currency_list"],
    exponentialPoint (tick 10) [text "content.type" "application/xml"]
      25 (ofDecimal 15360 0) (ofDecimal 200 0) (ofDecimal 4096 0) 2 2 ⟨2, [3, 8, 7, 5, 2]⟩ ⟨1, [1, 1]⟩ []]

def pageLoad : MetricMessage :=
  histogram "page.load.duration" "Page load time distribution by page type" "milliseconds" [
    histogramPoint (tick 0) [text "page.type" "home", text "browser" "chrome"]
      200 (ofDecimal 4800 0) (ofDecimal 120 0) (ofDecimal 850 0) [25, 60, 80, 30, 5]
      [ofDecimal 200 0, ofDecimal 400 0, ofDecimal 600 0, ofDecimal 800 0]
      [exemplar (tick 0) (ofDecimal 825 0) 0x51 0xf1 "slow_component" "product_recommendations"]]

def errorsTotal : MetricMessage :=
  sum "frontend.errors.total" "Frontend error count by error type" "errors" [
    number (tick 0) (ofDecimal 15 0) [text "error.type" "javascript"] [],
    number (tick 5) (ofDecimal 8 0) [text "error.type" "network"] []]

def activeUsers : MetricMessage :=
  gauge "frontend.active_users" "Current active users by session type" "users" [
    number (tick 0) (ofDecimal 1250 0) [text "session.type" "authenticated"] [],
    number (tick 5) (ofDecimal 3480 0) [text "session.type" "anonymous"] []]

def paymentDuration : MetricMessage :=
  histogram "payment.processing.duration" "Payment processing time by payment method" "milliseconds" [
    histogramPoint (tick 0) [text "payment.method" "credit_card", text "payment.provider" "stripe"]
      85 (ofDecimal 12750 0) (ofDecimal 80 0) (ofDecimal 450 0) [15, 35, 25, 8, 2]
      [ofDecimal 100 0, ofDecimal 200 0, ofDecimal 300 0, ofDecimal 400 0]
      [exemplar (tick 0) (ofDecimal 425 0) 0x61 0x01 "payment.status" "retry_required"]]

def transactionAmount : MetricMessage :=
  exponentialHistogram "payment.transaction.amount" "Transaction amount distribution by currency"
    "currency_units" [
    exponentialPoint (tick 0) [text "currency" "USD"]
      120 (ofDecimal 245805 1) (ofDecimal 599 2) (ofDecimal 129999 2) 1 0 ⟨3, [20, 35, 40, 20, 5]⟩ ⟨0, [0]⟩
      [exemplar (tick 0) (ofDecimal 129999 2) 0x71 0x11 "transaction.type" "high_value"]]

def metrics : List (ResourceItems MetricMessage) := [
  items currencyResource currencyScope [memoryUsage, requestsTotal, requestDuration, responseSize],
  items (shopResource "frontend" "1.2.3" "frontend-7d4b9c8f6d-xyz123") (plainScope "frontend/http" "1.0.0")
    [pageLoad, errorsTotal, activeUsers],
  items (shopResource "paymentservice" "2.1.0" "payment-5c7a8b9e2f-abc456")
    (plainScope "paymentservice/grpc" "1.1.0") [paymentDuration, transactionAmount]]

end Telemetry.Sample
