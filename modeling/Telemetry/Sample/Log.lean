import Telemetry.Sample.Origin

/-! The demo logs: one for each demo trace, and one that belongs to no trace. -/
namespace Telemetry.Sample

open Otlp

def conversionLog : LogMessage where
  time := moment 1675283136 179472007
  observedTime := moment 1675283136 179498174
  severityNumber := 17
  severityText := "ERROR"
  body := .string "Currency conversion failed: invalid amount"
  attributes := [text "currency.from" "USD", text "currency.to" "CAD",
    ("currency.amount", .double (Decimal.ofDecimal 1005 1))]
  droppedAttributesCount := 0
  flags := 1
  traceID := conversionTraceID
  spanID := conversionSpanID
  eventName := "currency.conversion.failed"

def requestLog : LogMessage where
  time := moment 1675361874 803511676
  observedTime := moment 1675361874 817351051
  severityNumber := 9
  severityText := "INFO"
  body := .string "HTTP request completed"
  attributes := requestAttributes
  droppedAttributesCount := 0
  flags := 0
  traceID := purchaseTraceID
  spanID := purchaseRootID
  eventName := "http.request.completed"

def memoryLog : LogMessage where
  time := moment 1675419330 0
  observedTime := moment 1675419330 100000
  severityNumber := 13
  severityText := "WARN"
  body := .string "High memory usage detected"
  attributes := [("system.memory.used", .double (Decimal.ofDecimal 855 1)),
    ("system.memory.total", .double (Decimal.ofDecimal 100 0)), text "system.component" "cache"]
  droppedAttributesCount := 0
  flags := 0
  traceID := []
  spanID := []
  eventName := "system.memory.high"

def logs : List (ResourceItems LogMessage) := [
  items currencyResource currencyScope [conversionLog],
  items loadGeneratorResource requestsScope [requestLog],
  items frontendResource httpScope [memoryLog]]

end Telemetry.Sample
