import Telemetry.Otlp.Message
import Telemetry.Resource
import Telemetry.Text.Hex

/-! Where the demo telemetry comes from. Every resource carries the mark of demo data, by which its rows are
found and removed again. -/
namespace Telemetry.Sample

open Otlp

def text (key value : String) : String × AnyValue := (key, .string value)

def whole (key : String) (value : Int64) : String × AnyValue := (key, .int value)

/-- Nanoseconds since 1970, from whole seconds and the rest. -/
def moment (seconds nanoseconds : UInt64) : UInt64 := seconds * 1000000000 + nanoseconds

/-- The bytes of an id. -/
def idBytes (id : String) : List UInt8 := (Text.unhex id).getD []

def conversionTraceID : List UInt8 := idBytes "7979cec4d1c04222fa9a3c7c97c0a99c"

def conversionSpanID : List UInt8 := idBytes "2c1ae93af4d3f887"

def purchaseTraceID : List UInt8 := idBytes "42957c7c2fca940a0d32a0cdd38c06a4"

def purchaseRootID : List UInt8 := idBytes "37fd1349bf83d330"

def purchaseClientID : List UInt8 := idBytes "a24ac1588d52a6fc"

def purchaseServerID : List UInt8 := idBytes "355dc9bea1ec64d8"

/-- A resource that is marked as demo data. -/
def resource (attributes : KeyValues) : ResourceMessage :=
  ⟨attributes ++ [(sampleKey, .bool true)], 0⟩

def sdk (language version : String) : KeyValues :=
  [text "telemetry.sdk.language" language, text "telemetry.sdk.name" "opentelemetry",
    text "telemetry.sdk.version" version]

def currencyResource : ResourceMessage :=
  resource ([text serviceNameKey "sample.currencyservice"] ++ sdk "cpp" "1.5.0" ++
    [("array.example", .array [.string "example1", .string "example2", .string "example3"])])

def loadGeneratorResource : ResourceMessage :=
  resource ([text serviceNameKey "sample-loadgenerator"] ++ sdk "python" "1.9.1")

def frontendResource : ResourceMessage :=
  resource ([text serviceNameKey "sample-frontend",
    text "process.command" "/app/server.js",
    text "process.command_line" "/usr/local/bin/node /app/server.js",
    text "process.executable.name" "node",
    whole "process.pid" 17,
    text "process.runtime.description" "Node.js",
    text "process.runtime.name" "nodejs",
    text "process.runtime.version" "18.12.1"] ++ sdk "nodejs" "1.7.0")

def shopResource (service version replica : String) : ResourceMessage :=
  resource [text serviceNameKey service,
    text "service.namespace" "shop",
    text "service.version" version,
    text "service.instance.id" replica,
    text "k8s.pod.name" replica,
    text "host.arch" "amd64",
    text "os.type" "linux"]

def currencyScope : ScopeMessage where
  name := "sample.currencyservice"
  version := "v1.2.3"
  attributes := [text "owner.name" "Mila Ardath", text "owner.contact" "github.com/CtrlSpice"]
  droppedAttributesCount := 2

/-- A scope without attributes. -/
def plainScope (name version : String) : ScopeMessage := ⟨name, version, [], 0⟩

def requestsScope : ScopeMessage :=
  plainScope "sample.opentelemetry.instrumentation.requests" "0.28b1"

def urllibScope : ScopeMessage :=
  plainScope "sample.opentelemetry.instrumentation.urllib3" "0.28b1"

def httpScope : ScopeMessage :=
  plainScope "sample.@opentelemetry/instrumentation-http" "0.32.0"

/-- The items of a resource in one scope. -/
def items {α : Type} (resource : ResourceMessage) (scope : ScopeMessage) (items : List α) : ResourceItems α :=
  ⟨some resource, [⟨some scope, items⟩]⟩

def requestAttributes : KeyValues :=
  [text "http.method" "POST", whole "http.status_code" 200,
    text "http.url" "http://frontend:8080/api/cart"]

end Telemetry.Sample
