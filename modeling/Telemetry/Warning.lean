import Telemetry.Json.Basic
import Telemetry.Metric.Kind
import Telemetry.Failure

/-! Warnings, and values that come with the warnings raised while computing them. -/
namespace Telemetry

/-- Why a list of values has no common type. -/
inductive ListFault
  | untypedFirst
  | overflow
  | mixed
deriving DecidableEq, Repr

/-- The wording of a list's fault. -/
def ListFault.reason : ListFault → String
  | .untypedFirst => "first element has no list type"
  | .overflow => "element overflows int64"
  | .mixed => "elements do not share one type"

/-- Something worth the operator's attention that did not stop the work. -/
inductive Warning
  | unsupportedValue (key : String) (kind : Json.Kind)
  | unsignedAttribute (key : String) (value : UInt64)
  | untypedList (key : String) (fault : ListFault) (length : Nat)
  | emptyKey
  | unsignedBody (value : UInt64)
  | nonFiniteDouble (value : Float)
  | summaryMetric (name : String)
  | metricWithoutData (name : String)
  | pointMismatch (expected got : MetricKind)
  | requestFailed (method : String) (code : Int) (failure : Failure)
  | loadRolledBack (failure : Failure) (removed : Nat)
  | rollbackFailed (failure cleanup : Failure)

namespace Warning

/-- The text of a warning. -/
def message : Warning → String
  | .unsupportedValue .. => "unsupported attribute value type, storing as string"
  | .unsignedAttribute .. => "unsigned attribute value overflows int64, storing as string"
  | .untypedList .. => "attribute list cannot be typed, storing elements as strings"
  | .emptyKey => "dropping attribute with empty key"
  | .unsignedBody .. => "unsigned log body overflows int64, storing as string"
  | .nonFiniteDouble .. => "non-finite double value, storing as string"
  | .summaryMetric .. => "summary metrics are deprecated, skipping metric"
  | .metricWithoutData .. => "metric has no data, skipping metric"
  | .pointMismatch .. => "metric data point type mismatch, skipping data point"
  | .requestFailed .. => "request failed"
  | .loadRolledBack .. => "sample load failed, rolled back"
  | .rollbackFailed .. => "sample load failed, rollback failed"

/-- What a warning is about, as named texts. -/
def fields : Warning → List (String × String)
  | .unsupportedValue key kind => [("attribute", key), ("kind", kind.name)]
  | .unsignedAttribute key value => [("attribute", key), ("value", toString value.toNat)]
  | .untypedList key fault length =>
    [("attribute", key), ("reason", fault.reason), ("len", toString length)]
  | .emptyKey => []
  | .unsignedBody value => [("value", toString value.toNat)]
  | .nonFiniteDouble value => [("value", Decimal.display value)]
  | .summaryMetric name => [("metric", name)]
  | .metricWithoutData name => [("metric", name)]
  | .pointMismatch expected got => [("expected", expected.name), ("got", got.name)]
  | .requestFailed method code failure =>
    [("method", method), ("code", toString code), ("error", failure.message)]
  | .loadRolledBack failure removed => [("error", failure.message), ("removed", toString removed)]
  | .rollbackFailed failure cleanup =>
    [("error", failure.message), ("cleanup_error", cleanup.message)]

end Warning

/-- A value and the warnings raised while computing it, oldest first. -/
structure Reported (α : Type) where
  value : α
  warnings : List Warning

namespace Reported

variable {α β : Type}

instance : Monad Reported where
  pure x := ⟨x, []⟩
  bind x f := ⟨(f x.value).value, x.warnings ++ (f x.value).warnings⟩

/-- Raises a warning. -/
def warn (w : Warning) : Reported Unit := ⟨(), [w]⟩

/-- Applies a reporting function to each item in turn. -/
def each (f : α → Reported β) : List α → Reported (List β)
  | [] => pure []
  | x :: xs => do
    let y ← f x
    let ys ← each f xs
    return y :: ys

@[simp] theorem value_pure (x : α) : (pure x : Reported α).value = x := rfl

@[simp] theorem warnings_pure (x : α) : (pure x : Reported α).warnings = [] := rfl

@[simp] theorem value_bind (x : Reported α) (f : α → Reported β) :
    (x >>= f).value = (f x.value).value := rfl

@[simp] theorem warnings_bind (x : Reported α) (f : α → Reported β) :
    (x >>= f).warnings = x.warnings ++ (f x.value).warnings := rfl

@[simp] theorem value_each (f : α → Reported β) (xs : List α) :
    (each f xs).value = xs.map fun x => (f x).value := by
  induction xs with
  | nil => rfl
  | cons x xs ih => simp [each, ih]

@[simp] theorem warnings_each (f : α → Reported β) (xs : List α) :
    (each f xs).warnings = xs.flatMap fun x => (f x).warnings := by
  induction xs with
  | nil => rfl
  | cons x xs ih => simp [each, ih]

end Reported
end Telemetry
