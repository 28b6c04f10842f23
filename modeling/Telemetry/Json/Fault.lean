import Telemetry.Json.Decoder
import Telemetry.Text.Quoted

/-! The wording of faults in values. -/
namespace Telemetry.Json

/-- The text shown for a fault; faults of form have none of their own. -/
def DecodeError.message? : DecodeError → Option String
  | .mismatch => none
  | .outOfRange n => some (toString n ++ " out of range")
  | .invalidInteger text => some ("invalid integer string: " ++ Text.quoted text)
  | .invalidBase64 => some "invalid base64"

end Telemetry.Json
