import Telemetry.Json.Decoder
import Telemetry.Text.Blank
import Telemetry.Text.Integer

/-! Sixty-four bit integers in records. They are written as decimal text, which keeps them exact for
readers that know doubles only, and are read from text or from a JSON integer. -/
namespace Telemetry.Json

/-- A signed word as decimal text. -/
def ofInt64Text (n : Int64) : Json := .string (toString n.toInt)

/-- An unsigned word as decimal text. -/
def ofUInt64Text (n : UInt64) : Json := .string (toString n.toNat)

/-- The integer of a range, from a JSON integer or from text after trimming. -/
def decodeWord (low high : Int) (read : List Char → Except Text.IntegerFault Int) : Decoder Int
  | .number (.int n _) => if low ≤ n ∧ n ≤ high then .ok n else .error (.outOfRange n)
  | .string s =>
    match read (Text.trimChars s.toList) with
    | .ok n => .ok n
    | .error _ => .error (.invalidInteger s)
  | _ => .error .mismatch

/-- A signed word. -/
def decodeInt64Text : Decoder Int64 := fun v =>
  Int64.ofInt <$> decodeWord (-2 ^ 63) (2 ^ 63 - 1) Text.readInt64 v

/-- An unsigned word. -/
def decodeUInt64Text : Decoder UInt64 := fun v =>
  (UInt64.ofNat ·.toNat) <$> decodeWord 0 (2 ^ 64 - 1) Text.readUInt64 v

/-- A value that may stand for an integer: an integer or a text. -/
def isWordLike : Draft → Bool
  | .number (.int ..) => true
  | .string _ => true
  | _ => false

/-- A list of integers. Each item is checked to be an integer or a text before any is converted. -/
def decodeWords {α : Type} (item : Decoder α) : Decoder (List α)
  | .array items => if items.all isWordLike then decodeEach item items else .error .mismatch
  | _ => .error .mismatch

end Telemetry.Json
