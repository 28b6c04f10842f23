import Telemetry.Digest
import Telemetry.Text.Hex

/-! Identifiers of records: digests of their identifying texts, and hexadecimal trace and span ids. -/
namespace Telemetry.Identity

/-- The text a content id is the digest of. -/
def contentText (parts : List String) : String := "|".intercalate parts

/-- The digest of the parts, which addresses a record. -/
def contentId (parts : List String) : String :=
  Text.hex (Digest.sha256 (contentText parts).toUTF8.toList)

/-- A trace or span id. Bytes that are all zero mean that there is none. -/
def hexId (bytes : List UInt8) : String :=
  if bytes.all (· == 0) then "" else Text.hex bytes

end Telemetry.Identity
