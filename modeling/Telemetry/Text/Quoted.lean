import Telemetry.Text.GraphemeExtend
import Telemetry.Text.Hex
import Telemetry.Text.Ranges
import Telemetry.Text.Unprintable

/-! Quoted texts for messages, in which nothing is hidden from the reader. -/
namespace Telemetry.Text

/-- Whether a character cannot be seen on its own. -/
def isHidden (c : Char) : Bool :=
  c.toNat < 0x20 || c.toNat = 0x7f || inRanges unprintableBounds c || inRanges extendBounds c

/-- The form of a character between quotes. -/
def quoteChar (c : Char) : List Char :=
  match c with
  | '"' => ['\\', '"']
  | '\\' => ['\\', '\\']
  | '\n' => ['\\', 'n']
  | '\r' => ['\\', 'r']
  | '\t' => ['\\', 't']
  | '\x00' => ['\\', '0']
  | c => if isHidden c then ['\\', 'u', '\x7b'] ++ (hexNat c.toNat).toList ++ ['\x7d'] else [c]

/-- A text between quotes. Quotes and backslashes are escaped, and so are characters that cannot be seen on
their own. -/
def quoted (s : String) : String :=
  String.ofList ('"' :: (s.toList.flatMap quoteChar ++ ['"']))

end Telemetry.Text
