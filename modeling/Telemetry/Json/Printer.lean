import Telemetry.Json.Basic
import Telemetry.Text.Hex

/-! The compact text of a JSON value. -/
namespace Telemetry.Json

/-- Numbers are positional with leading digit exponents from -5 to 15, a whole double ends in `.0`, and
two equally near shortest decimals give the even one. -/
def numberLayout : Decimal.Layout := ⟨fun lead => -5 ≤ lead && lead ≤ 15, true, .toEven⟩

/-- The text of a number. -/
def Number.render : Number → List Char
  | .int n _ => (toString n).toList
  | .float x _ => numberLayout.finite x

/-- A quote, a backslash and the controls below a space are escaped, everything else stands for itself. -/
def escapeChar (c : Char) : List Char :=
  match c with
  | '"' => ['\\', '"']
  | '\\' => ['\\', '\\']
  | '\n' => ['\\', 'n']
  | '\r' => ['\\', 'r']
  | '\t' => ['\\', 't']
  | '\x08' => ['\\', 'b']
  | '\x0c' => ['\\', 'f']
  | c =>
    if c.toNat < 32 then
      ['\\', 'u', '0', '0', Text.hexDigit (c.toNat / 16), Text.hexDigit (c.toNat % 16)]
    else [c]

/-- The text of a string with its quotes. -/
def renderString (s : String) : List Char :=
  '"' :: (s.toList.flatMap escapeChar ++ ['"'])

mutual

/-- The text of a value, without blanks, members in the order they are kept. -/
def render : Json → List Char
  | .null => ['n', 'u', 'l', 'l']
  | .bool true => ['t', 'r', 'u', 'e']
  | .bool false => ['f', 'a', 'l', 's', 'e']
  | .number n => n.render
  | .string s => renderString s
  | .array [] => ['[', ']']
  | .array (v :: rest) => '[' :: (render v ++ renderItems rest)
  | .object [] => ['{', '}']
  | .object ((k, v) :: rest) => '{' :: (renderString k ++ ':' :: (render v ++ renderMembers rest))

/-- The items after the first and the closing bracket. -/
def renderItems : List Json → List Char
  | [] => [']']
  | v :: rest => ',' :: (render v ++ renderItems rest)

/-- The members after the first and the closing brace. -/
def renderMembers : List (String × Json) → List Char
  | [] => ['}']
  | (k, v) :: rest => ',' :: (renderString k ++ ':' :: (render v ++ renderMembers rest))

end

/-- The text of a value. -/
def text (v : Json) : String := String.ofList (render v)

end Telemetry.Json
