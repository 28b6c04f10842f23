import Telemetry.Logging.Level
import Telemetry.Logging.Pattern
import Telemetry.Text.Alphanumeric
import Telemetry.Text.Blank

/-! The directives of a log filter: a threshold for the lines of a target, of a span, or of a field. -/
namespace Telemetry.Logging

/-- A field that lines have to have, perhaps with a value. -/
structure FieldCondition where
  name : String
  hasValue : Bool
deriving DecidableEq, Repr

/-- A threshold and the lines it is for: all, or those of targets that begin with a text, within a span of a
name, with a field. -/
structure Directive where
  target : Option String
  span : Option String
  field : Option FieldCondition
  threshold : Threshold
deriving DecidableEq

namespace FieldCondition

/-- Whether a text is a double without its sign. -/
def isUnsignedFloat (cs : List Char) : Bool :=
  let name := String.ofList (cs.map Char.toLower)
  if name = "inf" ∨ name = "infinity" ∨ name = "nan" then true
  else
    let (whole, rest) := cs.span Char.isDigit
    let (fraction, rest) := match rest with
      | '.' :: rest => rest.span Char.isDigit
      | rest => ([], rest)
    !(whole ++ fraction).isEmpty && (match rest with
      | [] => true
      | e :: '+' :: exponent => isExponent e exponent
      | e :: '-' :: exponent => isExponent e exponent
      | e :: exponent => isExponent e exponent)
where
  isExponent (e : Char) (digits : List Char) : Bool :=
    (e = 'e' || e = 'E') && !digits.isEmpty && digits.all Char.isDigit

/-- Whether a text is a value: a number or a pattern. A number is a pattern as well, unless it has a plus
sign in front. -/
def isValue : List Char → Bool
  | '+' :: cs => isUnsignedFloat cs
  | cs => Pattern.isPattern cs

/-- A name, or a name and a value after an equals sign. What follows a second equals sign does not count. -/
def parse? (cs : List Char) : Option FieldCondition :=
  let (name, rest) := cs.span (· ≠ '=')
  if cs.isEmpty then none
  else
    match rest with
    | [] => some ⟨String.ofList name, false⟩
    | _ :: rest =>
      if isValue (rest.takeWhile (· ≠ '=')) then some ⟨String.ofList name, true⟩ else none

end FieldCondition

namespace Directive

/-- The size of characters in UTF-8. -/
def size : List Char → Nat
  | [] => 0
  | c :: cs => c.utf8Size + size cs

/-- The characters from a place on, counted in bytes of UTF-8. -/
def dropBytes : Nat → List Char → List Char
  | _, [] => []
  | place, c :: cs => if place = 0 then c :: cs else dropBytes (place - c.utf8Size) cs

/-- The characters before a place, counted in bytes of UTF-8. -/
def takeBytes : Nat → List Char → List Char
  | _, [] => []
  | place, c :: cs => if place = 0 then [] else c :: takeBytes (place - c.utf8Size) cs

/-- The characters between two places. -/
def cut (cs : List Char) (first last : Nat) : List Char := takeBytes (last - first) (dropBytes first cs)

/-- Whether a directive may begin with a character. -/
def isStart (c : Char) : Bool := Text.isAlphanumeric c || c == '-' || c == ':' || c == '_'

/-- The threshold a directive ends in; without one everything is let through. -/
def threshold? (cs : List Char) : Option Threshold :=
  if cs.isEmpty then some .all else Threshold.parse? cs

/-- A directive that is a level or a target. -/
def ofName (cs : List Char) : Directive :=
  match Threshold.parse? cs with
  | some threshold => ⟨none, none, none, threshold⟩
  | none => ⟨some (String.ofList cs), none, none, .all⟩

/-- What follows the closing bracket, at a place of the text: nothing, or an equals sign and a threshold. -/
def finish? (text : List Char) (directive : Directive) (place : Nat) : List Char → Option Directive
  | [] => some directive
  | '=' :: _ => do
    let threshold ← threshold? (dropBytes (place + 1) text)
    return { directive with threshold }
  | _ => none

/-- What follows an opening bracket, at a place of the text: the name of a span, or perhaps a name and a
field in braces. -/
def scope? (text : List Char) (target : Option String) (place : Nat) (rest : List Char) :
    Option Directive :=
  let (name, rest) := rest.span fun c => c ≠ ']' ∧ c ≠ '\x7b'
  let stop := place + size name
  let span := cut text place stop
  match rest with
  | ']' :: rest => finish? text ⟨target, some (String.ofList span), none, .all⟩ (stop + 1) rest
  | _ :: rest =>
    let (field, rest) := rest.span (· ≠ '\x7d')
    let close := stop + 1 + size field
    match rest with
    | _ :: ']' :: rest => do
      let field ← FieldCondition.parse? (cut text (stop + 1) close)
      let span := if span.isEmpty then none else some (String.ofList span)
      finish? text ⟨target, span, some field, .all⟩ (close + 2) rest
    | _ => none
  | [] => none

/-- Reads a directive. Its parts are found in the text without the blanks around it, but are cut at the
same places out of the text as it is given; so blanks in front displace them. -/
def parse? (text : List Char) : Option Directive :=
  match Text.trimChars text with
  | [] => none
  | '[' :: rest => scope? text none 1 rest
  | first :: others =>
    if !isStart first then none
    else
      let (name, rest) := (first :: others).span fun c => c ≠ '=' ∧ c ≠ '['
      let stop := size name
      let target := String.ofList (cut text 0 stop)
      match rest with
      | [] => some (ofName text)
      | '[' :: rest => scope? text (some target) (stop + 1) rest
      | _ => finish? text ⟨some target, none, none, .all⟩ stop rest

/-- Whether a directive is about a line with a target and fields. No line is within a span, and none has its
fields compared with values. -/
def concerns (d : Directive) (target : String) (fields : List String) : Bool :=
  d.span.isNone && d.target.all (·.toList.isPrefixOf target.toList) &&
    d.field.all fun f => !f.hasValue && fields.contains f.name

/-- How specific the target of a directive is: the longer the more, and no target the least. -/
def weight (d : Directive) : Nat :=
  match d.target with
  | none => 0
  | some start => start.utf8ByteSize + 1

/-- Whether a directive is less specific than another: in its target, else for want of a field, else by the
name of the field. -/
def isBelow (a b : Directive) : Bool :=
  a.weight < b.weight || (a.weight == b.weight && match a.field, b.field with
    | none, some _ => true
    | some f, some g => f.name < g.name
    | _, none => false)

end Directive
end Telemetry.Logging
