import Telemetry.Json.Decoder

/-! Variants that are written as an object with two members, one for the name of the variant and one for its
value. -/
namespace Telemetry.Json

/-- Reads a variant by its name and its value, if it has one. Other members do not count. A value that
comes before the name is put aside; so all of it has to be readable. A list of two items is read as name
and value. -/
def decodeTagged {α : Type} (tag content : String) (read : String → Option Draft → Except DecodeError α) :
    Decoder α
  | .object _ members =>
    match members.filter fun m => m.1.all fun key => key == tag || key == content with
    | (some key, v) :: rest =>
      if key = tag then do
        let name ← decodeUnitVariant v
        match rest with
        | [] => read name none
        | (some key, v) :: rest =>
          if key = content then do
            let x ← read name (some v)
            if rest.isEmpty then return x else .error .mismatch
          else .error .mismatch
        | _ => .error .mismatch
      else
        match v.toJson?, rest with
        | some value, (some key, v) :: rest =>
          if key = tag then do
            let name ← decodeUnitVariant v
            let x ← read name (some (value.draft .buffered))
            if rest.isEmpty then return x else .error .mismatch
          else .error .mismatch
        | _, _ => .error .mismatch
    | _ => .error .mismatch
  | .array (name :: rest) => do
    let name ← decodeString name
    match rest with
    | [] => .error .mismatch
    | v :: rest =>
      let x ← read name (some v)
      if rest.isEmpty then return x else .error .mismatch
  | _ => .error .mismatch

/-- A variant without a value; null may stand in its place. -/
def decodeNothing {α : Type} (variant : α) : Option Draft → Except DecodeError α
  | none => .ok variant
  | some .null => .ok variant
  | _ => .error .mismatch

/-- The value of a variant that has one. -/
def decodeContent {α : Type} (item : Decoder α) : Option Draft → Except DecodeError α
  | some v => item v
  | none => .error .mismatch

end Telemetry.Json
