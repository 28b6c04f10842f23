import Telemetry.Json.Basic

/-! Values as their reader meets them. What a reader passes over only has to have the form of JSON, so a
draft keeps the parts that no reader accepts and marks them. -/
namespace Telemetry.Json

/-- How the members of an object reach their reader. -/
inductive Delivery
  /-- one by one, so that their end is met after the last -/
  | stream
  /-- together, so that their number is known before the first is read -/
  | whole
  /-- together, put aside until the type of the value is known -/
  | buffered
deriving DecidableEq, Repr

/-- A value before it is read. A key is missing where the text has none that can be read. -/
inductive Draft
  | null
  | bool (b : Bool)
  | number (n : Number)
  | string (s : String)
  | array (items : List Draft)
  | object (delivery : Delivery) (members : List (Option String × Draft))
  /-- what no reader accepts: the place where the text ends too early or loses its form, a number beyond
  the doubles, a string with half of a surrogate pair, or a list or object nested too deep -/
  | broken

mutual

/-- A value as a draft. -/
def draft (delivery : Delivery) : Json → Draft
  | .null => .null
  | .bool b => .bool b
  | .number n => .number n
  | .string s => .string s
  | .array items => .array (draftItems delivery items)
  | .object members => .object delivery (draftMembers delivery members)

def draftItems (delivery : Delivery) : List Json → List Draft
  | [] => []
  | v :: rest => draft delivery v :: draftItems delivery rest

def draftMembers (delivery : Delivery) : List (String × Json) → List (Option String × Draft)
  | [] => []
  | (k, v) :: rest => (some k, draft delivery v) :: draftMembers delivery rest

end

namespace Draft

mutual

/-- The value of a draft that is broken nowhere. -/
def toJson? : Draft → Option Json
  | .null => some .null
  | .bool b => some (.bool b)
  | .number n => some (.number n)
  | .string s => some (.string s)
  | .array items => (itemsToJson? items).map .array
  | .object _ members => (membersToJson? members).map .object
  | .broken => none

def itemsToJson? : List Draft → Option (List Json)
  | [] => some []
  | v :: rest => do
    let v ← toJson? v
    let rest ← itemsToJson? rest
    return v :: rest

def membersToJson? : List (Option String × Draft) → Option (List (String × Json))
  | [] => some []
  | (k, v) :: rest => do
    let k ← k
    let v ← toJson? v
    let rest ← membersToJson? rest
    return (k, v) :: rest

end

mutual

/-- The draft of a value is broken nowhere, however it is delivered. -/
@[simp] theorem toJson?_draft (delivery : Delivery) : ∀ v : Json, (v.draft delivery).toJson? = some v
  | .null => rfl
  | .bool _ => rfl
  | .number _ => rfl
  | .string _ => rfl
  | .array items => by simp [draft, toJson?, itemsToJson?_draft delivery items]
  | .object members => by simp [draft, toJson?, membersToJson?_draft delivery members]

@[simp] theorem itemsToJson?_draft (delivery : Delivery) :
    ∀ items : List Json, itemsToJson? (draftItems delivery items) = some items
  | [] => rfl
  | v :: rest => by simp [draftItems, itemsToJson?, toJson?_draft delivery v, itemsToJson?_draft delivery rest]

@[simp] theorem membersToJson?_draft (delivery : Delivery) :
    ∀ members : List (String × Json), membersToJson? (draftMembers delivery members) = some members
  | [] => rfl
  | (k, v) :: rest => by
    simp [draftMembers, membersToJson?, toJson?_draft delivery v, membersToJson?_draft delivery rest]

end

mutual

/-- Marks the lists and objects that nest deeper than given. -/
def limit (depth : Nat) : Draft → Draft
  | .array items =>
    match depth with
    | 0 => .broken
    | depth + 1 => .array (limitItems depth items)
  | .object delivery members =>
    match depth with
    | 0 => .broken
    | depth + 1 => .object delivery (limitMembers depth members)
  | v => v

def limitItems (depth : Nat) : List Draft → List Draft
  | [] => []
  | v :: rest => limit depth v :: limitItems depth rest

def limitMembers (depth : Nat) : List (Option String × Draft) → List (Option String × Draft)
  | [] => []
  | (k, v) :: rest => (k, limit depth v) :: limitMembers depth rest

end

end Draft
end Telemetry.Json
