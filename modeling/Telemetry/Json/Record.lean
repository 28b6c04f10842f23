import Telemetry.Json.Decoder

/-! Reading records. A record is an object, or a list of the values of its fields in the order in which they
are declared. All fields are looked at, and the fault that is met first is the fault of the record; a field
that is missing is noticed after everything that is there. -/
namespace Telemetry.Json

namespace Record

/-- What a record is read from. In the positional form each value has the name of its field. -/
structure Entries where
  members : List (Option String × Draft)
  isPositional : Bool

/-- A fault and where it was met. -/
structure Fault where
  place : Nat
  error : DecodeError
deriving DecidableEq, Repr

/-- The values under a key with their places. -/
def Entries.find (entries : Entries) (key : String) : List (Nat × Draft) :=
  entries.members.zipIdx.filterMap fun (m, place) =>
    if m.1 = some key then some (place, m.2) else none

/-- Of two results the fault that was met first, or both values. -/
def both {α β : Type} : Except Fault α → Except Fault β → Except Fault (α × β)
  | .ok x, .ok y => .ok (x, y)
  | .error e, .ok _ => .error e
  | .ok _, .error e => .error e
  | .error e, .error f => .error (if f.place < e.place then f else e)

end Record

/-- A reader of records, by the names of its fields in their order. -/
structure Record (α : Type) where
  fields : List String
  read : Record.Entries → Except Record.Fault α

namespace Record

variable {α β : Type}

instance : Applicative Record where
  pure x := ⟨[], fun _ => .ok x⟩
  seq f x := ⟨f.fields ++ (x ()).fields, fun entries =>
    (fun p => p.1 p.2) <$> both (f.read entries) ((x ()).read entries)⟩

/-- Reads a field. `absent` says what stands for it where it is missing. -/
def fieldOr (key : String) (absent : Entries → Option α) (item : Decoder α) : Record α where
  fields := [key]
  read entries :=
    match entries.find key with
    | [] =>
      match absent entries with
      | some x => .ok x
      | none => .error ⟨entries.members.length, .mismatch⟩
    | (place, v) :: again =>
      match item v, again with
      | .error e, _ => .error ⟨place, e⟩
      | .ok x, [] => .ok x
      | .ok _, (place, _) :: _ => .error ⟨place, .mismatch⟩

/-- A field that has to be there. -/
def field (key : String) (item : Decoder α) : Record α := fieldOr key (fun _ => none) item

/-- A field that may be null, and be missing from an object. -/
def optional (key : String) (item : Decoder α) : Record (Option α) :=
  fieldOr key (fun entries => if entries.isPositional then none else some none) (decodeOption item)

/-- A field that may be null, and be missing in both forms. -/
def omittable (key : String) (item : Decoder α) : Record (Option α) :=
  fieldOr key (fun _ => some none) (decodeOption item)

/-- The fault of the first key that cannot be read. -/
def readableKeys (members : List (Option String × Draft)) : Except Fault Unit :=
  match members.findIdx? (·.1.isNone) with
  | some place => .error ⟨place, .mismatch⟩
  | none => .ok ()

/-- Reads a record. Values beyond the last field are noticed last. -/
def decode (r : Record α) : Decoder α
  | .object _ members =>
    match both (readableKeys members) (r.read ⟨members, false⟩) with
    | .ok (_, x) => .ok x
    | .error e => .error e.error
  | .array items =>
    match r.read ⟨(r.fields.map some).zip items, true⟩ with
    | .ok x => if items.length ≤ r.fields.length then .ok x else .error .mismatch
    | .error e => .error e.error
  | _ => .error .mismatch

end Record
end Telemetry.Json
