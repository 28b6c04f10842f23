/-! The tables of a TOML document: which sections and settings may stand beside each other. -/
namespace Telemetry.Toml

/-- A value. What is in a list or a table in braces does not matter to any setting, nor do the amount of a
float and the time of a moment. -/
inductive Value
  | string (s : String)
  | integer (n : Int)
  | bool (b : Bool)
  | float
  | moment
  | list
  | table
deriving DecidableEq

/-- How a table came to be. -/
inductive Origin
  /-- named by the header of a section -/
  | header
  /-- needed on the way to a section -/
  | implied
  /-- named before a dot in a setting -/
  | dotted
deriving DecidableEq

inductive Item
  | value (v : Value)
  | table (origin : Origin)
  /-- a list of tables, each under a header of its own; what is below it belongs to the last of them -/
  | tables
deriving DecidableEq

/-- The items of a document, each under the keys that lead to it. -/
abbrev Document := List (List String × Item)

namespace Document

/-- Makes the tables on the way to a section. -/
def reach? (items : Document) (path : List String) : List String → Option Document
  | [] => some items
  | key :: keys =>
    let path := path ++ [key]
    match items.lookup path with
    | none => reach? (items ++ [(path, .table .implied)]) path keys
    | some (.table _) => reach? items path keys
    | some .tables => reach? items path keys
    | some (.value _) => none

/-- Opens a section. A table has at most one header, and none if dots made it. -/
def openSection? (items : Document) (keys : List String) : Option Document := do
  let items ← reach? items [] keys.dropLast
  match items.lookup keys with
  | none => some (items ++ [(keys, .table .header)])
  | some (.table .implied) => some ((keys, .table .header) :: items)
  | _ => none

/-- Opens the next table of a list of tables. -/
def openElement? (items : Document) (keys : List String) : Option Document := do
  let items ← reach? items [] keys.dropLast
  match items.lookup keys with
  | none => some (items ++ [(keys, .tables)])
  | some .tables => some (items.filter fun item => item.1 = keys || !keys.isPrefixOf item.1)
  | _ => none

/-- Stores a value below the keys of a path. No key is set twice, and no setting leads into a table that has
its own header. `takes` says whether the table at the path takes values: the section itself does, and so
does a table that dots made, but not one they only pass. -/
def store? (items : Document) (path : List String) (takes : Bool) (value : Value) :
    List String → Option Document
  | [] => none
  | [key] =>
    let path := path ++ [key]
    if takes && (items.lookup path).isNone then some (items ++ [(path, .value value)]) else none
  | key :: keys =>
    let path := path ++ [key]
    match items.lookup path with
    | none => store? (items ++ [(path, .table .dotted)]) path true value keys
    | some (.table .dotted) => store? items path true value keys
    | some (.table .implied) => store? items path false value keys
    | some .tables => store? items path false value keys
    | some (.table .header) => none
    | some (.value _) => none

end Document
end Telemetry.Toml
