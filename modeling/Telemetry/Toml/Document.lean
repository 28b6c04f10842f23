import Telemetry.Toml.Value

/-! TOML documents: settings, sections and lists of tables. -/
namespace Telemetry.Toml

/-- What a document consists of. -/
inductive Statement
  | section (keys : List String)
  /-- the header of the next table of a list -/
  | element (keys : List String)
  | setting (keys : List String) (value : Value)

/-- A statement and what follows it. -/
def readStatement? : List Char → Option (Statement × List Char)
  | '[' :: '[' :: cs => do
    match ← readKeys? cs with
    | (keys, ']' :: ']' :: rest) => some (.element keys, rest)
    | _ => none
  | '[' :: cs => do
    match ← readKeys? cs with
    | (keys, ']' :: rest) => some (.section keys, rest)
    | _ => none
  | cs => do
    match ← readKeys? cs with
    | (keys, '=' :: rest) =>
      let (value, rest) ← readValue? nestingLimit (2 * rest.length + 2) (skipBlank rest)
      return (.setting keys value, rest)
    | _ => none

/-- The statements of a text, each on a line of its own. The count bounds the lines. -/
def readStatements? : Nat → List Char → Option (List Statement)
  | 0, _ => none
  | steps + 1, cs =>
    if cs.isEmpty then some []
    else
      match readLineEnd? cs with
      | some rest => readStatements? steps rest
      | none => do
        let (statement, rest) ← readStatement? (skipBlank cs)
        let statements ← readStatements? steps (← readLineEnd? rest)
        return statement :: statements

namespace Document

/-- Adds the statements of a document, the first ones to the given section. -/
def add? (items : Document) (current : List String) : List Statement → Option Document
  | [] => some items
  | .section keys :: rest => do add? (← items.openSection? keys) keys rest
  | .element keys :: rest => do add? (← items.openElement? keys) keys rest
  | .setting keys value :: rest => do add? (← items.store? current true value keys) current rest

end Document

/-- The document of a text, which may start with a byte order mark. -/
def parse? (s : String) : Option Document := do
  let cs := match s.toList with
    | '\ufeff' :: cs => cs
    | cs => cs
  Document.add? [] [] (← readStatements? (cs.length + 1) cs)

end Telemetry.Toml
