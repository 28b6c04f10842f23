import Telemetry.Toml.Moment
import Telemetry.Toml.Number
import Telemetry.Toml.Table
import Telemetry.Toml.Text

/-! Reading the keys and values of TOML. -/
namespace Telemetry.Toml

/-- A key and what follows it: quoted, or letters, digits, underscores and hyphens. -/
def readKey? : List Char → Option (String × List Char)
  | '"' :: cs => do
    let (s, rest) ← readBasic (cs.length + 1) cs
    return (String.ofList s, rest)
  | '\'' :: cs => do
    let (s, rest) ← readLiteral cs
    return (String.ofList s, rest)
  | cs =>
    let (key, rest) := cs.span fun c => c.isAlphanum || c == '_' || c == '-'
    if key.isEmpty then none else some (String.ofList key, rest)

/-- Keys with dots between them, at most as many as the first argument says. -/
def readKeysUpTo? : Nat → List Char → Option (List String × List Char)
  | 0, _ => none
  | limit + 1, cs => do
    let (key, rest) ← readKey? (skipBlank cs)
    match skipBlank rest with
    | '.' :: rest =>
      let (keys, rest) ← readKeysUpTo? limit rest
      return (key :: keys, rest)
    | rest => return ([key], rest)

/-- How deep lists and tables in braces may nest, and how many keys may lead to an item. -/
def nestingLimit : Nat := 79

/-- Keys with dots between them, and what follows them after blanks. -/
def readKeys? (cs : List Char) : Option (List String × List Char) := readKeysUpTo? nestingLimit cs

/-- The characters of values that are not strings, lists or tables. -/
def isWordChar (c : Char) : Bool := c.isAlphanum || ['_', '+', '-', '.', ':'].contains c

/-- The value of a word. -/
def ofWord? (cs : List Char) : Option Value :=
  if cs = ['t', 'r', 'u', 'e'] then some (.bool true)
  else if cs = ['f', 'a', 'l', 's', 'e'] then some (.bool false)
  else if isMoment cs then some .moment
  else
    match readInteger cs with
    | some n => some (.integer n)
    | none => if isFloat cs then some .float else none

/-- A value of one word, or a date and a time with a blank between them. -/
def readWord? (cs : List Char) : Option (Value × List Char) := do
  let (word, rest) := cs.span isWordChar
  match rest with
  | ' ' :: more =>
    let (time, behind) := more.span isWordChar
    if isDate word && isOffsetTime time then return (.moment, behind)
    else return (← ofWord? word, rest)
  | _ => return (← ofWord? word, rest)

mutual

/-- A value and what follows it. Lists and tables may nest as many levels deep as given; the other count
bounds the steps, of which two for each character, and two, are enough. -/
def readValue? (levels : Nat) : Nat → List Char → Option (Value × List Char)
  | 0, _ => none
  | steps + 1, cs =>
    match cs with
    | '[' :: cs =>
      match levels with
      | 0 => none
      | levels + 1 => do return (.list, ← readItems? levels steps cs)
    | '\x7b' :: cs =>
      match levels with
      | 0 => none
      | levels + 1 =>
        match skipBlank cs with
        | '\x7d' :: rest => some (.table, rest)
        | cs => do return (.table, ← readEntries? levels steps [] cs)
    | cs =>
      match readString? cs with
      | some (s, rest) => some (.string s, rest)
      | none => readWord? cs

/-- What follows the items of a list and its closing bracket. A comma may follow the last item. -/
def readItems? (levels : Nat) : Nat → List Char → Option (List Char)
  | 0, _ => none
  | steps + 1, cs =>
    match skipTrivia false cs with
    | ']' :: rest => some rest
    | cs => do
      let (_, rest) ← readValue? levels steps cs
      match skipTrivia false rest with
      | ',' :: rest => readItems? levels steps rest
      | ']' :: rest => some rest
      | _ => none

/-- What follows the settings of a table in braces, of which there is at least one, and the closing
brace. -/
def readEntries? (levels : Nat) : Nat → Document → List Char → Option (List Char)
  | 0, _, _ => none
  | steps + 1, entries, cs => do
    match ← readKeys? cs with
    | (keys, '=' :: rest) =>
      let (value, rest) ← readValue? levels steps (skipBlank rest)
      let entries ← entries.store? [] true value keys
      match skipBlank rest with
      | ',' :: rest => readEntries? levels steps entries rest
      | '\x7d' :: rest => some rest
      | _ => none
    | _ => none

end

end Telemetry.Toml
