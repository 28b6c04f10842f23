import Telemetry.Text.Hex

/-! Strings and the space between tokens, as TOML writes them. -/
namespace Telemetry.Toml

/-- A blank within a line. -/
def isBlank (c : Char) : Bool := c == ' ' || c == '\t'

def skipBlank (cs : List Char) : List Char := cs.dropWhile isBlank

/-- The characters that may stand for themselves in strings and comments: all but controls, though tabs may. -/
def isPlain (c : Char) : Bool := c == '\t' || (0x20 ≤ c.toNat && c.toNat ≠ 0x7f)

/-- What follows the end of a line. A carriage return belongs to it, but is none by itself. -/
def readNewline? : List Char → Option (List Char)
  | '\n' :: cs => some cs
  | '\r' :: '\n' :: cs => some cs
  | _ => none

/-- What follows blanks and ends of lines. -/
def skipLines : List Char → List Char
  | [] => []
  | '\r' :: '\n' :: cs => skipLines cs
  | c :: cs => if isBlank c || c == '\n' then skipLines cs else c :: cs

/-- What follows blanks, ends of lines and comments, perhaps from within a comment on. -/
def skipTrivia (inComment : Bool) : List Char → List Char
  | [] => []
  | '\r' :: '\n' :: cs => skipTrivia false cs
  | c :: cs =>
    if inComment && isPlain c then skipTrivia true cs
    else if isBlank c || c == '\n' then skipTrivia false cs
    else if c == '#' then skipTrivia true cs
    else c :: cs

/-- What follows a line of which nothing but blanks and a comment is left. -/
def readLineEnd? (cs : List Char) : Option (List Char) :=
  let rest := match skipBlank cs with
    | '#' :: comment => comment.dropWhile isPlain
    | rest => rest
  if rest.isEmpty then some [] else readNewline? rest

/-- The character with a number, unless the number is half of a surrogate pair or too large. -/
def char? (n : Nat) : Option Char := if h : n.isValidChar then some (Char.ofNatAux n h) else none

/-- The character that hexadecimal digits stand for. -/
def hexChar? (digits : List Char) : Option Char := do
  let values ← digits.mapM Text.hexValue
  char? (values.foldl (fun n d => 16 * n + d) 0)

/-- The character a one-letter escape stands for. -/
def letterEscape? : Char → Option Char
  | 'b' => some '\x08'
  | 't' => some '\t'
  | 'n' => some '\n'
  | 'f' => some '\x0c'
  | 'r' => some '\r'
  | '"' => some '"'
  | '\\' => some '\\'
  | _ => none

/-- The character that the text after a backslash stands for, and what follows it. -/
def readEscape? : List Char → Option (Char × List Char)
  | 'u' :: a :: b :: c :: d :: cs => do return (← hexChar? [a, b, c, d], cs)
  | 'U' :: a :: b :: c :: d :: e :: f :: g :: h :: cs => do
    return (← hexChar? [a, b, c, d, e, f, g, h], cs)
  | e :: cs => do return (← letterEscape? e, cs)
  | [] => none

/-- The rest of a basic string after its opening quote, and what follows its closing quote. The count bounds
the characters. -/
def readBasic : Nat → List Char → Option (List Char × List Char)
  | 0, _ => none
  | steps + 1, cs =>
    match cs with
    | [] => none
    | '"' :: cs => some ([], cs)
    | '\\' :: cs => do
      let (x, cs) ← readEscape? cs
      let (s, rest) ← readBasic steps cs
      return (x :: s, rest)
    | c :: cs =>
      if isPlain c then do
        let (s, rest) ← readBasic steps cs
        return (c :: s, rest)
      else none

/-- The rest of a literal string after its opening quote, and what follows its closing quote. -/
def readLiteral : List Char → Option (List Char × List Char)
  | [] => none
  | '\'' :: cs => some ([], cs)
  | c :: cs =>
    if isPlain c then do
      let (s, rest) ← readLiteral cs
      return (c :: s, rest)
    else none

/-- The rest of a basic string of several lines, and what follows it. Up to two quotes may stand right
before the three that close it. A backslash at the end of a line takes the space up to the next token
with it. -/
def readBasicLines : Nat → List Char → Option (List Char × List Char)
  | 0, _ => none
  | steps + 1, cs =>
    match cs with
    | [] => none
    | '"' :: '"' :: '"' :: '"' :: '"' :: cs => some (['"', '"'], cs)
    | '"' :: '"' :: '"' :: '"' :: cs => some (['"'], cs)
    | '"' :: '"' :: '"' :: cs => some ([], cs)
    | '\\' :: cs =>
      match readNewline? (skipBlank cs) with
      | some cs => readBasicLines steps (skipLines cs)
      | none => do
        let (x, cs) ← readEscape? cs
        let (s, rest) ← readBasicLines steps cs
        return (x :: s, rest)
    | c :: cs =>
      match readNewline? (c :: cs) with
      | some cs => do
        let (s, rest) ← readBasicLines steps cs
        return ('\n' :: s, rest)
      | none =>
        if isPlain c then do
          let (s, rest) ← readBasicLines steps cs
          return (c :: s, rest)
        else none

/-- The rest of a literal string of several lines, and what follows it. -/
def readLiteralLines : List Char → Option (List Char × List Char)
  | [] => none
  | '\'' :: '\'' :: '\'' :: '\'' :: '\'' :: cs => some (['\'', '\''], cs)
  | '\'' :: '\'' :: '\'' :: '\'' :: cs => some (['\''], cs)
  | '\'' :: '\'' :: '\'' :: cs => some ([], cs)
  | '\r' :: '\n' :: cs => do
    let (s, rest) ← readLiteralLines cs
    return ('\n' :: s, rest)
  | c :: cs =>
    if isPlain c || c == '\n' then do
      let (s, rest) ← readLiteralLines cs
      return (c :: s, rest)
    else none

/-- A text without a line's end in front. -/
def dropNewline (cs : List Char) : List Char := (readNewline? cs).getD cs

/-- A string of any of the four kinds, and what follows it. -/
def readString? : List Char → Option (String × List Char)
  | '"' :: '"' :: '"' :: cs => finish (readBasicLines (cs.length + 1) (dropNewline cs))
  | '"' :: cs => finish (readBasic (cs.length + 1) cs)
  | '\'' :: '\'' :: '\'' :: cs => finish (readLiteralLines (dropNewline cs))
  | '\'' :: cs => finish (readLiteral cs)
  | _ => none
where
  finish (result : Option (List Char × List Char)) : Option (String × List Char) :=
    result.map fun (s, rest) => (String.ofList s, rest)

end Telemetry.Toml
