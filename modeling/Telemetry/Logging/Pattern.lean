import Telemetry.Text.Alphanumeric
import Telemetry.Text.Hex

/-! Which texts are patterns for the values of fields. Only the form matters here: no line is ever compared
with a pattern. Counted repetition has no place in the text of a directive, because a directive's fields end at
the first closing brace. -/
namespace Telemetry.Logging.Pattern

/-- The letter of a class of characters after a backslash. -/
def isClassLetter (c : Char) : Bool := ['d', 'D', 's', 'S', 'w', 'W'].contains c

/-- The characters that a letter after a backslash stands for. -/
def letterEscape? : Char → Option Char
  | 'a' => some '\x07'
  | 'f' => some '\x0c'
  | 't' => some '\t'
  | 'n' => some '\n'
  | 'r' => some '\r'
  | 'v' => some '\x0b'
  | _ => none

/-- The character whose number is given by so many hexadecimal digits, and what follows it. -/
def hexEscape? (count : Nat) (cs : List Char) : Option (Option Char × List Char) := do
  let digits ← (cs.take count).mapM Text.hexValue
  let n := digits.foldl (fun n d => 16 * n + d) 0
  if digits.length = count ∧ n.isValidChar then return (some (Char.ofNat n), cs.drop count) else none

/-- What follows a backslash: a character, or none for a class of characters, and the rest. The bounds of
words are not among the patterns. -/
def escape? : List Char → Option (Option Char × List Char)
  | 'x' :: rest => hexEscape? 2 rest
  | 'u' :: rest => hexEscape? 4 rest
  | 'U' :: rest => hexEscape? 8 rest
  | c :: rest =>
    if isClassLetter c then some (none, rest)
    else if c = 'p' ∨ c = 'P' then
      match rest with
      | category :: rest =>
        if ['C', 'L', 'M', 'N', 'P', 'S', 'Z'].contains category then some (none, rest) else none
      | [] => none
    else
      match letterEscape? c with
      | some x => some (some x, rest)
      | none =>
        if c.toNat < 0x80 ∧ !c.isAlphanum ∧ c ≠ '<' ∧ c ≠ '>' then some (some c, rest) else none
  | [] => none

/-- One item of a list of characters. -/
def listItem? : List Char → Option (Option Char × List Char)
  | '\\' :: rest => escape? rest
  | c :: rest => some (some c, rest)
  | [] => none

/-- What follows the opening of a list: an inversion, hyphens, and a bracket that does not close it. -/
def listStart (cs : List Char) : List Char :=
  let cs := match cs with
    | '^' :: rest => rest
    | cs => cs
  match cs with
  | '-' :: _ => cs.dropWhile (· = '-')
  | ']' :: rest => rest
  | cs => cs

/-- The rest after lists of characters, so many of them open. A range has single characters as its ends, in
ascending order. -/
def list? : Nat → Nat → List Char → Option (List Char)
  | 0, _, _ => none
  | _ + 1, 0, cs => some cs
  | steps + 1, levels + 1, cs =>
    match cs with
    | [] => none
    | '[' :: rest => list? steps (levels + 2) (listStart rest)
    | ']' :: rest => list? steps levels rest
    | '&' :: '&' :: rest => list? steps (levels + 1) rest
    | '-' :: '-' :: rest => list? steps (levels + 1) rest
    | '~' :: '~' :: rest => list? steps (levels + 1) rest
    | cs => do
      let (low, rest) ← listItem? cs
      match rest with
      | '-' :: ']' :: _ => list? steps (levels + 1) rest
      | '-' :: '-' :: _ => list? steps (levels + 1) rest
      | '-' :: rest =>
        let (high, rest) ← listItem? rest
        match low, high with
        | some a, some b => if a ≤ b then list? steps (levels + 1) rest else none
        | _, _ => none
      | rest => list? steps (levels + 1) rest

/-- Whether a text can name a group. -/
def isGroupName : List Char → Bool
  | [] => false
  | c :: cs =>
    (c = '_' || (Text.isAlphanumeric c && !c.isDigit)) &&
      cs.all fun c => c = '_' || c = '.' || c = '[' || c = ']' || Text.isAlphanumeric c

/-- Whether letters set options of a group: each once, and at least one after a minus sign. -/
def areOptions (cs : List Char) : Bool :=
  let letters := cs.filter (· ≠ '-')
  letters.all (['i', 'm', 's', 'U', 'u', 'R', 'x'].contains ·) && letters.Nodup &&
    (cs.filter (· = '-')).length ≤ 1 && cs.getLast? ≠ some '-'

/-- What follows an opening parenthesis: whether a group has begun, and the rest. Options alone begin
none. -/
def group? : List Char → Option (Bool × List Char)
  | '?' :: 'P' :: '<' :: rest => named rest
  | '?' :: '<' :: rest => named rest
  | '?' :: rest =>
    let (options, rest) := rest.span fun c => c ≠ ':' ∧ c ≠ ')'
    match rest with
    | ':' :: rest => if areOptions options then some (true, rest) else none
    | ')' :: rest => if areOptions options ∧ !options.isEmpty then some (false, rest) else none
    | _ => none
  | rest => some (true, rest)
where
  named (rest : List Char) : Option (Bool × List Char) :=
    let (name, rest) := rest.span (· ≠ '>')
    match rest with
    | '>' :: rest => if isGroupName name then some (true, rest) else none
    | _ => none

/-- Whether a text goes on as a pattern, with so many groups open and perhaps something to repeat. -/
def continues : Nat → Nat → Bool → List Char → Bool
  | 0, _, _, _ => false
  | steps + 1, groups, canRepeat, cs =>
    match cs with
    | [] => groups = 0
    | '\\' :: rest =>
      match escape? rest with
      | some (_, rest) => continues steps groups true rest
      | none =>
        match rest with
        | 'A' :: rest => continues steps groups true rest
        | 'z' :: rest => continues steps groups true rest
        | _ => false
    | '[' :: rest =>
      match list? (2 * rest.length + 2) 1 (listStart rest) with
      | some rest => continues steps groups true rest
      | none => false
    | '(' :: rest =>
      match group? rest with
      | some (true, rest) => continues steps (groups + 1) false rest
      | some (false, rest) => continues steps groups false rest
      | none => false
    | ')' :: rest => 0 < groups && continues steps (groups - 1) true rest
    | '|' :: rest => continues steps groups false rest
    | '\x7b' :: _ => false
    | c :: rest =>
      if c = '*' ∨ c = '+' ∨ c = '?' then
        canRepeat && continues steps groups true (match rest with
          | '?' :: rest => rest
          | rest => rest)
      else continues steps groups true rest

/-- Whether a text is a pattern. -/
def isPattern (cs : List Char) : Bool := continues (cs.length + 1) 0 false cs

end Telemetry.Logging.Pattern
