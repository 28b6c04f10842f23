import Telemetry.Failure
import Telemetry.Store.Basic
import Telemetry.Text.Blank

/-! The configuration and its layers: defaults, the configuration file and the environment, each of which may
override what is below it. -/
namespace Telemetry

/-- How log lines are written. -/
inductive LogFormat
  | compact
  | json
deriving DecidableEq, Repr

namespace LogFormat

def name : LogFormat → String
  | .compact => "compact"
  | .json => "json"

/-- The name a text is compared by: trimmed and with ASCII letters in lower case. -/
def fold (s : String) : String := String.ofList ((Text.trimChars s.toList).map Char.toLower)

/-- The format a text names. -/
def parse (s : String) : Except Failure LogFormat :=
  let folded := fold s
  if folded = "compact" ∨ folded = "text" then .ok .compact
  else if folded = "json" then .ok .json
  else .error (.config ("unknown log format: " ++ folded))

end LogFormat

structure Config where
  /-- the database file; without one the store is kept in memory -/
  dbPath : Option String
  flushEvery : Nat
  /-- how many idle connections for reading are kept -/
  readerPoolSize : Nat
  logFilter : String
  logFormat : LogFormat
deriving DecidableEq

/-- What a layer sets. -/
structure Overrides where
  dbPath : Option String
  flushEvery : Option Nat
  readerPoolSize : Option Nat
  logFilter : Option String
  logFormat : Option String
deriving DecidableEq

/-- Where a layer comes from. -/
inductive Source
  | file
  | environment
deriving DecidableEq, Repr

/-- The wording of a source. -/
def Source.name : Source → String
  | .file => "config file"
  | .environment => "environment"

namespace Config

def default : Config where
  dbPath := none
  flushEvery := Store.defaultFlushEvery
  readerPoolSize := 4
  logFilter := "info"
  logFormat := .compact

/-- A size that may be overridden, though not with zero. -/
def size (current : Nat) (name : String) (source : Source) : Option Nat → Except Failure Nat
  | none => .ok current
  | some 0 => .error (.config (name ++ " in " ++ source.name ++ " must be greater than zero"))
  | some n => .ok n

/-- The log format that an override names. -/
def format (current : LogFormat) (source : Source) : Option String → Except Failure LogFormat
  | none => .ok current
  | some text =>
    match LogFormat.parse text with
    | .ok f => .ok f
    | .error e =>
      .error (.config
        ("bad log_format in " ++ source.name ++ ": " ++ e.message ++ " (value=" ++ text ++ ")"))

/-- The configuration under a layer. An empty path stands for no file. -/
def apply (config : Config) (overrides : Overrides) (source : Source) : Except Failure Config := do
  let flushEvery ← size config.flushEvery "flush_every" source overrides.flushEvery
  let readerPoolSize ← size config.readerPoolSize "reader_pool_size" source overrides.readerPoolSize
  let logFormat ← format config.logFormat source overrides.logFormat
  return {
    dbPath := match overrides.dbPath with
      | none => config.dbPath
      | some "" => none
      | some path => some path
    flushEvery := flushEvery
    readerPoolSize := readerPoolSize
    logFilter := overrides.logFilter.getD config.logFilter
    logFormat := logFormat }

/-- Opens the store a configuration asks for. -/
def openStore (config : Config) (find : String → Store.Found) : Except Failure Store :=
  match config.dbPath with
  | none => Store.openMemory config.flushEvery
  | some path => Store.openFile config.flushEvery path (find path)

end Config
end Telemetry
