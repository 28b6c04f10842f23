import Telemetry.Config.Basic
import Telemetry.Files
import Telemetry.Text.Integer
import Telemetry.Toml.Document

/-! Loading the configuration from a file and from the environment. -/
namespace Telemetry

/-- The variables that matter to the configuration, as far as they are set. -/
structure Environment where
  configPath : Option String
  dbPath : Option String
  flushEvery : Option String
  readerPoolSize : Option String
  logFilter : Option String
  logFormat : Option String
  configHome : Option String
  home : Option String

namespace Overrides

/-- A setting that holds a string. -/
def string (document : Toml.Document) (key : String) : Option (Option String) :=
  match document.lookup [key] with
  | none => some none
  | some (.value (.string s)) => some (some s)
  | _ => none

/-- A setting that holds a number that is not negative. -/
def natural (document : Toml.Document) (key : String) : Option (Option Nat) :=
  match document.lookup [key] with
  | none => some none
  | some (.value (.integer n)) => if 0 ≤ n then some (some n.toNat) else none
  | _ => none

/-- The settings of a document; none if one of them has the wrong type. Other settings do not count. -/
def ofDocument? (document : Toml.Document) : Option Overrides := do
  return {
    dbPath := ← string document "db_path"
    flushEvery := ← natural document "flush_every"
    readerPoolSize := ← natural document "reader_pool_size"
    logFilter := ← string document "log_filter"
    logFormat := ← string document "log_format" }

/-- The settings in the text of a configuration file. -/
def parse? (text : String) : Option Overrides := do
  ofDocument? (← Toml.parse? text)

/-- The text of bytes in UTF-8. -/
def text? (content : List UInt8) : Option String := String.fromUTF8? ⟨content.toArray⟩

/-- The settings of a configuration file; none if there is nothing at the path. -/
def ofFile (files : Files) (path : String) : Except Failure (Option Overrides) :=
  match files.find? path with
  | none => .ok none
  | some .directory => .error (.config ("failed reading " ++ path))
  | some (.file content) =>
    match text? content with
    | none => .error (.config ("failed reading " ++ path))
    | some text =>
      match parse? text with
      | none => .error (.config ("failed parsing " ++ path))
      | some overrides => .ok (some overrides)

/-- A size in the environment. -/
def size (name : String) : Option String → Except Failure (Option Nat)
  | none => .ok none
  | some text =>
    match Text.readUInt64 text.toList with
    | .ok n => .ok (some n.toNat)
    | .error fault => .error (.config ("bad " ++ name ++ " in environment: " ++ fault.message))

/-- The settings of the environment. -/
def ofEnvironment (env : Environment) : Except Failure Overrides := do
  let flushEvery ← size "OTVIEW_FLUSH_EVERY" env.flushEvery
  let readerPoolSize ← size "OTVIEW_READER_POOL_SIZE" env.readerPoolSize
  return {
    dbPath := env.dbPath
    flushEvery := flushEvery
    readerPoolSize := readerPoolSize
    logFilter := env.logFilter
    logFormat := env.logFormat }

end Overrides

namespace Config

/-- Where the configuration file is looked for. -/
def filePath (env : Environment) : String :=
  match env.configPath with
  | some path => path
  | none =>
    let configHome := match env.configHome with
      | some directory => directory
      | none => Files.join (env.home.getD ".") ".config"
    Files.join configHome "otview/config.toml"

/-- The defaults under a configuration file, which has to exist. -/
def ofFile (files : Files) (path : String) : Except Failure Config := do
  match ← Overrides.ofFile files path with
  | none => .error (.config ("config file " ++ path ++ " does not exist"))
  | some overrides => default.apply overrides .file

/-- The defaults under the environment. -/
def ofEnvironment (env : Environment) : Except Failure Config := do
  default.apply (← Overrides.ofEnvironment env) .environment

/-- The defaults under the configuration file, if there is one, and the environment. -/
def load (files : Files) (env : Environment) : Except Failure Config := do
  let config ← match ← Overrides.ofFile files (filePath env) with
    | none => pure default
    | some overrides => default.apply overrides .file
  config.apply (← Overrides.ofEnvironment env) .environment

end Config
end Telemetry
