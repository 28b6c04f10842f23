import Telemetry.Failure
import Telemetry.Files
import Telemetry.Store.Operation
import Telemetry.Store.Row

/-! The store of telemetry: three tables of rows in the order they were written. It is kept in memory or in a
file, and refuses every operation once it is closed. -/
namespace Telemetry

namespace Store

/-- The rows of a store, oldest first. -/
structure Tables where
  spans : List SpanRow
  logs : List LogRow
  metrics : List MetricRow
deriving DecidableEq

def Tables.empty : Tables := ⟨[], [], []⟩

/-- The path that stands for memory. -/
def memoryPath : String := ":memory:"

/-- Whether the engine keeps a store in memory that is opened under a path. It does so under the path that stands for
memory, and under the empty one. Under any other path it keeps a file. -/
def isMemoryPath (path : String) : Bool := path == memoryPath || path == ""

/-- What is found where the file of a store should be. -/
inductive Found
  /-- nothing; a new store is made there -/
  | nothing
  | database (tables : Tables)
  /-- something that is not the file of a store, or a place that no file can have -/
  | foreign
  /-- a directory on the way cannot be made -/
  | blocked
  /-- nothing, but the file for pending changes that stands beside the file of a store cannot be made -/
  | unloggable

/-- The ending of the name of the file for pending changes. -/
def pendingSuffix : String := ".wal"

/-- What a tree of files holds at a path. None of its files is the file of a store. Slashes at the end of a
path do not count. -/
def Found.ofFiles (files : Files) (path : String) : Found :=
  let (here, steps) := files.start path
  let named := (steps.reverse.dropWhile fun s => s = "" ∨ s = ".").reverse
  match files.clear? here named.dropLast with
  | none => .blocked
  | some directory =>
    match named.getLast? with
    | none | some ".." => .foreign
    | some name =>
      if (steps.filter (· ≠ "")).getLast? = some "." ∨ !Files.isName name then .foreign
      else
        let place := directory.step files.root name
        let pending := directory.step files.root (name ++ pendingSuffix)
        if (files.at? place).isSome then .foreign
        else if !Files.isName (name ++ pendingSuffix) ∨ files.at? pending = some .directory then .unloggable
        else .nothing

end Store

/-- A store, open or closed. -/
structure Store where
  /-- the path it was opened under, which tells whether its rows are in memory or in a file -/
  path : String
  /-- how many rows a write gathers before it moves them to the table -/
  flushEvery : Nat
  flushEvery_pos : 0 < flushEvery
  isOpen : Bool
  tables : Store.Tables

namespace Store

/-- The rows a store gathers unless told otherwise. -/
def defaultFlushEvery : Nat := 10

/-- A new store that holds the given rows. The rows to gather cannot be zero. -/
def start (path : String) (flushEvery : Nat) (tables : Tables) : Except Failure Store :=
  if h : 0 < flushEvery then .ok ⟨path, flushEvery, h, true, tables⟩
  else .error (.invalidArgument "flush_every must be greater than zero")

/-- An empty store in memory. -/
def openMemory (flushEvery : Nat) : Except Failure Store := start memoryPath flushEvery .empty

/-- The wording for a file that cannot be opened. -/
def openFailure : String := "failed to open duckdb"

/-- The store under a path. In memory it is a new one, whatever is found where its file would be. -/
def openFile (flushEvery : Nat) (path : String) (found : Found) : Except Failure Store :=
  if isMemoryPath path then start path flushEvery .empty
  else match found with
    | .nothing => start path flushEvery .empty
    | .database tables => start path flushEvery tables
    | .foreign => .error (.storage openFailure)
    | .blocked => .error (.storage "failed to create db dir")
    | .unloggable => do
      let _ ← start path flushEvery .empty
      .error (.storage "failed to initialize schema")

/-- Closes the store; closing it again changes nothing. -/
def close (store : Store) : Store := { store with isOpen := false }

/-- The wording for an engine that cannot let go of the rows of a store. -/
def closeFailure : String := "failed to close store"

/-- What closing the store answers, by what its engine reports. Only an open store has an engine to let go of; a
store that is closed already has nothing left that could fail. -/
def closing (store : Store) (engine : Except String Unit) : Except Failure Unit :=
  if store.isOpen then engine.mapError fun detail => .storage (closeFailure ++ ": " ++ detail) else .ok ()

/-- Closes the store and opens it again where it was. A file keeps its rows, memory loses them. A path that
ends in a slash is good for a new file only, so that such a store stays closed. -/
def reopen (store : Store) : Except Failure Store :=
  if isMemoryPath store.path then .ok { store with isOpen := true, tables := .empty }
  else if store.path.endsWith "/" then .error (.storage openFailure)
  else .ok { store with isOpen := true }

/-- Every operation checks first that the store is open, and then that the caller has not cancelled. -/
def check (store : Store) (cancelled : Bool) (operation : Operation) : Except Failure Unit :=
  if store.isOpen = false then .error (.connectionClosed operation.text)
  else if cancelled then .error (.cancelled operation.text)
  else .ok ()

end Store
end Telemetry
