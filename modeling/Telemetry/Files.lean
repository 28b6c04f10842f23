/-! A tree of files under a root directory. Of what is outside the root only the directories that lead to it
are known. -/
namespace Telemetry

/-- What a path leads to. -/
inductive FileNode
  | file (content : List UInt8)
  | directory
deriving DecidableEq

/-- The files below the root, each under the names that lead to it. All directories on the way to a listed
entry are there as well. -/
structure Files where
  root : String
  entries : List (List String × FileNode)

namespace Files

/-- A place on the way along a path. -/
inductive Place
  /-- the top of the file system -/
  | top
  /-- a directory between the top and the root -/
  | above
  /-- what the names lead to from the root, if it is there -/
  | below (names : List String)
  /-- any other place -/
  | elsewhere
deriving DecidableEq

/-- The parts of a path between slashes. -/
def parts (path : String) : List String := (path.toList.splitOn '/').map String.ofList

/-- Where a path starts and its steps from there. A path that starts with a slash counts from the top, one
that starts with the root, and any other, from the root. -/
def start (files : Files) (path : String) : Place × List String :=
  match parts path with
  | "" :: rest => (.top, rest)
  | first :: rest => (.below [], if first = files.root then rest else first :: rest)
  | [] => (.below [], [])

/-- What stands under the names from the root. -/
def node? (files : Files) (names : List String) : Option FileNode :=
  match files.entries.lookup names with
  | some node => some node
  | none =>
    if names.isEmpty || files.entries.any (names.isPrefixOf ·.1) then some .directory else none

/-- What stands at a place. -/
def at? (files : Files) : Place → Option FileNode
  | .top | .above => some .directory
  | .below names => files.node? names
  | .elsewhere => none

/-- The place one step on. An empty step and a dot stay, two dots go up, though not above the top; from
the top the root can be named. -/
def Place.step (root : String) (here : Place) (step : String) : Place :=
  if step = "" ∨ step = "." then here
  else
    match here, step with
    | .top, ".." => .top
    | .top, name => if name = root then .below [] else .elsewhere
    | .above, ".." => .above
    | .above, _ => .elsewhere
    | .below [], ".." => .above
    | .below names, ".." => .below names.dropLast
    | .below names, name => .below (names ++ [name])
    | .elsewhere, _ => .elsewhere

/-- Follows steps. Each needs a directory to start in. -/
def follow (files : Files) (here : Place) : List String → Option FileNode
  | [] => files.at? here
  | step :: rest =>
    match files.at? here with
    | some .directory => files.follow (here.step files.root step) rest
    | _ => none

/-- What a path leads to, if anything. The empty path leads nowhere. -/
def find? (files : Files) (path : String) : Option FileNode :=
  if path = "" then none
  else
    let (here, steps) := files.start path
    files.follow here steps

/-- The longest name, in bytes of UTF-8. -/
def nameLimit : Nat := 255

/-- Whether something can have the name. -/
def isName (name : String) : Bool := name.utf8ByteSize ≤ nameLimit && !name.contains '\x00'

/-- Follows steps and makes the directories that are missing. It fails where a file is in the way, and at a
step that no directory can have as its name. -/
def clear? (files : Files) (here : Place) : List String → Option Place
  | [] => if files.at? here matches some (.file _) then none else some here
  | step :: rest =>
    if files.at? here matches some (.file _) then none
    else if isName step then files.clear? (here.step files.root step) rest
    else none

/-- A path below a directory. -/
def join (directory path : String) : String :=
  if directory = "" then path
  else if directory.endsWith "/" then directory ++ path
  else directory ++ "/" ++ path

end Files
end Telemetry
