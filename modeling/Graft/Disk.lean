import Graft.Fault

/-!
# The file tree

A project lives in a tree of directories and files. The tree is a plain value: a list of
entries, each at the names that lead to it from the root, together with the directory
relative paths start from. There are no links, so the names of a place are unique.

A path is followed name by name, and every name before the last has to be a directory:
`missing/../file` is not there even when `file` is. Names and whole paths have a greatest
length, in bytes. To ask for a path that is longer is a fault, and so is to ask a
directory for a name that is longer. The walk through a directory (`documents`) asks for no
path: trees in which it would come to one that is too long are out of scope.
-/

namespace Graft

open Text

/-- What stands at a place of the tree. -/
inductive Node where
  /-- A directory. -/
  | directory
  /-- A file with its content. -/
  | file (content : Bytes)
deriving DecidableEq, Repr

/-- A file tree, the directory relative paths start from, and the room for reading its files. -/
structure Disk where
  /-- The places below the root, each with the names that lead to it. -/
  entries : List (List Text × Node) := []
  /-- The names of the working directory. -/
  here : List Text := []
  /-- How many lists and objects inside one another can be read in a file. -/
  room : Nat := Value.usualRoom
deriving DecidableEq, Repr

namespace Disk

/-- What stands at the names of a place. The root is a directory. -/
def nodeAt? (disk : Disk) (place : List Text) : Option Node :=
  if place.isEmpty then some .directory else disk.entries.lookup place

/-- Where a path leads. -/
inductive Arrival where
  /-- To the names of a place. -/
  | place (names : List Text)
  /-- Nowhere. -/
  | nowhere
  /-- To a name that is too long for its directory. -/
  | overlong
deriving DecidableEq, Repr

/-- The most bytes of a name. -/
def maxNameBytes : Nat := 255

/-- The most bytes of a path. -/
def maxPathBytes : Nat := 4095

/-- Follow names from a place. -/
def follow (disk : Disk) : List Text → List Text → Arrival
  | place, [] => .place place
  | place, name :: rest =>
    if disk.nodeAt? place = some .directory then
      if maxNameBytes < (Utf8.encode name).length then .overlong
      else if name = Path.parentName then disk.follow place.dropLast rest
      else if (disk.nodeAt? (place ++ [name])).isSome then disk.follow (place ++ [name]) rest
      else .nowhere
    else .nowhere

/-- Where a path leads. A null character ends no name, so a path with one leads nowhere. -/
def arrival (disk : Disk) (p : Path) : Arrival :=
  if p.hasNull then .nowhere
  else if maxPathBytes < (Utf8.encode p.toText).length then .overlong
  else disk.follow (if p.isAbsolute then [] else disk.here) p.names

/-- The place a path leads to. -/
def place? (disk : Disk) (p : Path) : Option (List Text) :=
  match disk.arrival p with
  | .place names => some names
  | _ => none

/-- What a path leads to, where it leads anywhere. -/
def find? (disk : Disk) (p : Path) : Except Fault (Option Node) :=
  match disk.arrival p with
  | .place names => .ok (disk.nodeAt? names)
  | .nowhere => .ok none
  | .overlong => .error (.overlong p)

/-- The path leads somewhere. -/
def isThere (disk : Disk) (p : Path) : Except Fault Bool := do
  return (← disk.find? p).isSome

/-- The path leads to a file. -/
def isFile (disk : Disk) (p : Path) : Except Fault Bool := do
  match ← disk.find? p with
  | some (.file _) => return true
  | _ => return false

/-- The path leads to a directory. -/
def isDirectory (disk : Disk) (p : Path) : Except Fault Bool := do
  return (← disk.find? p) == some .directory

/-- The text of a file. -/
def readText (disk : Disk) (p : Path) : Except Fault Text := do
  match ← disk.find? p with
  | none => .error (.missing p)
  | some .directory => .error (.directory p)
  | some (.file content) =>
    match Utf8.decode content with
    | .ok t => .ok (unifyLineEnds t)
    | .error fault => .error (.encoding fault)

/-- Change what stands at a place. -/
def setAt (disk : Disk) (place : List Text) (node : Node) : Disk :=
  { disk with entries :=
      if disk.entries.any (·.1 == place) then
        disk.entries.map fun entry => if entry.1 == place then (place, node) else entry
      else disk.entries ++ [(place, node)] }

/-- Make every directory on the way to a place. -/
def makeParents (disk : Disk) (place : List Text) : Disk :=
  (List.range place.length).foldl (fun d n =>
    let above := place.take n
    if (d.nodeAt? above).isSome then d else d.setAt above .directory) disk

/-- Put a node at a path, with the directories on the way to it. -/
def put (disk : Disk) (p : Path) (node : Node) : Disk :=
  let place := (p.resolve disk.here).names
  if place.isEmpty then disk else (disk.makeParents place).setAt place node

/-- Write a text to an existing file. -/
def writeText (disk : Disk) (p : Path) (t : Text) : Disk :=
  match disk.place? p with
  | some place => disk.setAt place (.file (Utf8.encode t))
  | none => disk

/-- Remove what a path leads to, and everything below it. -/
def remove (disk : Disk) (p : Path) : Disk :=
  let place := (p.resolve disk.here).names
  { disk with entries := disk.entries.filter fun entry => !place.isPrefixOf entry.1 }

/-- The places below a directory whose names end like those of component documents, in
order, as paths behind the path of the directory. Every place below the directory is taken to
be within reach: a tree with places whose paths are too long is out of scope here, and what is
found is asked for path by path afterwards. -/
def documents (disk : Disk) (directory : Path) : List Path :=
  match disk.place? directory with
  | none => []
  | some place =>
    let below := disk.entries.filterMap fun entry =>
      let names := entry.1.drop place.length
      if place.isPrefixOf entry.1 && !names.isEmpty &&
          endsWith (names.getLast?.getD []) documentSuffix then
        some (directory.append ⟨[], names⟩)
      else none
    Path.sort below

/-- The files that are new or have another content than in an earlier tree. -/
def changes (old new : Disk) : List (List Text × Bytes) :=
  new.entries.filterMap fun (place, node) =>
    match node with
    | .file content => if old.nodeAt? place = some node then none else some (place, content)
    | .directory => none

end Disk

end Graft
