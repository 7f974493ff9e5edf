import Graft.Command.Footprint

/-!
# The command line

The outer layer of the program. It copies the places that a command looks at from the
file system into a tree, runs the command on the tree, shows what the command showed,
and writes back the files that the command changed. Everything else is decided by
`Graft.Command.run`.
-/

namespace Graft.Command

open Text

/-- The text of a place, from the root. -/
def placeText (place : List Text) : String := String.ofList ('/' :: join ['/'] place)

/-- Copy one place into the tree. The answer says whether there is anything. -/
def copyPlace (disk : Disk) (place : List Text) : IO (Disk × Bool) := do
  let path := (← IO.currentDir) / placeText place
  if ← path.isDir then return (disk.setAt place .directory, true)
  else if ← path.pathExists then
    let content ← IO.FS.readBinFile path
    return (disk.setAt place (.file content.toList), true)
  else return (disk, false)

/-- Copy the places on the way to a path, from a place, up to the first that is not
there. -/
def copyWay (disk : Disk) (place : List Text) : List Text → IO Disk
  | [] => return disk
  | name :: rest => do
    let next := Path.follow place [name]
    if next.isEmpty then copyWay disk next rest
    else
      let (disk, found) ← copyPlace disk next
      if found then copyWay disk next rest else return disk

/-- Copy what a path leads to, and what is on the way. -/
def copyPath (disk : Disk) (p : Path) : IO Disk :=
  copyWay disk (if p.isAbsolute then [] else disk.here) p.names

/-- Copy the documents and directories below a place, however deep they are. -/
def copyBelow (disk : Disk) (place : List Text) : IO Disk := do
  let path := (← IO.currentDir) / placeText place
  if !(← path.isDir) then return disk
  let mut disk := disk
  for inner in ← path.walkDir do
    let names := (Path.ofText inner.toString.toList).names
    if (← inner.isDir) || endsWith (names.getLast?.getD []) documentSuffix then
      disk := (← copyPlace disk names).1
  return disk

/-- The part of the file system that the arguments make the program look at. -/
def snapshot (arguments : List Text) : IO Disk := do
  let here := (Path.ofText (← IO.currentDir).toString.toList).names
  let disk ← copyPath { here } ⟨['/'], here⟩
  match parse arguments with
  | .act _ action =>
    let disk ← (action.firstPaths here).foldlM copyPath disk
    match action.options? disk with
    | none => return disk
    | some options =>
      let root := action.place.root.resolve here
      let disk ← (optionPaths options root).foldlM copyPath disk
      match (sourceDirectory? options root).bind disk.place? with
      | some source => copyBelow disk source
      | none => return disk
  | _ => return disk

/-- Show a text or a table. -/
def display (p : Printed) : IO Unit :=
  match p with
  | .text t => IO.println (String.ofList t)
  | .table title columns rows => do
    IO.println (String.ofList title)
    for row in columns :: rows do
      IO.println (String.ofList (join "  ".toList row))

/-- Write back the files that a run changed. -/
def writeBack (old new : Disk) : IO Unit := do
  for (place, content) in Disk.changes old new do
    IO.FS.writeBinFile (placeText place) ⟨content.toArray⟩

end Graft.Command

/-- Run the program. -/
def main (arguments : List String) : IO UInt32 := do
  let arguments := arguments.map String.toList
  let disk ← Graft.Command.snapshot arguments
  let result := Graft.Command.run arguments disk
  for record in result.records do
    IO.eprintln (String.ofList (record.origin.name ++ ": ".toList ++ record.message))
  for p in result.printed do
    Graft.Command.display p
  Graft.Command.writeBack disk result.disk
  match result.fault with
  | some fault => IO.eprintln (String.ofList fault.message)
  | none => pure ()
  return result.status.toUInt32
