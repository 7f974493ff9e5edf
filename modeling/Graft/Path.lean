import Graft.Text.Basic

/-!
# Paths

A path is a root and the names after it. Empty names and single dots mean nothing and
are dropped when a path is read; double dots are kept, since what they stand for depends
on the tree. Two slashes at the start are a root of their own, three or more are one.

Paths are compared name by name, so everything below a directory stands together in a
sorted list, before any name that merely starts like the directory's.
-/

namespace Graft

open Text

/-- A path: what it starts from and the names after it. -/
structure Path where
  /-- Empty for a relative path, otherwise one slash or two. -/
  root : Text
  /-- The names, without empty ones and single dots. -/
  names : List Text
deriving DecidableEq, Repr

namespace Path

/-- The name that stands for the directory above. -/
def parentName : Text := "..".toList

/-- Read a path. -/
def ofText (t : Text) : Path :=
  let root := match t with
    | '/' :: '/' :: '/' :: _ => ['/']
    | '/' :: '/' :: _ => ['/', '/']
    | '/' :: _ => ['/']
    | _ => []
  ⟨root, (split '/' t).filter fun name => !name.isEmpty && name != ['.']⟩

/-- Write a path. The empty relative path is written as a single dot. -/
def toText (p : Path) : Text :=
  match p.root ++ join ['/'] p.names with
  | [] => ['.']
  | t => t

/-- The path starts from a root. -/
def isAbsolute (p : Path) : Bool := !p.root.isEmpty

/-- The path has a null character, which no name can have. -/
def hasNull (p : Path) : Bool := p.names.any (·.contains (Char.ofNat 0))

/-- A path seen from another: an absolute one stays as it is. -/
def append (base p : Path) : Path :=
  if p.isAbsolute then p else ⟨base.root, base.names ++ p.names⟩

/-- A path extended by the text of another. -/
def appendText (base : Path) (t : Text) : Path := base.append (ofText t)

/-- The last name, empty when there is none. -/
def name (p : Path) : Text := (p.names.getLast?).getD []

/-- A name cut before its last dot. A dot that is the first or the last character of the
name does not cut it. -/
def splitName (name : Text) : Text × Text :=
  match cutLast? ['.'] name with
  | some (before, after) =>
    if before.isEmpty || after.isEmpty then (name, []) else (before, '.' :: after)
  | none => (name, [])

/-- The last name without its ending. -/
def stem (p : Path) : Text := (splitName p.name).1

/-- The ending of the last name, with its dot. -/
def suffix (p : Path) : Text := (splitName p.name).2

/-- The path with its last name replaced. -/
def withName (p : Path) (name : Text) : Path := ⟨p.root, p.names.dropLast ++ [name]⟩

/-- The names a path leads to, step by step, from a place given by its names. -/
def follow (start : List Text) (names : List Text) : List Text :=
  names.foldl (fun here name => if name = parentName then here.dropLast else here ++ [name]) start

/-- The path without double dots, seen from a directory given by its names. -/
def resolve (here : List Text) (p : Path) : Path :=
  ⟨['/'], follow (if p.isAbsolute then [] else here) p.names⟩

/-- The names of a path below another one, where it is. -/
def below? (base p : Path) : Option (List Text) :=
  if base.root = p.root ∧ base.names <+: p.names then some (p.names.drop base.names.length)
  else none

/-- A path as it is shown to someone who works at `base`. -/
def relativeText (base p : Path) : Text :=
  match below? base p with
  | some names => toText ⟨[], names⟩
  | none => p.toText

/-- Paths are ordered by their names. -/
def precedes (p q : Path) : Bool := (compare p.names q.names).isLE

/-- Put a path into a sorted list. -/
def insertSorted (p : Path) : List Path → List Path
  | [] => [p]
  | q :: rest => if p.precedes q then p :: q :: rest else q :: insertSorted p rest

/-- Paths in order. -/
def sort (paths : List Path) : List Path := paths.foldr insertSorted []

end Path

end Graft
