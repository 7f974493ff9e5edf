import Graft.Disk
import Graft.Markup
import Graft.Targets

/-!
# The component's file

A component is named by a path, whose first part may be an alias. This file expands the
alias, names a component after its file, and makes sure that the path leads to a file
that is a component (`Component.locate`).
-/

namespace Graft.Component

open Text

/-- The name of a component after its file: the file's name without its ending, and with
its first character in lower case. -/
def nameOfPath (path : Text) : Text :=
  match (Path.ofText (replaceChar '\\' ['/'] path)).stem with
  | [] => []
  | c :: rest => lower [c] ++ rest

/-- The name of a component whose path is a value. -/
def nameOfValue : Value → Except Fault Value
  | .str path => .ok (.str (nameOfPath path))
  | v => .error (.misuse (.asText v))

/-- An entry of a list of aliases: what to find and what to put in its place. -/
def aliasEntry : Value → Except Fault (Value × Value)
  | .object fields =>
    let entry := Value.object fields
    .ok (entry.get "find".toList, entry.get "replacement".toList)
  | v => .error (.misuse (.asObject v))

/-- The aliases of a value: the fields of an object, or the entries of a list. -/
def aliasEntries : Value → Except Fault (List (Value × Value))
  | .object fields => .ok (fields.map fun (key, v) => (.str key, v))
  | v => do (← v.sequence).mapM aliasEntry

/-- A text with a slash at its end. -/
def withSlash (t : Text) : Text := if endsWith t ['/'] then t else t ++ ['/']

/-- A path with the first alias that fits replaced. An alias fits a whole first part of
the path; entries that are not texts are passed over. -/
def expand (path : Value) : List (Value × Value) → Except Fault Value
  | [] => .ok path
  | (.str find, .str replacement) :: rest =>
    match path with
    | .str t =>
      if startsWith t (withSlash find) then
        .ok (.str (withSlash replacement ++ t.drop (withSlash find).length))
      else expand path rest
    | v => .error (.misuse (.asText v))
  | _ :: rest => expand path rest

/-- A path with its alias replaced. -/
def resolveAlias (path aliases : Value) : Except Fault Value :=
  if aliases.isTruthy then do expand path (← aliasEntries aliases) else .ok path

/-- A path with the ending of component documents, which a path without an ending gets. -/
def withSuffix (given : Text) (p : Path) : Except Fault Path :=
  if p.suffix.isEmpty then
    if p.name.isEmpty then .error (.content (.unnamed p))
    else .ok (p.withName (p.name ++ documentSuffix))
  else if p.suffix = documentSuffix then .ok p
  else .error (.component (.suffix given))

/-- The text of a component's file. -/
def read (disk : Disk) (p : Path) : Except Fault Text := do
  if ← disk.isFile p then
    match disk.readText p with
    | .error (.encoding cause) => .error (.component (.unreadable p cause))
    | answer => answer
  else .error (.component (.missing p))

/-- The file of a component, from a path that is seen from `base` unless it is absolute. -/
def locate (disk : Disk) (base : Path) (path aliases : Value) : Except Fault Path :=
  if !path.isTruthy then .error (.component .pathRequired)
  else do
    match ← resolveAlias path aliases with
    | .str t =>
      let file ← withSuffix path.display (base.appendText t)
      let content ← read disk file
      if !Markup.isPresent content then .error (.component (.noMarkup file))
      else return file.resolve disk.here
    | v => .error (.misuse (.asPath v))

end Graft.Component
