import Graft.Fault

/-!
# Target pages

The page manifest lists the pages of the main package and of the sub-packages. Which of
them receive the component is decided once, by fragments of their paths: with any
fragment to include, only the pages that hold one are kept; otherwise the pages that
hold a fragment to exclude are dropped.

A manifest is not checked beyond its shape, so a page path can be any value that counts
as true; in a document's name it stands as it would be shown.
-/

namespace Graft

open Text

namespace Value

/-- The elements of a value: those of a list, the characters of a text, the keys of an
object. -/
def elements? : Value → Option (List Value)
  | .list elements => some elements
  | .str t => some (t.map fun c => .str [c])
  | .object fields => some (fields.map fun (key, _) => .str key)
  | _ => none

/-- The elements of a value that is gone through. -/
def sequence (v : Value) : Except Fault (List Value) :=
  match v.elements? with
  | some elements => .ok elements
  | none => .error (.misuse (.asSequence v))

/-- One value is found in another: a part in a text, an element in a list, a key in an
object. -/
def isIn (part : Value) : Value → Except Fault Bool
  | .str t =>
    match part with
    | .str fragment => .ok (occursIn fragment t)
    | v => .error (.misuse (.asFragment v))
  | .list elements => .ok (elements.any part.same)
  | .object fields =>
    if part.isScalar then .ok (fields.any fun (key, _) => part.same (.str key))
    else .error (.misuse (.asKey part))
  | v => .error (.misuse (.asContainer v))

/-- One of several values is found in another. The first that is ends the search. -/
def anyIn : List Value → Value → Except Fault Bool
  | [], _ => .ok false
  | part :: rest, whole =>
    match part.isIn whole with
    | .ok true => .ok true
    | .ok false => anyIn rest whole
    | .error fault => .error fault

end Value

/-- The pages of a project, and those among them that receive the component. -/
structure Targets where
  /-- Every page of the manifest. -/
  all : List Value := []
  /-- The pages that receive the component. -/
  selected : List Value := []

namespace Targets

/-- The path of a page entry, where it has one that counts as true. -/
def pagePath? (page : Value) : Option Value :=
  match page.get? "path".toList with
  | some path => if path.isTruthy then some path else none
  | none => none

/-- The page paths under a key that should hold a list of page entries. -/
def pagePaths (package : Value) : List Value :=
  match package.get "pages".toList with
  | .list pages => pages.filterMap pagePath?
  | _ => []

/-- The page paths of a sub-package, each behind the root of the package. -/
def subPaths (package : Value) : List Value :=
  let root := (package.get "root".toList).orElse (.str [])
  (pagePaths package).map fun path => .str (root.display ++ ['/'] ++ path.display)

/-- The page paths of a manifest: those of the main package, then those of the
sub-packages. -/
def extract (manifest : Value) : Except Fault (List Value) :=
  match manifest with
  | .object _ =>
    let packages := match manifest.get "subPackages".toList with
      | .list packages => packages
      | _ => []
    .ok (pagePaths manifest ++ packages.flatMap subPaths)
  | v => .error (.misuse (.asObject v))

/-- Keep the paths for which a test gives the wanted answer. -/
def keep (test : Value → Except Fault Bool) (wanted : Bool) :
    List Value → Except Fault (List Value)
  | [] => .ok []
  | path :: rest => do
    let answer ← test path
    let kept ← keep test wanted rest
    return if answer = wanted then path :: kept else kept

/-- Choose among page paths by fragments. Fragments to exclude count only where there
are none to include. -/
def choose (paths included excluded : Value) : Except Fault (List Value) := do
  let included ← included.sequence
  let excluded ← excluded.sequence
  let paths ← paths.sequence
  if !included.isEmpty then keep (Value.anyIn included) true paths
  else if !excluded.isEmpty then keep (Value.anyIn excluded) false paths
  else return paths

/-- The targets of a manifest. -/
def ofManifest (manifest included excluded : Value) : Except Fault Targets := do
  let all ← extract manifest
  let selected ← choose (.list all) included excluded
  return ⟨all, selected⟩

/-- A document belongs to a page: its name is the page's path with the ending of
documents, or goes on before it at a slash. -/
def isPageOf (docId : Text) (page : Value) : Bool :=
  let name := page.display ++ documentSuffix
  occursIn ("/pages/".toList ++ name) docId || occursIn ('/' :: name) docId || docId == name

/-- A document belongs to one of some pages. Backslashes in its name count as slashes. -/
def isPageFile (docId : Text) (pages : List Value) : Bool :=
  pages.any (isPageOf (replaceChar '\\' ['/'] docId))

/-- A document receives the component. -/
def accepts (targets : Targets) (docId : Text) : Bool := isPageFile docId targets.selected

/-- A page receives the component. -/
def contains (targets : Targets) (page : Value) : Bool := targets.selected.any page.same

end Targets

end Graft
