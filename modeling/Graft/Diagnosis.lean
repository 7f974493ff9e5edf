import Graft.Config

/-!
# Diagnosis

Before anything is injected, a project can be looked over: its options, its manifest,
the pages that are selected, the directory of its documents, and its component. Each is
one check with a status and a line of detail. Options that cannot be read end the
diagnosis, since everything else depends on them.
-/

namespace Graft

open Text

namespace Diagnosis

/-- How a check went. -/
inductive Status where
  | ok
  | warn
  | error
deriving DecidableEq, Repr

/-- The word for a status. -/
def Status.name : Status → Text
  | .ok => "ok".toList
  | .warn => "warn".toList
  | .error => "error".toList

/-- The status a word stands for. -/
def Status.ofName? (name : Text) : Option Status :=
  [Status.ok, .warn, .error].find? fun status => status.name == name

/-- One check. -/
structure Check where
  /-- What was checked. -/
  name : Text
  /-- How it went. -/
  status : Status
  /-- What was found. -/
  detail : Text
deriving DecidableEq, Repr

/-- Whether the options can be read, and the options. -/
def checkOptions (disk : Disk) (config : Path) : Except Fault (Check × Option Options) :=
  let name := "Options file".toList
  match Options.load disk config with
  | .ok options => .ok (⟨name, .ok, "Loaded ".toList ++ config.name⟩, some options)
  | .error (.config cause) => .ok (⟨name, .error, cause.message⟩, none)
  | .error fault => .error fault

/-- Whether the manifest is there and is JSON. -/
def checkManifest (disk : Disk) (manifest : Path) : Except Fault Check :=
  let name := "Page manifest".toList
  let unreadable (why : Text) : Check := ⟨name, .error, "Unreadable: ".toList ++ why⟩
  match disk.isThere manifest with
  | .error fault => .error fault
  | .ok false =>
    .ok ⟨name, .warn, manifest.toText ++ " not found; no page will be processed.".toList⟩
  | .ok true =>
    match disk.readValue manifest with
    | .ok _ => .ok ⟨name, .ok, "Found ".toList ++ manifest.toText⟩
    | .error (.config (.malformed _ error)) => .ok (unreadable error.message)
    | .error (.directory p) => .ok (unreadable (Fault.directory p).message)
    | .error fault => .error fault

/-- Whether any page is selected. -/
def checkTargets (loaded : Except Fault Targets) : Except Fault Check :=
  let name := "Target pages".toList
  match loaded with
  | .error (.config cause) => .ok ⟨name, .error, cause.message⟩
  | .error fault => .error fault
  | .ok targets =>
    if targets.selected.isEmpty then
      .ok ⟨name, .warn, "No page selected; check include/exclude against pages.json.".toList⟩
    else
      .ok ⟨name, .ok,
        ofNat targets.selected.length ++ " of ".toList ++ ofNat targets.all.length ++
          " pages selected".toList⟩

/-- Whether the documents have a directory, and how many there are. -/
def checkSource (disk : Disk) (root : Path) (options : Options) : Except Fault Check := do
  let name := "Source directory".toList
  let source ← pathFrom root options.sourceDir
  if ← disk.isDirectory source then
    return ⟨name, .ok,
      ofNat (disk.documents source).length ++ " .vue file(s) under ".toList ++ source.toText⟩
  else return ⟨name, .error, source.toText ++ " is not a directory".toList⟩

/-- Whether the component has a file. -/
def checkComponent (disk : Disk) (root : Path) (options : Options) : Except Fault Check :=
  let name := "Component file".toList
  match Component.locate disk root options.componentPath options.aliases with
  | .ok file => .ok ⟨name, .ok, file.toText⟩
  | .error (.component cause) => .ok ⟨name, .error, cause.message⟩
  | .error fault => .error fault

/-- The checks that follow when the options could be read. -/
def checkProject (disk : Disk) (root : Path) (options : Options) (first : Check) :
    List Record × Except Fault (List Check) :=
  match pathFrom root options.pagesJson with
  | .error fault => ([], .error fault)
  | .ok pages =>
    match checkManifest disk pages with
    | .error fault => ([], .error fault)
    | .ok manifest =>
      let (records, loaded) :=
        Targets.load disk pages (.list options.included) (.list options.excluded)
      (records, do
        let targets ← checkTargets loaded
        let source ← checkSource disk root options
        let component ← checkComponent disk root options
        return [first, manifest, targets, source, component])

/-- Look a project over. -/
def collect (disk : Disk) (config root : Path) : List Record × Except Fault (List Check) :=
  match checkOptions disk config with
  | .error fault => ([], .error fault)
  | .ok (check, none) => ([], .ok [check])
  | .ok (check, some options) => checkProject disk root options check

/-- How many checks have a status. -/
def count (status : Status) (statuses : List Status) : Nat := statuses.count status

end Diagnosis

end Graft
