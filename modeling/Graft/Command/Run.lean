import Graft.Command.Arguments
import Graft.Command.Session

/-!
# The commands

The five commands of the program, as sessions over a file tree: `inject` puts the
component into every selected page, `preview` shows one document as it would become,
`pages` lists the pages, `check` looks the project over, and `info` shows the options.

`run` is the whole program: it reads the arguments, runs the command, and gives what was
shown and recorded, the exit status, and the tree that is left.
-/

namespace Graft.Command

open Text Session

/-- The name of the program. -/
def programName : Text := "UniInject".toList

/-- The name and the version of the program. -/
def versionText : Text := programName ++ " v0.1.0".toList

/-- The options file of a project, unless another is given. -/
def defaultConfig : Text := "uniinject.json".toList

/-! ## Loading a project -/

/-- The directory of a project, from the root of the tree. -/
def rootOf (place : Place) : Session Path := do
  return place.root.resolve (← disk).here

/-- The options file of a project. -/
def configOf (place : Place) (root : Path) : Path :=
  place.config.getD (root.appendText defaultConfig)

/-- The options of a project. -/
def loadOptions (place : Place) (root : Path) : Session Options := do
  configured (Options.load (← disk) (configOf place root))

/-- The target pages of a project. -/
def loadTargets (options : Options) (root : Path) : Session Targets := do
  let pages ← attempt (pathFrom root options.pagesJson)
  let (records, loaded) :=
    Targets.load (← disk) pages (.list options.included) (.list options.excluded)
  note records
  configured loaded

/-- Make sure that the component has a file. -/
def requireComponent (options : Options) (root : Path) : Session Unit := do
  match Component.locate (← disk) root options.componentPath options.aliases with
  | .error (.component cause) => abort cause.message
  | other =>
    let _ ← attempt other

/-! ## Injecting -/

/-- Treat one document. A document that cannot be read has failed; one with a new text
is written, except in a dry run. -/
def visit (draft : Draft) (targets : Targets) (dryRun : Bool) (file : Path) :
    Session Outcome := do
  let docId := file.toText
  match (← disk).readText file with
  | .error fault =>
    note [⟨.error, .command,
      "Cannot read ".toList ++ docId ++ ": ".toList ++ fault.message⟩]
    return ⟨docId, [], .failed fault.message⟩
  | .ok code =>
    let outcome ← attempt (draft.transform docId code (some targets))
    note (draft.records code outcome)
    if outcome.mutated && !dryRun then write file outcome.text
    return outcome

/-- Treat documents one after the other. -/
def visitAll (draft : Draft) (targets : Targets) (dryRun : Bool) :
    List Path → Session (List Outcome)
  | [] => return []
  | file :: rest => do
    let outcome ← visit draft targets dryRun file
    return outcome :: (← visitAll draft targets dryRun rest)

/-- The row of a document in the table of results. Documents of other pages have none. -/
def resultRow? (root : Path) (dryRun : Bool) (outcome : Outcome) : Option (List Text) :=
  let name := Console.escaped (Path.relativeText root (Path.ofText outcome.docId))
  match outcome.verdict with
  | .injected => some [name, (if dryRun then "would inject" else "injected").toList, []]
  | .skipped .notTarget => none
  | .skipped reason => some [name, "skipped".toList, reason.name]
  | .failed message => some [name, "failed".toList, Console.escaped message]

/-- The table of results. -/
def resultTable (root : Path) (dryRun : Bool) (report : Report) : Printed :=
  .table (if dryRun then "Dry run" else "Injection results").toList
    (["Document", "Result", "Detail"].map String.toList)
    (report.outcomes.filterMap (resultRow? root dryRun))

/-- The line below the table of results. -/
def resultLine (targets : Targets) (report : Report) : Text :=
  ['\n'] ++ ofNat report.mutated.length ++ " injected, ".toList ++
    ofNat (report.countReason SkipReason.alreadyPresent.name) ++ " already present, ".toList ++
    ofNat report.failed.length ++ " failed (".toList ++ ofNat targets.selected.length ++
    " target pages, ".toList ++ ofNat report.outcomes.length ++ " .vue files scanned)".toList

/-- Everything that is needed to inject into a project. -/
structure Setup where
  /-- The directory of the project. -/
  root : Path
  /-- What is injected. -/
  draft : Draft
  /-- The pages that receive it. -/
  targets : Targets
  /-- The directory of the documents. -/
  source : Path

/-- Load a project for injecting. -/
def prepare (place : Place) : Session Setup := do
  let root ← rootOf place
  let options ← loadOptions place root
  requireComponent options root
  let draft ← attempt options.draft
  let targets ← loadTargets options root
  let _ ← attempt draft.tag
  let source ← attempt (pathFrom root options.sourceDir)
  if ← attempt ((← disk).isDirectory source) then return { root, draft, targets, source }
  else abort ("Source directory not found: ".toList ++ source.toText)

/-- Treat every document of a project. -/
def survey (place : Place) (dryRun : Bool) : Session (Setup × Report) := do
  let setup ← prepare place
  let outcomes ←
    visitAll setup.draft setup.targets dryRun ((← disk).documents setup.source)
  return (setup, ⟨outcomes⟩)

/-- Put the component into every selected page. -/
def inject (place : Place) (dryRun strict : Bool) : Session Unit := do
  let (setup, report) ← survey place dryRun
  print (resultTable setup.root dryRun report)
  say (resultLine setup.targets report)
  if strict && !report.success then exit 1

/-! ## Looking -/

/-- Show a document as it would become. -/
def preview (place : Place) (file : Path) : Session Unit := do
  let options ← loadOptions place (← rootOf place)
  if !(← attempt ((← disk).isFile file)) then abort ("File not found: ".toList ++ file.toText)
  let draft ← attempt options.draft
  let _ ← attempt draft.tag
  let code ← attempt ((← disk).readText file)
  let outcome ← attempt (draft.transform file.toText code none)
  note (draft.records code outcome)
  match outcome.verdict with
  | .failed message =>
    complain "Injection failed:".toList message
    exit 1
  | .skipped reason => say ("No changes: ".toList ++ reason.name)
  | .injected =>
    say "===== processed file =====".toList
    say (Console.expand outcome.text)
    say "===== end of processed file =====".toList

/-- The row of a page in the table of pages. -/
def pageRow (targets : Targets) : Value → Except Fault (List Text)
  | .str page => do
    return [page, (if targets.contains (.str page) then "✓" else "-").toList]
  | v => .error (.misuse (.asCell v))

/-- List the pages. -/
def pages (place : Place) : Session Unit := do
  let root ← rootOf place
  let options ← loadOptions place root
  let targets ← loadTargets options root
  if targets.all.isEmpty then say "No pages found in the manifest.".toList
  else
    let rows ← attempt (targets.all.mapM (pageRow targets))
    let shown ← attempt (rows.mapM fun row => row.mapM Console.plain)
    print (.table
      ("Pages (".toList ++ ofNat targets.selected.length ++ " of ".toList ++
        ofNat targets.all.length ++ " selected)".toList)
      (["Page", "Selected"].map String.toList) shown)

/-- Look the project over. -/
def check (place : Place) : Session Unit := do
  let root ← rootOf place
  let (records, checks) := Diagnosis.collect (← disk) (configOf place root) root
  note records
  let checks ← attempt checks
  print (.table (programName ++ " diagnostics".toList)
    (["Check", "Status", "Detail"].map String.toList)
    (checks.map fun c => [c.name, c.status.name, Console.escaped c.detail]))
  let count (status : Diagnosis.Status) : Nat := Diagnosis.count status (checks.map (·.status))
  say (['\n'] ++ ofNat (count .ok) ++ " ok, ".toList ++ ofNat (count .warn) ++
    " warnings, ".toList ++ ofNat (count .error) ++ " errors".toList)
  if count .error != 0 then exit 1

/-- Show the options and the tag. -/
def info (place : Place) : Session Unit := do
  let options ← loadOptions place (← rootOf place)
  let draft ← attempt options.draft
  let tag ← attempt draft.tag
  say (versionText ++ ['\n'])
  let summary ← attempt options.summary
  print (.table "Resolved options".toList (["Option", "Value"].map String.toList)
    (summary.rows.map fun (name, value) => [name, Console.escaped value]))
  say "\nComponent tag:".toList
  say (Console.expand tag.display)

/-! ## The program -/

/-- Do what a command asks. -/
def perform : Action → Session Unit
  | .inject place dryRun strict => inject place dryRun strict
  | .preview place file => preview place file
  | .pages place => pages place
  | .check place => check place
  | .info place => info place

/-- What a run of the program leaves. -/
structure Result where
  /-- The exit status. -/
  status : Nat
  /-- The fault that ended the run, where one did. -/
  fault : Option Fault := none
  /-- What was shown. -/
  printed : List Printed := []
  /-- What was recorded, from the level that was asked for. -/
  records : List Record := []
  /-- The file tree. -/
  disk : Disk

/-- Run a command from its first line to its end. -/
def execute (level : Level) (action : Action) (disk : Disk) : Result :=
  let finish (t : Transcript) (status : Nat) (fault : Option Fault) : Result :=
    ⟨status, fault, t.printed, Record.atLeast level t.records, t.disk⟩
  match (perform action).run ⟨disk, [], []⟩ with
  | .ok _ t => finish t 0 none
  | .error (.exit status) t => finish t status none
  | .error (.fault cause) t => finish t 1 (some cause)

/-- Run the program. -/
def run (arguments : List Text) (disk : Disk) : Result :=
  match parse arguments with
  | .misuse => { status := 2, disk }
  | .help => { status := 0, disk }
  | .version => { status := 0, printed := [.text versionText], disk }
  | .act verbose action => execute (if verbose then .debug else .info) action disk

end Graft.Command
