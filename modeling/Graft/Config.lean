import Graft.Log
import Graft.Options

/-!
# Configuration files

The options file and the page manifest are JSON files of the project. Reading one fails
in three ways that are told apart: the file is not there, the text is not JSON, and
everything else that keeps a file from being read. A manifest that is not there is no
fault: there are then no pages, and a warning says so.
-/

namespace Graft

open Text

/-- The value in a file. -/
def Disk.readValue (disk : Disk) (p : Path) : Except Fault Value := do
  let t ← disk.readText p
  match Value.parse t disk.room with
  | .ok v => return v
  | .error error => .error (.ofReadError (.malformed p error) error)

/-- The options in a file. -/
def Options.load (disk : Disk) (p : Path) : Except Fault Options := do
  if ← disk.isThere p then Options.ofValue (← disk.readValue p)
  else .error (.config (.fileMissing p))

/-- A path below a directory that an option gives as a value. -/
def pathFrom (base : Path) : Value → Except Fault Path
  | .str t => .ok (base.appendText t)
  | v => .error (.misuse (.asPath v))

namespace Targets

/-- The targets of the manifest in a file that is there. -/
def ofFile (disk : Disk) (p : Path) (included excluded : Value) : Except Fault Targets := do
  match ← disk.readValue p with
  | .object fields => ofManifest (.object fields) included excluded
  | _ => .error (.config (.manifestNotObject p))

/-- The targets of the manifest in a file, and the records that reading it leaves. -/
def load (disk : Disk) (p : Path) (included excluded : Value) :
    List Record × Except Fault Targets :=
  match disk.isThere p with
  | .error fault => ([], .error fault)
  | .ok false => ([⟨.warning, .pages, "pages.json not found at ".toList ++ p.toText⟩], .ok {})
  | .ok true =>
    match ofFile disk p included excluded with
    | .error fault => ([], .error fault)
    | .ok targets =>
      ([⟨.info, .pages,
          "Found ".toList ++ ofNat targets.all.length ++ " pages, ".toList ++
            ofNat targets.selected.length ++ " will be processed".toList⟩],
        .ok targets)

end Targets

end Graft
