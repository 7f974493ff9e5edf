import Graft.Script.Region

/-!
# Facts about a script

`Info` is the summary of a document's script that the steps decide by: whether there
is one, in which style it is written, whether it is typed and exports something, and
the two offsets between which its body stands. An offset of -1 says that there is no
such place: both without a script, the second one when the region is not closed.
-/

namespace Graft.Script

open Text

/-- The style of a script. -/
inductive Dialect where
  /-- Top-level bindings are visible in the markup; nothing has to be registered. -/
  | setup
  /-- Components are listed in the `components` map of the default export. -/
  | options
  /-- The document has no script. -/
  | absent
deriving DecidableEq, Repr

namespace Dialect

/-- The word for a style. -/
def name : Dialect → Text
  | .setup => "SETUP".toList
  | .options => "OPTIONS".toList
  | .absent => "NONE".toList

/-- The style a word stands for. -/
def ofName? (name : Text) : Option Dialect :=
  [Dialect.setup, .options, .absent].find? fun dialect => dialect.name == name

end Dialect

/-- What is known of a document's script. -/
structure Info where
  /-- There is a start tag. -/
  hasScript : Bool := false
  /-- The start tag names `setup`. -/
  isSetup : Bool := false
  /-- The document says that its script is typed. -/
  isTyped : Bool := false
  /-- The script exports a component. -/
  hasExport : Bool := false
  /-- The offset right after the start tag. -/
  start : Int := -1
  /-- The offset of the last end tag. -/
  stop : Int := -1
deriving DecidableEq, Repr

namespace Info

/-- The style the facts stand for. -/
def dialect (info : Info) : Dialect :=
  if !info.hasScript then .absent else if info.isSetup then .setup else .options

/-- The text between the two offsets, empty unless they stand in order. -/
def body (info : Info) (code : Text) : Text :=
  if info.start < 0 ∨ info.stop < info.start then []
  else (code.take info.stop.toNat).drop info.start.toNat

end Info

/-- The facts about a document's script. An unclosed script runs to the end of the
document when its exports are looked for. -/
def detect (code : Text) : Info :=
  match startTag? code with
  | none => { isTyped := isTyped code }
  | some tag =>
    let start := tag.before.length + tag.found.length
    let found : Info :=
      { hasScript := true
        isSetup := declaresSetup (attributes tag.found)
        isTyped := isTyped code
        start := start }
    match cutLast? endTag tag.after with
    | none => { found with hasExport := hasExport tag.after }
    | some (body, _) => { found with hasExport := hasExport body, stop := start + body.length }

end Graft.Script
