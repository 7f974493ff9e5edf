import Graft.Path
import Graft.Text.Utf8
import Graft.Value.Reader
import Graft.Value.Writer

/-!
# Faults

Everything that can stop the program before or while a document is looked at. A fault
is the cause, with what it is about; the wording is in one place (`Fault.message`).

Three kinds matter to those who handle them. A `config` fault is about the options file
or the page manifest, a `component` fault about the component's own file, and both are
reported to the user. The others mean that a value had a kind or a content that the
work cannot be done with, and end the run.
-/

namespace Graft

open Text

/-- The ending of component documents. -/
def documentSuffix : Text := ".vue".toList

/-- What is wrong with the options file or the page manifest. -/
inductive ConfigFault where
  /-- The options are no object. -/
  | notObject
  /-- A key stands for no option. -/
  | unknownOption (key : Text)
  /-- The path of the component is missing. -/
  | pathRequired
  /-- A value is no position. -/
  | position (given : Value)
  /-- The props are no object. -/
  | props
  /-- An option holds no list of fragments. -/
  | fragments (option : Text)
  /-- The path of the component gives it no name. -/
  | noName (path : Value)
  /-- The options file is not there. -/
  | fileMissing (path : Path)
  /-- A file is no JSON. -/
  | malformed (path : Path) (error : Value.ReadError)
  /-- The manifest is no object. -/
  | manifestNotObject (path : Path)

/-- What is wrong with the component's file. -/
inductive ComponentFault where
  /-- There is no path. -/
  | pathRequired
  /-- The path ends like that of another kind of file. -/
  | suffix (given : Text)
  /-- The file is not there. -/
  | missing (path : Path)
  /-- The file is not UTF-8. -/
  | unreadable (path : Path) (cause : Utf8.Fault)
  /-- The file has no markup region. -/
  | noMarkup (path : Path)

/-- A content that the work cannot be done with. -/
inductive ContentFault where
  /-- The component has no name. -/
  | emptyComponentName
  /-- The component is imported from nowhere. -/
  | emptyImportPath
  /-- A value is no position. -/
  | position (given : Value)
  /-- A word is no style of a script. -/
  | dialect (name : Text)
  /-- An element that should be a key and a value has another length. -/
  | pairLength (index length : Nat)
  /-- A path has no last name to put an ending on. -/
  | unnamed (path : Path)
  /-- An integer has too many digits. -/
  | tooLong (digits : Nat)
  /-- A text is no integer. -/
  | notInteger (t : Text)

/-- A use of a value that its kind does not allow. -/
inductive Misuse where
  /-- Its characters are asked for, and it is no text. -/
  | asText (v : Value)
  /-- A field is asked for, and it is no object. -/
  | asObject (v : Value)
  /-- It is looked for in a script, and it is no text. -/
  | asName (v : Value)
  /-- It is part of a tag, and it is no text. -/
  | asTagName (v : Value)
  /-- It is a path, and it is no text. -/
  | asPath (v : Value)
  /-- It is gone through, and it has no elements. -/
  | asSequence (v : Value)
  /-- Something is looked for in it, and it holds nothing. -/
  | asContainer (v : Value)
  /-- It is looked for in a text, and it is no text. -/
  | asFragment (v : Value)
  /-- It is a key, and it is a list or an object. -/
  | asKey (v : Value)
  /-- It is shown in a table, and it is no text. -/
  | asCell (v : Value)

/-- Why the program stops. -/
inductive Fault where
  /-- The options file or the page manifest. -/
  | config (cause : ConfigFault)
  /-- The component's file. -/
  | component (cause : ComponentFault)
  /-- A content that cannot be worked with. -/
  | content (cause : ContentFault)
  /-- A file that is not UTF-8. -/
  | encoding (cause : Utf8.Fault)
  /-- A directory that is read as a file. -/
  | directory (path : Path)
  /-- A file that is not there. -/
  | missing (path : Path)
  /-- A path that is too long, or has a name that is too long. -/
  | overlong (path : Path)
  /-- A value with too many lists and objects inside one another. -/
  | tooDeep
  /-- A use of a value that its kind does not allow. -/
  | misuse (cause : Misuse)
  /-- A closing mark in styled text that closes nothing. -/
  | styling (mark : Text)

/-- The fault of a text that is no JSON for a reason of its own. -/
def Fault.ofReadError (malformed : ConfigFault) : Value.ReadError → Fault
  | .tooLong digits => .content (.tooLong digits)
  | .tooDeep => .tooDeep
  | .malformed _ _ => .config malformed

/-- The words for a fault of the configuration. -/
def ConfigFault.message : ConfigFault → Text
  | .notObject => "Options must be a JSON object".toList
  | .unknownOption key => "Unknown option: ".toList ++ key
  | .pathRequired => "componentPath is required".toList
  | .position given =>
    "Invalid insertPosition '".toList ++ given.display ++
      "' (expected one of: before-content, after-content, root-end)".toList
  | .props => "props must be an object".toList
  | .fragments option => option ++ " must be a list of path fragments".toList
  | .noName path => "Cannot derive a component name from '".toList ++ path.display ++ ['\x27']
  | .fileMissing path => "Options file not found: ".toList ++ path.toText
  | .malformed path error =>
    "Invalid JSON in ".toList ++ path.toText ++ ": ".toList ++ error.message
  | .manifestNotObject path => path.toText ++ " must contain a JSON object".toList

/-- The words for a fault of the component's file. -/
def ComponentFault.message : ComponentFault → Text
  | .pathRequired => "componentPath is required".toList
  | .suffix given =>
    "Component must be a ".toList ++ documentSuffix ++ " file: ".toList ++ given
  | .missing path => "Component file not found: ".toList ++ path.toText
  | .unreadable path cause =>
    "Cannot read component file ".toList ++ path.toText ++ ": ".toList ++ cause.message
  | .noMarkup path => "File is not a valid Vue component: ".toList ++ path.toText

/-- The words for a content that cannot be worked with. -/
def ContentFault.message : ContentFault → Text
  | .emptyComponentName => "component_name must not be empty".toList
  | .emptyImportPath => "import_path must not be empty".toList
  | .position given => given.literal ++ " is not a valid InsertPosition".toList
  | .dialect name => "Unknown script dialect: ".toList ++ name
  | .pairLength index length =>
    "dictionary update sequence element #".toList ++ ofNat index ++ " has length ".toList ++
      ofNat length ++ "; 2 is required".toList
  | .unnamed path =>
    "PosixPath(".toList ++ quoteLiteral path.toText ++ ") has an empty name".toList
  | .tooLong digits => (Value.ReadError.tooLong digits).message
  | .notInteger t => "invalid literal for int() with base 10: ".toList ++ quoteLiteral t

/-- The words for a use that a value's kind does not allow. -/
def Misuse.message : Misuse → Text
  | .asText v => "not a text: ".toList ++ v.literal
  | .asObject v => "not an object: ".toList ++ v.literal
  | .asName v =>
    "decoding to str: need a bytes-like object, ".toList ++ v.kind ++ " found".toList
  | .asTagName v => "not a tag name: ".toList ++ v.literal
  | .asPath v => "not a path: ".toList ++ v.literal
  | .asSequence v => "not a sequence: ".toList ++ v.literal
  | .asContainer v => "not a container: ".toList ++ v.literal
  | .asFragment v => "not a fragment of a text: ".toList ++ v.literal
  | .asKey v => "not a key: ".toList ++ v.literal
  | .asCell v => "not a text to show: ".toList ++ v.literal

/-- The words a fault is reported with. -/
def Fault.message : Fault → Text
  | .config cause => cause.message
  | .component cause => cause.message
  | .content cause => cause.message
  | .encoding cause => cause.message
  | .directory path => "[Errno 21] Is a directory: ".toList ++ quoteLiteral path.toText
  | .missing path => "[Errno 2] No such file or directory: ".toList ++ quoteLiteral path.toText
  | .overlong path => "[Errno 36] File name too long: ".toList ++ quoteLiteral path.toText
  | .tooDeep => Value.ReadError.tooDeep.message
  | .misuse cause => cause.message
  | .styling mark => "closing tag '".toList ++ mark ++ "' doesn't match any open tag".toList

/-! ## Sequences that may fail -/

/-- A sequence has a result exactly if both of its parts have one. -/
theorem bind_eq_ok_iff {α β : Type} {x : Except Fault α} {f : α → Except Fault β} {b : β} :
    (x >>= f) = .ok b ↔ ∃ a, x = .ok a ∧ f a = .ok b := by
  cases x with
  | error fault => simp [bind, Except.bind]
  | ok a => simp [bind, Except.bind]

instance {α : Type} {x : Except Fault α} {P : α → Prop} [DecidablePred P] :
    Decidable (∃ a, x = .ok a ∧ P a) :=
  match x with
  | .ok a => decidable_of_iff (P a) (by simp)
  | .error _ => isFalse (by simp)

end Graft
