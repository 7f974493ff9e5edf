import Graft.Path

/-!
# Command-line arguments

The arguments name a command and its options. An option has a long name after two
dashes and may have a letter after one; letters can be written together, and a value
stands right after the letter, after an equals sign, or as the next argument. Two
dashes alone end the options.

Options before the command are the program's own, and the first argument that is none
is the command. Within a command, options and other arguments may be mixed.

How arguments are written is settled by the library that reads them for the program, and
this module follows it. What is proved of runs is said of a command and its options
(`Action`), and holds for any other way of writing them.
-/

namespace Graft.Command

open Text

/-- An option. -/
structure Switch where
  /-- Its long name, without dashes. -/
  name : Text
  /-- Its letter. -/
  letter : Option Char := none
  /-- It has a value. -/
  valued : Bool := false

/-- What one argument says. -/
inductive Reading where
  /-- Nothing that is known. -/
  | unknown
  /-- Options, each with its value, or an empty text where it has none. -/
  | options (found : List (Text × Text))
  /-- Options, and one more whose value is the next argument. -/
  | pending (found : List (Text × Text)) (name : Text)

/-- Options in front of what is read. -/
def Reading.after (name : Text) : Reading → Reading
  | .unknown => .unknown
  | .options found => .options ((name, []) :: found)
  | .pending found last => .pending ((name, []) :: found) last

/-- Read a long name, with a value where there is an equals sign. -/
def readLong (switch : Switch) (value : Option Text) : Reading :=
  match value, switch.valued with
  | some v, true => .options [(switch.name, v)]
  | none, true => .pending [] switch.name
  | some _, false => .unknown
  | none, false => .options [(switch.name, [])]

/-- Read letters that are written together. -/
def readLetters (switches : List Switch) : Text → Reading
  | [] => .options []
  | c :: rest =>
    match switches.find? fun s => s.letter == some c with
    | none => .unknown
    | some switch =>
      if !switch.valued then (readLetters switches rest).after switch.name
      else if rest.isEmpty then .pending [] switch.name
      else .options [(switch.name, rest)]

/-- Read an argument that starts with a dash. -/
def read (switches : List Switch) (argument : Text) : Reading :=
  let (name, value) := match cut? ['='] argument with
    | some (before, after) => (before, some after)
    | none => (argument, none)
  match switches.find? fun s => "--".toList ++ s.name == name with
  | some switch => readLong switch value
  | none =>
    if startsWith argument "--".toList then .unknown
    else readLetters switches (argument.drop 1)

/-- Options with their values, in order, and the other arguments. -/
structure Scan where
  /-- The options. -/
  options : List (Text × Text) := []
  /-- The other arguments. -/
  others : List Text := []

/-- Read arguments. Unless options and others are mixed, the first other argument ends
the options. -/
def scan (switches : List Switch) (mixed : Bool) : List Text → Option Scan
  | [] => some {}
  | argument :: rest =>
    if argument = "--".toList then some { others := rest }
    else if startsWith argument ['-'] && argument.length != 1 then
      match read switches argument with
      | .unknown => none
      | .options found =>
        (scan switches mixed rest).map fun s => { s with options := found ++ s.options }
      | .pending found name =>
        match rest with
        | [] => none
        | value :: more =>
          (scan switches mixed more).map fun s =>
            { s with options := found ++ [(name, value)] ++ s.options }
    else if mixed then
      (scan switches mixed rest).map fun s => { s with others := argument :: s.others }
    else some { others := argument :: rest }

namespace Scan

/-- An option is given. -/
def has (s : Scan) (name : String) : Bool := s.options.any fun o => o.1 == name.toList

/-- The last value an option is given. -/
def value? (s : Scan) (name : String) : Option Text := s.options.reverse.lookup name.toList

end Scan

/-- Where a command works: the project and its options file. -/
structure Place where
  /-- The directory of the project. -/
  root : Path := ⟨[], []⟩
  /-- The options file, where it is not the usual one. -/
  config : Option Path := none
deriving DecidableEq, Repr

/-- A command with its options. -/
inductive Action where
  /-- Put the component into every selected page. -/
  | inject (place : Place) (dryRun strict : Bool)
  /-- Show one document as it would become. -/
  | preview (place : Place) (file : Path)
  /-- List the pages. -/
  | pages (place : Place)
  /-- Look the project over. -/
  | check (place : Place)
  /-- Show the options and the tag. -/
  | info (place : Place)
deriving DecidableEq, Repr

/-- What the arguments ask for. -/
inductive Request where
  /-- They cannot be understood. -/
  | misuse
  /-- The usage of the program or a command. -/
  | help
  /-- The version of the program. -/
  | version
  /-- A command, with or without a detailed log. -/
  | act (verbose : Bool) (action : Action)
deriving DecidableEq, Repr

/-- The options of the program itself. -/
def programSwitches : List Switch :=
  [⟨"version".toList, some 'v', false⟩, ⟨"verbose".toList, none, false⟩,
    ⟨"help".toList, none, false⟩]

/-- The options every command has. -/
def placeSwitches : List Switch :=
  [⟨"root".toList, some 'r', true⟩, ⟨"config".toList, some 'c', true⟩,
    ⟨"help".toList, none, false⟩]

/-- The options of the command that injects. -/
def injectSwitches : List Switch :=
  placeSwitches ++ [⟨"dry-run".toList, some 'n', false⟩, ⟨"strict".toList, none, false⟩]

/-- Where a command works. -/
def Scan.place (s : Scan) : Place :=
  { root := Path.ofText ((s.value? "root").getD [])
    config := (s.value? "config").map Path.ofText }

/-- The paths among the arguments of a command. All of its arguments that are no options
are paths. -/
def Scan.paths (s : Scan) : List Path :=
  s.place.root :: s.place.config.toList ++ s.others.map Path.ofText

/-- A command as it is asked for: its options, and what it makes of its arguments. -/
structure Form where
  /-- Its name. -/
  name : Text
  /-- Its options. -/
  switches : List Switch := placeSwitches
  /-- The command, where the arguments that are no options fit it. -/
  action? : Scan → Option Action

/-- A command that takes nothing but options. -/
def Form.bare (name : String) (switches : List Switch) (action : Scan → Action) : Form :=
  ⟨name.toList, switches, fun s => if s.others.isEmpty then some (action s) else none⟩

/-- The commands. -/
def forms : List Form :=
  [.bare "inject" injectSwitches fun s =>
      .inject s.place (s.has "dry-run") (s.has "strict"),
    ⟨"preview".toList, placeSwitches, fun s =>
      match s.others with
      | [file] => some (.preview s.place (Path.ofText file))
      | _ => none⟩,
    .bare "pages" placeSwitches fun s => .pages s.place,
    .bare "check" placeSwitches fun s => .check s.place,
    .bare "info" placeSwitches fun s => .info s.place]

/-- Read the arguments of a command. No path can have a null character. -/
def Form.request (form : Form) (verbose : Bool) (arguments : List Text) : Request :=
  match scan form.switches true arguments with
  | none => .misuse
  | some s =>
    if s.has "help" then .help
    else if s.paths.any Path.hasNull then .misuse
    else
      match form.action? s with
      | some action => .act verbose action
      | none => .misuse

/-- What the program's own options ask for, whatever the command: of the version and the
usage, the one that is asked for first. -/
def Scan.notice? (s : Scan) : Option Request :=
  (s.options.find? fun o => o.1 != "verbose".toList).map fun o =>
    if o.1 = "version".toList then .version else .help

/-- Read the arguments of the program. Where the first argument that is no option is no
command either, what it and those after it ask for as options is still given. -/
def parse (arguments : List Text) : Request :=
  match scan programSwitches false arguments with
  | none => .misuse
  | some s =>
    match s.notice?, s.others with
    | some notice, _ => notice
    | none, [] => .misuse
    | none, name :: rest =>
      match forms.find? fun form => form.name == name with
      | some form => form.request (s.has "verbose") rest
      | none => ((scan programSwitches false s.others).bind Scan.notice?).getD .misuse

end Graft.Command
