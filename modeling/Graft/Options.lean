import Graft.Component
import Graft.Draft

/-!
# Options

An options file says which component goes where. Only the path of the component is
required: its name, the name of its tag and that of its reference come from the path
when they are not given. A key may be written in camel case or with underscores, and of
two spellings of one option the later one counts.

Options become a draft of what is injected (`Options.draft`), and have a summary of
their own for display (`Options.summary`), in which every default is filled in.
-/

namespace Graft

open Text

/-- Options for injecting one component into the pages of a project. -/
structure Options where
  /-- The path of the component, as it is imported. -/
  componentPath : Value
  /-- The name the import binds. -/
  componentName : Value := .null
  /-- The name of the tag and the key of the registration. -/
  registerName : Value := .null
  /-- Where in the markup the tag goes. -/
  position : Position := .rootEnd
  /-- Fragments of the pages to keep. -/
  included : List Value := []
  /-- Fragments of the pages to drop. -/
  excluded : List Value := []
  /-- The attributes of the tag, in order. -/
  props : List (Text × Value) := []
  /-- The tag has a reference, if this counts as true. -/
  withRef : Value := .bool true
  /-- The name of the reference. -/
  refName : Value := .null
  /-- What is inserted in place of the tag, if it counts as true. -/
  customTemplate : Value := .null
  /-- The path of the page manifest. -/
  pagesJson : Value := .str "src/pages.json".toList
  /-- The directory of the component documents. -/
  sourceDir : Value := .str "src".toList
  /-- What the first part of the component's path may stand for. -/
  aliases : Value := .object []

namespace Options

/-! ## Reading options -/

/-- The names of the options. -/
def names : List Text :=
  ["component_path", "component_name", "register_name", "insert_position", "include", "exclude",
    "props", "with_ref", "ref_name", "custom_template", "pages_json", "source_dir",
    "aliases"].map String.toList

/-- The options that can also be written in camel case. -/
def camelNames : List (Text × Text) :=
  [("componentPath", "component_path"), ("componentName", "component_name"),
    ("registerName", "register_name"), ("insertPosition", "insert_position"),
    ("withRef", "with_ref"), ("refName", "ref_name"), ("customTemplate", "custom_template"),
    ("pagesJson", "pages_json"), ("sourceDir", "source_dir")].map
    fun (camel, name) => (camel.toList, name.toList)

/-- The option a key stands for. -/
def nameOfKey? (key : Text) : Option Text :=
  let name := (camelNames.lookup key).getD key
  if names.contains name then some name else none

/-- The options that are given, each under its name. The first key that stands for none
is a fault. -/
def collect (given : List (Text × Value)) :
    List (Text × Value) → Except Fault (List (Text × Value))
  | [] => .ok given
  | (key, v) :: rest =>
    match nameOfKey? key with
    | some name => collect (Value.setField name v given) rest
    | none => .error (.config (.unknownOption key))

/-- The position an option asks for. -/
def readPosition (v : Value) : Except Fault Position :=
  match v.text?.bind Position.ofName? with
  | some position => .ok position
  | none => .error (.config (.position v))

/-- The props of an option. -/
def readProps : Value → Except Fault (List (Text × Value))
  | .object fields => .ok fields
  | _ => .error (.config .props)

/-- The fragments of an option. A single text stands for a list of one. -/
def readFragments (name : Text) : Value → Except Fault (List Value)
  | .str t => .ok [.str t]
  | .list elements => .ok elements
  | _ => .error (.config (.fragments name))

/-- Options from those that are given. -/
def ofGiven (given : List (Text × Value)) : Except Fault Options :=
  let get (name : String) (fallback : Value) : Value := (given.lookup name.toList).getD fallback
  let componentPath := get "component_path" .null
  if !componentPath.isTruthy then .error (.config .pathRequired)
  else do
    let position ← readPosition (get "insert_position" (.str Position.rootEnd.name))
    let props ← readProps (get "props" (.object []))
    let included ← readFragments "include".toList (get "include" (.list []))
    let excluded ← readFragments "exclude".toList (get "exclude" (.list []))
    let standard : Options := { componentPath }
    return { componentPath, position, props, included, excluded
             componentName := get "component_name" .null
             registerName := get "register_name" .null
             withRef := get "with_ref" (.bool true)
             refName := get "ref_name" .null
             customTemplate := get "custom_template" .null
             pagesJson := get "pages_json" standard.pagesJson
             sourceDir := get "source_dir" standard.sourceDir
             aliases := get "aliases" (.object []) }

/-- Options from a value. -/
def ofValue : Value → Except Fault Options
  | .object fields => do ofGiven (← collect [] fields)
  | _ => .error (.config .notObject)

/-! ## What is injected -/

/-- The name of the component: the one that is given, or the one of its file. -/
def name (o : Options) : Except Fault Value :=
  if o.componentName.isTruthy then .ok o.componentName
  else Component.nameOfValue o.componentPath

/-- The draft the options ask for. -/
def draft (o : Options) : Except Fault Draft := do
  let name ← o.name
  if !name.isTruthy then .error (.config (.noName o.componentPath))
  else
    Draft.complete
      { componentName := name
        importPath := o.componentPath
        registerName := o.registerName.orElse name
        props := .object o.props
        withRef := o.withRef
        refName := o.refName.orElse name
        customTemplate := o.customTemplate } (.str o.position.name)

/-! ## The summary -/

/-- Give a key of a dictionary a value: at the place of the key that is the same, or at
the end. -/
def setKey (key v : Value) : List (Value × Value) → List (Value × Value)
  | [] => [(key, v)]
  | (k, w) :: rest => if k.same key then (k, v) :: rest else (k, w) :: setKey key v rest

/-- A dictionary from pairs, counted from `index`. -/
def ofPairs (index : Nat) (seen : List (Value × Value)) :
    List Value → Except Fault (List (Value × Value))
  | [] => .ok seen
  | pair :: rest =>
    match pair.elements? with
    | none => .error (.misuse (.asSequence pair))
    | some [key, v] =>
      if key.isScalar then ofPairs (index + 1) (setKey key v seen) rest
      else .error (.misuse (.asKey key))
    | some elements => .error (.content (.pairLength index elements.length))

/-- The dictionary a value stands for: an object, or a sequence of pairs. -/
def dictionary : Value → Except Fault (List (Value × Value))
  | .object fields => .ok (fields.map fun (key, v) => (.str key, v))
  | v => do ofPairs 0 [] (← v.sequence)

/-- A key of a dictionary as JSON needs it, a text. -/
def keyText : Value → Text
  | .str t => t
  | v => v.json

/-- The options with every default filled in, for display. -/
structure Summary where
  /-- All options but the aliases, under their names. -/
  fields : List (Text × Value)
  /-- The aliases. -/
  aliases : List (Value × Value)

/-- The options with every default filled in. -/
def summary (o : Options) : Except Fault Summary := do
  let name ← o.name
  let aliases ← dictionary o.aliases
  return {
    fields :=
      [("component_path".toList, o.componentPath),
        ("component_name".toList, name),
        ("register_name".toList, o.registerName.orElse name),
        ("insert_position".toList, .str o.position.name),
        ("include".toList, .list o.included),
        ("exclude".toList, .list o.excluded),
        ("props".toList, .object o.props),
        ("with_ref".toList, o.withRef),
        ("ref_name".toList, o.refName.orElse name),
        ("custom_template".toList, o.customTemplate),
        ("pages_json".toList, o.pagesJson),
        ("source_dir".toList, o.sourceDir)]
    aliases := aliases }

/-- The summary as a value. -/
def Summary.toValue (s : Summary) : Value :=
  .object (s.fields ++
    [("aliases".toList, .object (s.aliases.map fun (key, v) => (keyText key, v)))])

/-- The aliases as messages show them. -/
def Summary.aliasText (s : Summary) : Text :=
  ['{'] ++
    join Value.comma (s.aliases.map fun (key, v) => key.literal ++ ": ".toList ++ v.literal) ++
    ['}']

/-- The options and their values, as they are shown. -/
def Summary.rows (s : Summary) : List (Text × Text) :=
  s.fields.map (fun (name, v) => (name, v.display)) ++ [("aliases".toList, s.aliasText)]

end Options

end Graft
