import Graft.Script.Import
import Graft.Script.Repair

/-!
# Registration

An options script shows the markup only the components of its `components` map. What
is done to register one depends on the shape of the script: without a default export
one is appended, an export without a map gets one, and a map gets one more entry.
Each of the three is an edit of the script's body. A setup script registers nothing;
only its end is mended.

The shapes are recognised lexically, and a map or an export that is not written out
as a literal is left alone.
-/

namespace Graft.Script

open Text

namespace Registration

/-- The shape of a script as far as registration is concerned. -/
inductive State where
  /-- Nothing is exported. -/
  | noExport
  /-- A component is exported, without a `components` key. -/
  | exported
  /-- There is an export and a `components` key. -/
  | mapped
deriving DecidableEq, Repr

/-- A `components` key, up to its colon. -/
def keyPattern : Pattern :=
  .edge :: Pattern.exactly "components".toList ++ Pattern.blanks ++ Pattern.exactly [':']

/-- The shape of a body that is known to export something or not. -/
def State.of (exports : Bool) (body : Text) : State :=
  if !exports then .noExport
  else if Pattern.occurs [keyPattern] body then .mapped
  else .exported

/-- The shape of a document's script by the facts about it. -/
def state (info : Info) (code : Text) : State := State.of info.hasExport (info.body code)

/-- A plain identifier, which can be a key without quotes. -/
def isIdentifier : Text → Bool
  | [] => false
  | c :: rest =>
    (c.isAlpha || c == '_' || c == '$') && rest.all fun d => isWord d || d == '$'

/-- The key a name has in the map: quoted unless it is a plain identifier. -/
def key (registerName : Text) : Text :=
  if isIdentifier registerName then registerName
  else ['\x27'] ++ registerName ++ ['\x27']

/-- The map entry of a component. -/
def entry (name registerName : Text) : Text := key registerName ++ ": ".toList ++ name

/-- A `components` key with a literal map, which runs to the first closing brace. -/
def mapPattern : Pattern :=
  keyPattern ++ Pattern.blanks ++ Pattern.exactly ['{'] ++ [.many (· != '}')] ++
    Pattern.exactly ['}']

/-- The content of a literal map: what stands between its braces. -/
def mapContent (found : Text) : Text := ((found.dropWhile (· != '{')).drop 1).dropLast

/-- A text holds a name as a whole word. -/
def mentions (name content : Text) : Bool :=
  Pattern.occurs [.edge :: Pattern.exactly name ++ [.edge]] content

/-- A map's content with one more entry. -/
def extend (content name registerName : Text) : Text :=
  let kept := trimRight content
  let comma := if kept.isEmpty || kept.getLast? == some ',' then [] else [',']
  kept ++ comma ++ [' '] ++ entry name registerName

/-- Add an entry to the first literal map, unless the map mentions the name. -/
def mergeIntoMap (body name registerName : Text) : Text :=
  match Pattern.search? [mapPattern] body with
  | none => body
  | some cut =>
    let content := mapContent cut.found
    if mentions name content then body
    else
      cut.before ++ "components: \x7b".toList ++ extend content name registerName ++ ['}'] ++
        cut.after

/-- A call of the function that defines a component, up to its argument. -/
def callPattern : Pattern :=
  Pattern.exactly "defineComponent".toList ++ Pattern.blanks ++ Pattern.exactly ['('] ++
    Pattern.blanks

/-- The opening of a default export that is an object literal, alone or as the argument
of a call. -/
def exportPatterns : List Pattern :=
  let exported := Pattern.exactly "export".toList ++ Pattern.spacing ++
    Pattern.exactly "default".toList ++ Pattern.spacing
  [exported ++ callPattern ++ Pattern.exactly ['{'], exported ++ Pattern.exactly ['{']]

/-- The body cut around the opening of its exported object. A bare call counts only
where no default export is written out. -/
def exportOpening? (body : Text) : Option Cut :=
  match Pattern.search? exportPatterns body with
  | some cut => some cut
  | none => Pattern.search? [callPattern ++ Pattern.exactly ['{']] body

/-- Give the exported object a map with one entry. -/
def addMap (body name registerName : Text) : Text :=
  match exportOpening? body with
  | none => body
  | some cut =>
    let rest := trimLeft cut.after
    let comma := if rest.isEmpty || rest.head? == some '}' then [] else [',']
    cut.before ++ cut.found ++ "\n  components: \x7b\n    ".toList ++ entry name registerName ++
      "\n  \x7d".toList ++ comma ++ cut.after

/-- A default export with a map of one entry. -/
def exportText (typed : Bool) (name registerName : Text) : Text :=
  let map := "  components: \x7b\n    ".toList ++ entry name registerName ++ "\n  \x7d\n".toList
  if typed then "\nexport default defineComponent(\x7b\n".toList ++ map ++ "\x7d)\n".toList
  else "\nexport default \x7b\n".toList ++ map ++ "\x7d\n".toList

/-- The import a typed export needs. -/
def defineImport : Text := "import \x7b defineComponent \x7d from 'vue';\n".toList

/-- Append a default export. In a typed document it is made by a call, whose import is
added unless the document has it. -/
def appendExport (code body name registerName : Text) : Text :=
  let typed := isTyped code
  let imported :=
    if typed && !Import.present code "defineComponent".toList then '\n' :: defineImport else []
  imported ++ body ++ exportText typed name registerName

/-- The body of an options script with the component registered. -/
def edit (code body name registerName : Text) : Text :=
  match State.of (hasExport body) body with
  | .mapped => mergeIntoMap body name registerName
  | .exported => addMap body name registerName
  | .noExport => appendExport code body name registerName

end Registration

/-- Register an imported component under a name, as the style of the script asks. An
unclosed script is left alone. -/
def register (code name registerName : Text) : Text :=
  match (detect code).dialect with
  | .absent => code
  | .setup => repairTail code
  | .options =>
    match region? code with
    | none => code
    | some region =>
      region.head ++ Registration.edit code region.body name registerName ++ region.tail

end Graft.Script
