import Graft.Markup
import Graft.Value.Writer

/-!
# What is injected

A spec names the component, says where it is imported from and under which name it is
registered, and holds what its tag is made of. The tag is written from the spec alone
(`Spec.tag`): the name, a reference, and the props in order. A prop that is a text is a
plain attribute; any other is a bound one whose value is JSON, with the two characters
that would end or change the attribute written as entities.
-/

namespace Graft

open Text

/-- What is injected, and how. -/
structure Spec where
  /-- The name the import binds. -/
  componentName : Text
  /-- The path of the import, as it is written in the script. -/
  importPath : Text
  /-- The name of the tag and the key of the registration. -/
  registerName : Text
  /-- Where in the markup the tag goes. -/
  position : Position := .rootEnd
  /-- The attributes of the tag, in order. -/
  props : List (Text × Value) := []
  /-- The tag has a reference. -/
  withRef : Bool := true
  /-- The name of the reference. -/
  refName : Text
  /-- A text to insert in place of the tag. An empty one counts as none. -/
  customTemplate : Option Text := none

namespace Spec

/-- An attribute and its value. -/
def assign (key value : Text) : Text := key ++ "=\"".toList ++ value ++ ['"']

/-- A JSON text as the value of an attribute. -/
def entities (t : Text) : Text :=
  replaceChar '"' "&quot;".toList (replaceChar '&' "&amp;".toList t)

/-- A prop as an attribute. -/
def prop (key : Text) : Value → Text
  | .str t => assign key t
  | v => assign (':' :: key) (entities v.json)

/-- A tag with its attributes and no content. -/
def element (name : Text) (attributes : List Text) : Text :=
  ['<'] ++ join [' '] (name :: attributes) ++ "></".toList ++ name ++ ['>']

/-- The tag that is written when there is no custom template. -/
def plainTag (s : Spec) : Text :=
  let ref := if s.withRef then [assign "ref".toList s.refName] else []
  element s.registerName (ref ++ s.props.map fun (key, v) => prop key v)

/-- The text that goes into the markup. -/
def tag (s : Spec) : Text :=
  match s.customTemplate with
  | some (c :: rest) => c :: rest
  | _ => s.plainTag

end Spec

end Graft
