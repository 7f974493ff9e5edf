import Graft.Script.Registration
import Graft.Spec

/-!
# Injecting into a document

Three steps put a component into a document: its tag into the markup, its import into
the script, and its registration. A document without markup, or one in which the
component already stands, is left as it is.
-/

namespace Graft.Spec

/-- The component already stands in the document. -/
def isPresent (s : Spec) (code : Text) : Bool :=
  Markup.hasComponent code s.registerName s.customTemplate

/-- The document after the first two steps: the tag and the import. -/
def imported (s : Spec) (code : Text) : Text :=
  Script.Import.add (Markup.insert code s.tag s.position) s.componentName s.importPath

/-- The document after all three steps. -/
def inserted (s : Spec) (code : Text) : Text :=
  Script.register (s.imported code) s.componentName s.registerName

/-- Put the component into a document. -/
def inject (s : Spec) (code : Text) : Text :=
  if !Markup.isPresent code || s.isPresent code then code else s.inserted code

/-- The rule that mends the script on the way, which only a setup script needs. -/
def repair? (s : Spec) (code : Text) : Option Script.Repair.Rule :=
  match (Script.detect (s.imported code)).dialect with
  | .setup => Script.Repair.ruleFor? (s.imported code)
  | _ => none

end Graft.Spec
