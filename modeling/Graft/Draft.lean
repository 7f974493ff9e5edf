import Graft.Outcome

/-!
# Drafts

A draft is a spec as it is asked for: its parts are values of any kind, because options
are not checked beyond what they are needed for. Where the names and the custom
template are texts and the props are an object, a draft is a spec (`Draft.spec?`) and
behaves as that spec. The props must be an object wherever the tag is made of them, so
that a draft without a tag treats no document at all. Where a name or the template is no
text, the document is never changed: treating it either finds a reason to leave it alone
before the odd value matters, or fails (`Draft.transformOdd`).
-/

namespace Graft

open Text

/-- A spec whose parts may be values of any kind. -/
structure Draft where
  /-- The name the import binds. -/
  componentName : Value
  /-- The path of the import. -/
  importPath : Value
  /-- The name of the tag and the key of the registration. -/
  registerName : Value := .str []
  /-- Where in the markup the tag goes. -/
  position : Position := .rootEnd
  /-- The attributes of the tag, in order. -/
  props : Value := .object []
  /-- The tag has a reference, if this counts as true. -/
  withRef : Value := .bool true
  /-- The name of the reference. -/
  refName : Value := .str []
  /-- What is inserted in place of the tag, if it counts as true. -/
  customTemplate : Value := .null

/-- The position a value asks for. -/
def Position.ofValue (v : Value) : Except Fault Position :=
  match v.text?.bind ofName? with
  | some position => .ok position
  | none => .error (.content (.position v))

namespace Draft

/-- A draft with its defaults filled in, at a position that is still a value. The
component's name stands in for a missing tag name or reference name. -/
def complete (d : Draft) (position : Value) : Except Fault Draft :=
  if !d.componentName.isTruthy then .error (.content .emptyComponentName)
  else if !d.importPath.isTruthy then .error (.content .emptyImportPath)
  else do
    let position ← Position.ofValue position
    return { d with
      registerName := d.registerName.orElse d.componentName
      refName := d.refName.orElse d.componentName
      position := position }

/-- The custom template as a text, where it is one or counts as none. -/
def template? (d : Draft) : Option (Option Text) :=
  match d.customTemplate with
  | .str t => some (some t)
  | v => if v.isTruthy then none else some none

/-- The props of the tag. A custom template has none, whatever they are. -/
def fields (d : Draft) : Except Fault (List (Text × Value)) :=
  match d.props with
  | .object fields => .ok fields
  | v => if d.customTemplate.isTruthy then .ok [] else .error (.misuse (.asObject v))

/-- The draft as a spec. The import path and the name of the reference are only ever
shown, so they can be values of any kind. -/
def spec? (d : Draft) : Option Spec :=
  match d.componentName, d.registerName, d.template?, d.fields with
  | .str componentName, .str registerName, some customTemplate, .ok props =>
    some
      { componentName, registerName, customTemplate, props
        importPath := d.importPath.display
        position := d.position
        withRef := d.withRef.isTruthy
        refName := d.refName.display }
  | _, _, _, _ => none

/-- What goes into the markup. A custom template is taken as it is, whatever its kind;
otherwise the tag's name has to be a text. -/
def tag (d : Draft) : Except Fault Value :=
  if d.customTemplate.isTruthy then .ok d.customTemplate
  else do
    let props ← d.fields
    match d.registerName with
    | .str registerName =>
      let s : Spec :=
        { componentName := [], importPath := [], registerName, props
          withRef := d.withRef.isTruthy, refName := d.refName.display }
      return .str s.plainTag
    | v => .error (.misuse (.asTagName v))

/-- Whether the component stands in a document, for a draft that may not be a spec. -/
def isPresent (d : Draft) (code : Text) : Except Fault Bool :=
  match d.registerName with
  | .str name =>
    if Markup.hasName code name then .ok true
    else
      match d.template? with
      | some template => .ok (Markup.hasTemplate code template)
      | none => .error (.misuse (.asText d.customTemplate))
  | v => .error (.misuse (.asText v))

/-- Treat a document with a draft that is no spec. -/
def transformOdd (d : Draft) (docId code : Text) (targets : Option Targets) :
    Except Fault Outcome :=
  match Outcome.refusal? docId code targets with
  | some reason => .ok (.skip docId code reason)
  | none =>
    match d.isPresent code with
    | .error fault => .error fault
    | .ok true => .ok (.skip docId code .alreadyPresent)
    | .ok false =>
      .ok ⟨docId, code, .failed (Fault.misuse (.asName d.componentName)).message⟩

/-- Treat one document. -/
def transform (d : Draft) (docId code : Text) (targets : Option Targets) :
    Except Fault Outcome :=
  match d.spec? with
  | some s => .ok (s.transform docId code targets)
  | none => d.transformOdd docId code targets

/-- The records that treating a document leaves. -/
def records (d : Draft) (code : Text) (outcome : Outcome) : List Record :=
  outcome.records d.registerName.display (d.spec?.bind fun s => s.repair? code)

end Draft

end Graft
