import Graft.Script.Info

/-!
# Repairing the end of a script

A setup script that was edited before may end in a stray comma or brace. Four rules
look at the very end of its body, trailing blanks aside, and the first one that
applies is applied once. The rules are lexical: a brace inside a string counts like
any other.

The blanks at the end of the body stay, so the end tag stays where it was.
-/

namespace Graft.Script

open Text

namespace Repair

/-- A way in which the end of a script can be mended. -/
inductive Rule where
  /-- A comma between two closing braces goes. -/
  | doubledClose
  /-- A comma before the last closing brace goes. -/
  | commaBeforeClose
  /-- A comma after the last closing brace goes. -/
  | commaAfterClose
  /-- The last closing brace goes when more braces close than open. -/
  | extraClose
deriving DecidableEq, Repr

namespace Rule

/-- The rules in the order in which they are tried. -/
def all : List Rule := [.doubledClose, .commaBeforeClose, .commaAfterClose, .extraClose]

/-- The name a rule is reported under. -/
def name : Rule → Text
  | .doubledClose => "doubled-close".toList
  | .commaBeforeClose => "comma-before-close".toList
  | .commaAfterClose => "comma-after-close".toList
  | .extraClose => "extra-close".toList

/-- The rule with a name. -/
def ofName? (name : Text) : Option Rule := all.find? fun rule => rule.name == name

/-- What a rule looks for before the blanks at the end. -/
def shape : Rule → Pattern
  | .doubledClose => Pattern.exactly ['}', ','] ++ Pattern.blanks ++ Pattern.exactly ['}']
  | .commaBeforeClose => Pattern.exactly [','] ++ Pattern.blanks ++ Pattern.exactly ['}']
  | .commaAfterClose => Pattern.exactly ['}'] ++ Pattern.blanks ++ Pattern.exactly [',']
  | .extraClose => Pattern.exactly ['}']

/-- What a rule puts in place of what it found. -/
def replacement : Rule → Text
  | .doubledClose => ['}', '}']
  | .commaBeforeClose => ['}']
  | .commaAfterClose => ['}']
  | .extraClose => []

/-- A rule may ask more of the body than its shape. -/
def admits (rule : Rule) (body : Text) : Bool :=
  match rule with
  | .extraClose => body.count '{' < body.count '}'
  | _ => true

/-- The body mended by one rule, where the rule applies. -/
def mend? (rule : Rule) (body : Text) : Option Text :=
  match Pattern.search? [rule.shape ++ Pattern.blanks ++ [.finish]] body with
  | none => none
  | some cut =>
    if rule.admits body then
      some (cut.before ++ rule.replacement ++ blankTail cut.found ++ cut.after)
    else none

end Rule

/-- The body ends in a comma or a closing brace, blanks aside. -/
def isSuspect (body : Text) : Bool :=
  match (trimRight body).getLast? with
  | some c => c == ',' || c == '}'
  | none => false

/-- The first rule that applies, and the body it leaves. -/
def first? (body : Text) : Option (Rule × Text) :=
  if isSuspect body then Rule.all.findSome? fun rule => (rule.mend? body).map (rule, ·)
  else none

/-- The body after the first rule that applies, or as it was. -/
def mend (body : Text) : Text :=
  match first? body with
  | some (_, mended) => mended
  | none => body

/-- The rule that mends the script of a document. -/
def ruleFor? (code : Text) : Option Rule :=
  (region? code).bind fun region => (first? region.body).map Prod.fst

end Repair

/-- The document with the end of its script mended. An unclosed script is left alone. -/
def repairTail (code : Text) : Text :=
  match region? code with
  | none => code
  | some region => region.head ++ Repair.mend region.body ++ region.tail

/-- The document with the text between two given offsets mended. -/
def repairTailAt (info : Info) (code : Text) : Text :=
  if !info.hasScript || info.stop == -1 then code
  else
    match Repair.first? (info.body code) with
    | none => code
    | some (_, mended) => code.take info.start.toNat ++ mended ++ code.drop info.stop.toNat

end Graft.Script
