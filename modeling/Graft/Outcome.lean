import Graft.Injection
import Graft.Log
import Graft.Targets

/-!
# Transforming documents

`Spec.transform` decides whether a document is to receive the component, and injects it.
What comes back is an outcome: the document with the component, or the document as it
was and the reason for that. Each document is treated by itself, so a report over many
documents is the list of their outcomes.
-/

namespace Graft

open Text

/-- Why a document is left as it is. -/
inductive SkipReason where
  /-- Its name does not end like that of a component document. -/
  | notComponent
  /-- It belongs to no target page. -/
  | notTarget
  /-- It has no markup region. -/
  | noMarkup
  /-- The component already stands in it. -/
  | alreadyPresent
  /-- Injecting changed nothing. -/
  | unchanged
deriving DecidableEq, Repr

/-- What became of a document. -/
inductive Verdict where
  /-- The component was put in. -/
  | injected
  /-- The document was left alone. -/
  | skipped (reason : SkipReason)
  /-- The document could not be treated. -/
  | failed (message : Text)
deriving DecidableEq, Repr

/-- The word for a reason. -/
def SkipReason.name : SkipReason → Text
  | .notComponent => "not-component".toList
  | .notTarget => "not-target".toList
  | .noMarkup => "no-markup".toList
  | .alreadyPresent => "already-present".toList
  | .unchanged => "unchanged".toList

/-- The word for a document that could not be treated. -/
def Verdict.failedName : Text := "failed".toList

/-- The word for the reason why a document did not change. -/
def Verdict.reason? : Verdict → Option Text
  | .injected => none
  | .skipped reason => some reason.name
  | .failed _ => some failedName

/-- What went wrong with a document. -/
def Verdict.error? : Verdict → Option Text
  | .failed message => some message
  | _ => none

/-- A document after it was treated. -/
structure Outcome where
  /-- The name of the document. -/
  docId : Text
  /-- Its text, new or as it was. -/
  text : Text
  /-- What became of it. -/
  verdict : Verdict
deriving DecidableEq, Repr

namespace Outcome

/-- The text is a new one. -/
def mutated (outcome : Outcome) : Bool := outcome.verdict == .injected

/-- Nothing went wrong. -/
def success (outcome : Outcome) : Bool := outcome.verdict.error?.isNone

/-- The document left as it is. -/
def skip (docId code : Text) (reason : SkipReason) : Outcome := ⟨docId, code, .skipped reason⟩

/-- The reason to leave a document alone that can be seen without looking for the
component. -/
def refusal? (docId code : Text) (targets : Option Targets) : Option SkipReason :=
  if !endsWith docId documentSuffix then some .notComponent
  else if targets.any fun t => !t.accepts docId then some .notTarget
  else if !Markup.isPresent code then some .noMarkup
  else none

end Outcome

namespace Spec

/-- Treat one document. Without targets, every component document is accepted. -/
def transform (s : Spec) (docId code : Text) (targets : Option Targets) : Outcome :=
  match Outcome.refusal? docId code targets with
  | some reason => .skip docId code reason
  | none =>
    if s.isPresent code then .skip docId code .alreadyPresent
    else
      let text := s.inject code
      if text = code then .skip docId code .unchanged else ⟨docId, text, .injected⟩

end Spec

/-- The records that treating a document leaves, given its outcome, the component's
name as it is shown, and the rule that mended its script. -/
def Outcome.records (outcome : Outcome) (name : Text) (repaired : Option Script.Repair.Rule) :
    List Record :=
  let mended := repaired.toList.map fun rule =>
    ⟨.debug, .registration,
      "Repaired script tail with rule '".toList ++ rule.name ++ ['\x27']⟩
  match outcome.verdict with
  | .injected =>
    mended ++
      [⟨.info, .engine, "Injected ".toList ++ name ++ " into ".toList ++ outcome.docId⟩]
  | .skipped .noMarkup =>
    [⟨.debug, .engine, "No <template> in ".toList ++ outcome.docId ++ ", skipping".toList⟩]
  | .skipped .alreadyPresent =>
    [⟨.debug, .engine, name ++ " already present in ".toList ++ outcome.docId⟩]
  | .skipped .unchanged => mended
  | .skipped _ => []
  | .failed _ =>
    [⟨.error, .engine, "Error injecting component into ".toList ++ outcome.docId⟩]

/-- The outcomes of many documents, in the order in which they were treated. -/
structure Report where
  /-- One outcome for each document. -/
  outcomes : List Outcome := []
deriving DecidableEq, Repr

namespace Report

/-- The documents with a new text. -/
def mutated (report : Report) : List Outcome := report.outcomes.filter Outcome.mutated

/-- The documents that could not be treated. -/
def failed (report : Report) : List Outcome := report.outcomes.filter fun o => !o.success

/-- Nothing went wrong. -/
def success (report : Report) : Bool := report.failed.isEmpty

/-- How many documents were not changed for a reason. -/
def countReason (report : Report) (reason : Text) : Nat :=
  report.outcomes.countP fun o => o.verdict.reason? == some reason

/-- The words for all reasons, in the order in which they are counted. -/
def reasons : List Text :=
  [SkipReason.notComponent, .notTarget, .noMarkup, .alreadyPresent, .unchanged].map
    SkipReason.name ++ [Verdict.failedName]

/-- How many documents there are, how many changed, and how many did not for each
reason. -/
def stats (report : Report) : List (Text × Nat) :=
  [("total".toList, report.outcomes.length), ("mutated".toList, report.mutated.length)] ++
    reasons.map fun reason => (reason, report.countReason reason)

end Report

/-- Treat many documents, each by itself. -/
def Spec.transformMany (s : Spec) (documents : List (Text × Text)) (targets : Option Targets) :
    Report :=
  ⟨documents.map fun (docId, code) => s.transform docId code targets⟩

end Graft
