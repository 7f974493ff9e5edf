import Graft.Proofs.Stages
import Mathlib.Algebra.BigOperators.Group.List.Basic
import Mathlib.Algebra.GroupWithZero.Nat

/-!
# What a report says

A report over many documents holds one outcome for each, in the order of the documents, and each
outcome is that of its document alone. An outcome says what happened in three ways: by its text,
by the reason why the text did not change, and by what went wrong. For a spec they agree, and
nothing goes wrong (`coherent_transform`).

The checks that are made before a document is treated are made again when the component is put
in. They agree too: an accepted document gets the text that injecting gives, whether it has
markup or the component or not (`transform_text_of_accepted`).

Each outcome is either a new text or has one of the reasons, so the counts of a report add up
(`length_eq_mutated_add_counts`).
-/

namespace Graft

open Text

/-! ## Outcomes -/

/-- The parts of an outcome agree about what happened to a document, and nothing went wrong. -/
structure Outcome.Coherent (outcome : Outcome) (docId code : Text) : Prop where
  /-- It bears the name of the document. -/
  docId : outcome.docId = docId
  /-- The text counts as new exactly if it is. -/
  mutated : outcome.mutated = true ↔ outcome.text ≠ code
  /-- A new text has no reason against it, and an old one has. -/
  reason : outcome.text ≠ code ↔ outcome.verdict.reason? = none
  /-- Nothing went wrong. -/
  error : outcome.verdict.error? = none
  /-- The reason is none of something that went wrong. -/
  notFailed : outcome.verdict.reason? ≠ some Verdict.failedName

theorem SkipReason.name_ne_failedName (reason : SkipReason) : reason.name ≠ Verdict.failedName := by
  cases reason with
  | notComponent => decide
  | notTarget => decide
  | noMarkup => decide
  | alreadyPresent => decide
  | unchanged => decide

theorem Outcome.coherent_skip (docId code : Text) (reason : SkipReason) :
    (Outcome.skip docId code reason).Coherent docId code := by
  refine ⟨rfl, ?_, ?_, rfl, ?_⟩
  · simp [Outcome.mutated, Outcome.skip]
  · simp [Outcome.skip, Verdict.reason?]
  · simpa [Outcome.skip, Verdict.reason?] using reason.name_ne_failedName

theorem Outcome.coherent_injected {docId code text : Text} (h : text ≠ code) :
    (⟨docId, text, .injected⟩ : Outcome).Coherent docId code := by
  refine ⟨rfl, ?_, ?_, rfl, ?_⟩
  · simp [Outcome.mutated, h]
  · simp [Verdict.reason?, h]
  · simp [Verdict.reason?]

namespace Spec

/-- **Every outcome is coherent.** -/
theorem coherent_transform (s : Spec) (docId code : Text) (targets : Option Targets) :
    (s.transform docId code targets).Coherent docId code := by
  unfold transform
  split
  · exact Outcome.coherent_skip _ _ _
  · split
    · exact Outcome.coherent_skip _ _ _
    · dsimp only
      split
      · exact Outcome.coherent_skip _ _ _
      · rename_i hchanged
        exact Outcome.coherent_injected hchanged

/-- **An accepted document gets what injecting gives.** -/
theorem transform_text_of_accepted {docId : Text} {targets : Option Targets}
    (h : Outcome.Accepted docId targets) (s : Spec) (code : Text) :
    (s.transform docId code targets).text = s.inject code := by
  cases hmarkup : Markup.isPresent code with
  | true => exact transform_text (Outcome.refusal?_eq_none_iff.mpr ⟨h, hmarkup⟩)
  | false =>
      -- without markup the document is refused, and injecting leaves it alone
      obtain ⟨reason, hreason⟩ : ∃ reason, Outcome.refusal? docId code targets = some reason := by
        rw [← Option.ne_none_iff_exists']
        intro hnone
        rw [(Outcome.refusal?_eq_none_iff.mp hnone).2] at hmarkup
        exact absurd hmarkup (by simp)
      rw [transform, hreason, inject, hmarkup]
      rfl

/-! ## Specs as drafts -/

/-- A spec as a draft whose names, path and template are texts. -/
def draft (s : Spec) : Draft where
  componentName := .str s.componentName
  importPath := .str s.importPath
  registerName := .str s.registerName
  position := s.position
  props := .object s.props
  withRef := .bool s.withRef
  refName := .str s.refName
  customTemplate := s.customTemplate.elim .null .str

theorem spec?_draft (s : Spec) : s.draft.spec? = some s := by
  rw [Draft.spec?_eq_some_iff]
  refine ⟨rfl, rfl, ?_, rfl, rfl, rfl, rfl, rfl⟩
  unfold Draft.template? draft
  cases s.customTemplate with
  | none => rfl
  | some t => rfl

/-- Gone through stage by stage, every document gets its outcome. -/
theorem transformStaged_draft (s : Spec) (docId code : Text) (targets : Option Targets) :
    s.draft.transformStaged docId code targets = .ok (s.transform docId code targets) := by
  rw [← Draft.transform_eq_staged (Draft.tag_of_spec s.spec?_draft), Draft.transform, s.spec?_draft]

end Spec

/-! ## Counts -/

namespace Report

/-- An outcome counts once, as a new text or for one reason. -/
theorem counted_once (outcome : Outcome) :
    (if outcome.mutated then 1 else 0) + (reasons.map fun reason =>
      if outcome.verdict.reason? == some reason then 1 else 0).sum = 1 := by
  unfold Outcome.mutated
  cases outcome.verdict with
  | injected => rfl
  | failed message => rfl
  | skipped reason => cases reason <;> rfl

/-- The number of new texts grows with each of them. -/
theorem length_mutated_cons (outcome : Outcome) (rest : List Outcome) :
    (mutated ⟨outcome :: rest⟩).length =
      (mutated ⟨rest⟩).length + if outcome.mutated then 1 else 0 := by
  unfold mutated
  dsimp only
  rw [List.filter_cons]
  split
  · rw [List.length_cons]
  · rw [Nat.add_zero]

/-- So does the count of a reason. -/
theorem countReason_cons (outcome : Outcome) (rest : List Outcome) (reason : Text) :
    countReason ⟨outcome :: rest⟩ reason =
      countReason ⟨rest⟩ reason + if outcome.verdict.reason? == some reason then 1 else 0 := by
  unfold countReason
  dsimp only
  rw [List.countP_cons]

/-- **The counts add up.** -/
theorem length_eq_mutated_add_counts (outcomes : List Outcome) :
    outcomes.length =
      (mutated ⟨outcomes⟩).length + (reasons.map (countReason ⟨outcomes⟩)).sum := by
  induction outcomes with
  | nil => rfl
  | cons outcome rest ih =>
      have hcounts : (reasons.map (countReason ⟨outcome :: rest⟩)).sum =
          (reasons.map (countReason ⟨rest⟩)).sum + (reasons.map fun reason =>
            if outcome.verdict.reason? == some reason then 1 else 0).sum := by
        rw [← List.sum_map_add]
        refine congrArg List.sum (List.map_congr_left fun reason _ => ?_)
        exact countReason_cons outcome rest reason
      have hone := counted_once outcome
      rw [hcounts, length_mutated_cons, List.length_cons, ih]
      omega

end Report

namespace Spec

/-- **Reports are coherent and documents independent.** One outcome for each document, in order:
that of the document alone, which going through the stages gives too; its parts agree and
nothing went wrong, and an accepted document has the text that injecting gives. The total is
the number of new texts and the counts of the six reasons together. -/
theorem transformMany_coherent (s : Spec) (documents : List (Text × Text))
    (targets : Option Targets) :
    (s.transformMany documents targets).outcomes.length = documents.length ∧
      (∀ (i : Nat) (docId code : Text), documents[i]? = some (docId, code) →
        ∃ outcome, (s.transformMany documents targets).outcomes[i]? = some outcome ∧
          outcome = s.transform docId code targets ∧
          s.draft.transformStaged docId code targets = .ok outcome ∧
          outcome.Coherent docId code ∧
          (Outcome.Accepted docId targets →
            outcome.text = s.inject code ∧ s.draft.stages code = .ok outcome.text)) ∧
      ∃ total mutated counts, (s.transformMany documents targets).stats =
          ("total".toList, total) :: ("mutated".toList, mutated) :: Report.reasons.zip counts ∧
        counts.length = 6 ∧ total = documents.length ∧ total = mutated + counts.sum := by
  refine ⟨by simp [transformMany], ?_, ?_⟩
  · intro i docId code hi
    refine ⟨s.transform docId code targets, ?_, rfl, s.transformStaged_draft docId code targets,
      s.coherent_transform docId code targets, ?_⟩
    · rw [transformMany, List.getElem?_map, hi]
      rfl
    · intro haccepted
      have htext := transform_text_of_accepted haccepted s code
      exact ⟨htext, by rw [htext]; exact Draft.stages_of_spec s.spec?_draft code⟩
  · refine ⟨_, _, Report.reasons.map (s.transformMany documents targets).countReason, ?_, rfl, ?_,
      Report.length_eq_mutated_add_counts _⟩
    · rw [Report.stats, List.map_prod_left_eq_zip]
      rfl
    · exact List.length_map _

/-- Three documents: one that gets the component, one that has it, and one of another kind. -/
def threeDocuments : List (Text × Text) :=
  [("a.vue".toList, "<template></template>".toList),
    ("b.vue".toList, "<template><toast/></template>".toList),
    ("c.js".toList, "<template></template>".toList)]

/-- The first of them gets the text that injecting gives, stage by stage. -/
theorem threeDocuments_coherent :
    ∃ outcome, ((named "toast".toList "t".toList).transformMany threeDocuments none).outcomes[0]? =
        some outcome ∧ outcome.mutated = true ∧
      (named "toast".toList "t".toList).draft.stages "<template></template>".toList =
        .ok outcome.text := by
  obtain ⟨outcome, hfound, heq, _, _, htext⟩ :=
    (transformMany_coherent (named "toast".toList "t".toList) threeDocuments none).2.1 0
      "a.vue".toList "<template></template>".toList rfl
  refine ⟨outcome, hfound, ?_, (htext ⟨by decide, by simp⟩).2⟩
  rw [heq]
  decide +kernel

end Spec

end Graft
