import Graft.Options
import Graft.Proofs.Detection
import Graft.Proofs.Presence

/-!
# An injection, stage by stage

Options are hardly checked, so a draft can hold values of any kind, and a value of the wrong
kind is noticed by the first stage that has to read its characters. This file spells the stages
out with everything that can go wrong in them (`Draft.stages`): the component's name is no text,
or the start tag that the facts about the script promise is not found when it is looked for
again. What goes wrong in a stage becomes the outcome of the document; what goes wrong while the
component is looked for beforehand is handed on (`Draft.transformStaged`).

Treating a document is the same as that (`transform_eq_staged`), and for a draft that is a spec
no stage goes wrong (`stages_of_spec`). So the only way for a document not to get an outcome is
the search for the component (`isPresent_error_iff`): the name of the tag is no text, or the
name is not in the document and the custom template is no text either (`transform_error_iff`).
-/

namespace Graft

open Text

/-! ## The stages -/

/-- The characters of a value that is looked for in a script. -/
def Value.sought : Value → Except Fault Text
  | .str t => .ok t
  | v => .error (.misuse (.asName v))

/-- Import a name. The facts about the script say whether there is a start tag, and where it
ends is then looked up once more. -/
def Script.Import.stage (code : Text) (name path : Value) : Except Fault Text := do
  let name ← name.sought
  if present code name then .ok code
  else
    let info := detect code
    match info.dialect with
    | .absent => .ok (synthesize (statement name path.display) .options info.isTyped ++ code)
    | .setup | .options =>
      match startTag? code with
      | none => .error (.misuse (.asObject .null))
      | some tag =>
        .ok (tag.before ++ tag.found ++ ['\n'] ++ statement name path.display ++ tag.after)

namespace Draft

/-- Put the component into a document, one stage after the other. -/
def stages (d : Draft) (code : Text) : Except Fault Text := do
  if !Markup.isPresent code then .ok code
  else if ← d.isPresent code then .ok code
  else
    let tag ← d.tag
    let imported ← Script.Import.stage (Markup.insert code tag.display d.position)
      d.componentName d.importPath
    return Script.register imported (← d.componentName.sought) (← d.registerName.sought)

/-- Treat one document. A fault of a stage is the outcome of the document, a fault of the
search before the stages is not caught. -/
def transformStaged (d : Draft) (docId code : Text) (targets : Option Targets) :
    Except Fault Outcome :=
  match Outcome.refusal? docId code targets with
  | some reason => .ok (.skip docId code reason)
  | none => do
    if ← d.isPresent code then .ok (.skip docId code .alreadyPresent)
    else
      match d.stages code with
      | .error fault => .ok ⟨docId, code, .failed fault.message⟩
      | .ok text =>
        if text = code then .ok (.skip docId code .unchanged) else .ok ⟨docId, text, .injected⟩

end Draft

/-- The start tag is found again wherever the facts promise one. -/
theorem Script.Import.stage_text (code name : Text) (path : Value) :
    stage code (.str name) path = .ok (add code name path.display) := by
  have hname : stage code (.str name) path =
      if present code name then .ok code
      else
        match (detect code).dialect with
        | .absent =>
          .ok (synthesize (statement name path.display) .options (detect code).isTyped ++ code)
        | .setup | .options =>
          match startTag? code with
          | none => .error (.misuse (.asObject .null))
          | some tag =>
            .ok (tag.before ++ tag.found ++ ['\n'] ++ statement name path.display ++
              tag.after) := rfl
  rw [hname, add]
  split
  · rfl
  · cases htag : startTag? code with
    | none =>
        rw [detect_no_startTag htag]
        rfl
    | some tag =>
        rw [dialect_startTag htag]
        split
        · rename_i h
          split at h
          · exact absurd h (by simp)
          · exact absurd h (by simp)
        · rfl
        · rfl

/-! ## Drafts that are specs -/

namespace Draft

variable {d : Draft} {s : Spec} {code : Text}

theorem spec?_eq_some_iff : d.spec? = some s ↔
    d.componentName = .str s.componentName ∧ d.registerName = .str s.registerName ∧
      d.template? = some s.customTemplate ∧ d.fields = .ok s.props ∧
      d.importPath.display = s.importPath ∧ d.position = s.position ∧
      d.withRef.isTruthy = s.withRef ∧ d.refName.display = s.refName := by
  constructor
  · intro h
    unfold spec? at h
    split at h
    · rename_i hname hregister htemplate hfields
      injection h with h
      subst h
      exact ⟨hname, hregister, htemplate, hfields, rfl, rfl, rfl, rfl⟩
    · exact absurd h (by simp)
  · rintro ⟨hname, hregister, htemplate, hfields, hpath, hposition, hwith, href⟩
    rw [spec?, hname, hregister, htemplate, hfields]
    dsimp only
    rw [hpath, hposition, hwith, href]

theorem isPresent_of_spec (h : d.spec? = some s) (code : Text) :
    d.isPresent code = .ok (s.isPresent code) := by
  obtain ⟨_, hregister, htemplate, _⟩ := spec?_eq_some_iff.mp h
  rw [isPresent, hregister, htemplate, Spec.isPresent, Markup.hasComponent]
  dsimp only
  split
  · rename_i hname
    rw [hname, Bool.true_or]
  · rename_i hname
    rw [Bool.not_eq_true] at hname
    rw [hname, Bool.false_or]

/-- The tag of a draft that is a spec is that of the spec. -/
theorem tag_of_spec (h : d.spec? = some s) : d.tag = .ok (.str s.tag) := by
  obtain ⟨_, hregister, htemplate, hfields, _, _, hwith, href⟩ := spec?_eq_some_iff.mp h
  unfold tag
  split
  · rename_i htruthy
    -- a template that counts is a text here, and is taken as it is
    unfold template? at htemplate
    split at htemplate
    · rename_i t ht
      injection htemplate with htemplate
      rw [ht] at htruthy
      cases t with
      | nil => exact absurd htruthy (by decide)
      | cons c rest => rw [ht, Spec.tag, ← htemplate]
    · rw [if_pos htruthy] at htemplate
      exact absurd htemplate (by simp)
  · rename_i htruthy
    have hplain : s.tag = s.plainTag := by
      refine Spec.tag_of_plain ?_
      unfold template? at htemplate
      split at htemplate
      · rename_i t ht
        injection htemplate with htemplate
        rw [ht] at htruthy
        rw [Spec.Plain, ← htemplate]
        simpa [Value.isTruthy] using htruthy
      · rw [if_neg htruthy] at htemplate
        injection htemplate with htemplate
        rw [Spec.Plain, ← htemplate]
        rfl
    rw [hfields, hregister, hplain]
    simp only [bind, Except.bind, pure, Except.pure, hwith, href]
    rfl

/-- **For a spec no stage goes wrong.** -/
theorem stages_of_spec (h : d.spec? = some s) (code : Text) :
    d.stages code = .ok (s.inject code) := by
  obtain ⟨hname, hregister, _, _, hpath, hposition, _⟩ := spec?_eq_some_iff.mp h
  unfold stages Spec.inject
  cases Markup.isPresent code with
  | false => rfl
  | true =>
      rw [isPresent_of_spec h, tag_of_spec h, hname, hregister, hposition]
      cases hpresent : s.isPresent code with
      | true => rfl
      | false =>
          simp only [bind, Except.bind, Bool.not_true, Bool.false_eq_true, if_false,
            Script.Import.stage_text, Value.sought, Bool.or_false, pure, Except.pure, hpath]
          rfl

/-! ## Drafts that are none -/

/-- A draft with a tag and a component that can be looked for is a spec, or else the name of
the component is no text. -/
theorem sought_of_odd {tag : Value} {b : Bool} (htag : d.tag = .ok tag) (hspec : d.spec? = none)
    (hpresent : d.isPresent code = .ok b) (hb : b = false) :
    d.componentName.sought = .error (.misuse (.asName d.componentName)) := by
  subst hb
  obtain ⟨registerName, hregister, htemplate⟩ : ∃ registerName, d.registerName = .str registerName ∧
      ∃ template, d.template? = some template := by
    unfold isPresent at hpresent
    split at hpresent
    · rename_i registerName hregister
      split at hpresent
      · exact absurd hpresent (by simp)
      · split at hpresent
        · rename_i template htemplate
          exact ⟨registerName, hregister, template, htemplate⟩
        · exact absurd hpresent (by simp)
    · exact absurd hpresent (by simp)
  obtain ⟨template, htemplate⟩ := htemplate
  obtain ⟨props, hfields⟩ : ∃ props, d.fields = .ok props := by
    unfold Draft.tag at htag
    split at htag
    · rename_i htruthy
      unfold fields
      split
      · exact ⟨_, rfl⟩
      · exact ⟨[], by rw [if_pos htruthy]⟩
    · obtain ⟨props, hprops, _⟩ := bind_eq_ok_iff.mp htag
      exact ⟨props, hprops⟩
  cases hname : d.componentName with
  | str name =>
      rw [spec?, hname, hregister, htemplate, hfields] at hspec
      exact absurd hspec (by simp)
  | _ => rfl

/-- **Treating a document is going through the stages**, with what goes wrong in them as its
outcome. -/
theorem transform_eq_staged {tag : Value} (htag : d.tag = .ok tag) (docId code : Text)
    (targets : Option Targets) :
    d.transform docId code targets = d.transformStaged docId code targets := by
  unfold transform transformStaged
  cases hspec : d.spec? with
  | some s =>
      dsimp only
      rw [Spec.transform, isPresent_of_spec hspec, stages_of_spec hspec]
      cases Outcome.refusal? docId code targets with
      | some reason => rfl
      | none =>
          dsimp only
          cases s.isPresent code with
          | true => rfl
          | false =>
              by_cases hsame : s.inject code = code
              · simp [bind, Except.bind, hsame]
              · simp [bind, Except.bind, hsame]
  | none =>
      dsimp only
      unfold transformOdd
      cases hrefusal : Outcome.refusal? docId code targets with
      | some reason => rfl
      | none =>
          dsimp only
          cases hpresent : d.isPresent code with
          | error fault => rfl
          | ok present =>
              cases present with
              | true => rfl
              | false =>
                  -- with a tag, only the name can keep such a draft from being a spec
                  have hsought := sought_of_odd htag hspec hpresent rfl
                  have hstages : d.stages code = .error (.misuse (.asName d.componentName)) := by
                    unfold stages
                    rw [Spec.isPresent_of_refusal? hrefusal, hpresent, htag]
                    simp only [bind, Except.bind, Script.Import.stage, hsought, Bool.not_true,
                      Bool.false_eq_true, if_false]
                  rw [hstages]
                  rfl

end Draft

/-! ## Documents without an outcome -/

/-- A document of a page that receives the component, going by its name alone. -/
def Outcome.Accepted (docId : Text) (targets : Option Targets) : Prop :=
  endsWith docId documentSuffix = true ∧ ∀ t, targets = some t → t.accepts docId = true

theorem Outcome.refusal?_eq_none_iff {docId code : Text} {targets : Option Targets} :
    refusal? docId code targets = none ↔
      Accepted docId targets ∧ Markup.isPresent code = true := by
  unfold refusal? Accepted
  cases endsWith docId documentSuffix with
  | false => simp
  | true =>
      cases targets with
      | none => simp
      | some t => cases ht : t.accepts docId <;> simp [ht]

/-- A component that cannot be looked for: its name is no text, or the name is not in the
document and the template that is looked for next is no text. -/
def Unsearchable (registerName template : Value) (code : Text) : Prop :=
  (∀ n, registerName ≠ .str n) ∨
    ∃ n, registerName = .str n ∧ Markup.hasName code n = false ∧ template.isTruthy = true ∧
      ∀ t, template ≠ .str t

theorem unsearchable_iff {registerName template : Value} {code : Text} :
    Unsearchable registerName template code ↔
      registerName.text?.all (fun n => !Markup.hasName code n && template.isTruthy &&
        template.text?.isNone) = true := by
  have htemplate : (∀ t, template ≠ .str t) ↔ template.text?.isNone = true := by
    cases template <;> simp [Value.text?]
  unfold Unsearchable
  rw [htemplate]
  cases registerName <;> simp [Value.text?, and_assoc]

instance (registerName template : Value) (code : Text) :
    Decidable (Unsearchable registerName template code) :=
  decidable_of_iff' _ unsearchable_iff

namespace Draft

variable {d : Draft}

theorem template?_eq_none_iff :
    d.template? = none ↔ d.customTemplate.isTruthy = true ∧ ∀ t, d.customTemplate ≠ .str t := by
  unfold template?
  split
  · rename_i t ht
    simp [ht]
  · rename_i hne
    simp only [ite_eq_left_iff, reduceCtorEq, imp_false, Bool.not_eq_true, Bool.not_eq_false]
    exact ⟨fun h => ⟨h, fun t ht => hne t ht⟩, fun h => h.1⟩

theorem isPresent_error_iff {code : Text} :
    (∃ fault, d.isPresent code = .error fault) ↔
      Unsearchable d.registerName d.customTemplate code := by
  unfold Unsearchable
  rw [← template?_eq_none_iff]
  cases hregister : d.registerName with
  | str n =>
      unfold isPresent
      rw [hregister]
      dsimp only
      cases hname : Markup.hasName code n with
      | true => simp [hname]
      | false => cases d.template? <;> simp [hname]
  | _ => simp [isPresent, hregister]

/-- **A document gets no outcome** exactly if it is accepted and has markup, and the component
cannot be looked for in it. -/
theorem transform_error_iff {tag : Value} (htag : d.tag = .ok tag) (docId code : Text)
    (targets : Option Targets) :
    (∃ fault, d.transform docId code targets = .error fault) ↔
      (Outcome.Accepted docId targets ∧ Markup.isPresent code = true) ∧
        Unsearchable d.registerName d.customTemplate code := by
  rw [transform_eq_staged htag, ← isPresent_error_iff, ← Outcome.refusal?_eq_none_iff]
  unfold transformStaged
  cases Outcome.refusal? docId code targets with
  | some reason => simp
  | none =>
      dsimp only
      cases d.isPresent code with
      | error fault => simp [bind, Except.bind]
      | ok present =>
          cases present with
          | true => simp [bind, Except.bind]
          | false =>
              simp only [bind, Except.bind, Bool.false_eq_true, if_false]
              cases d.stages code with
              | error fault => simp
              | ok text => by_cases hsame : text = code <;> simp [hsame]

/-- Only a custom template lets a draft with a name that is no text have a tag. -/
theorem template_of_unsearchable {tag : Value} {code : Text} (htag : d.tag = .ok tag)
    (h : Unsearchable d.registerName d.customTemplate code) : d.customTemplate.isTruthy = true := by
  rcases h with hname | ⟨_, _, _, htemplate, _⟩
  · unfold Draft.tag at htag
    split at htag
    · rename_i htruthy
      exact htruthy
    · obtain ⟨_, _, htag⟩ := bind_eq_ok_iff.mp htag
      split at htag
      · rename_i n hn
        exact absurd hn (hname n)
      · exact absurd htag (by simp)
  · exact htemplate

/-- An outcome bears the name of the document, and has its text unless the component was put
in. -/
theorem text_of_transform {tag : Value} (htag : d.tag = .ok tag) {docId code : Text}
    {targets : Option Targets} {outcome : Outcome}
    (h : d.transform docId code targets = .ok outcome) :
    outcome.docId = docId ∧ (outcome.mutated = false → outcome.text = code) := by
  rw [transform_eq_staged htag] at h
  unfold transformStaged at h
  split at h
  · injection h with h
    rw [← h]
    exact ⟨rfl, fun _ => rfl⟩
  · obtain ⟨present, _, h⟩ := bind_eq_ok_iff.mp h
    split at h
    · injection h with h
      rw [← h]
      exact ⟨rfl, fun _ => rfl⟩
    · split at h
      · injection h with h
        rw [← h]
        exact ⟨rfl, fun _ => rfl⟩
      · split at h
        · injection h with h
          rw [← h]
          exact ⟨rfl, fun _ => rfl⟩
        · injection h with h
          rw [← h]
          exact ⟨rfl, fun hmutated => absurd hmutated (by simp [Outcome.mutated])⟩

end Draft

namespace Options

/-- What a draft takes from the options. -/
theorem draft_fields {o : Options} {d : Draft} (h : o.draft = .ok d) :
    ∃ name, o.name = .ok name ∧ d.componentName = name ∧
      d.registerName = o.registerName.orElse name ∧ d.customTemplate = o.customTemplate := by
  unfold draft at h
  obtain ⟨name, hname, h⟩ := bind_eq_ok_iff.mp h
  refine ⟨name, hname, ?_⟩
  split at h
  · exact absurd h (by simp)
  · unfold Draft.complete at h
    split at h
    · exact absurd h (by simp)
    · split at h
      · exact absurd h (by simp)
      · obtain ⟨position, _, h⟩ := bind_eq_ok_iff.mp h
        injection h with h
        subst h
        exact ⟨rfl, Value.orElse_orElse _ _, rfl⟩

/-- **When a document gets no outcome.** For options that give a draft with a tag, treating a
document goes wrong exactly if the document is accepted and has markup, and the name of the tag
is no text, or is not in the document while the custom template is no text. This takes a custom
template that counts. In every other case there is an outcome, with the text as it was unless
the component was put in, and what goes wrong in a stage is its reason. -/
theorem transform_stops_iff {o : Options} {d : Draft} {name tag : Value}
    (hname : o.name = .ok name) (hdraft : o.draft = .ok d) (htag : d.tag = .ok tag)
    (docId code : Text) (targets : Option Targets) :
    ((∃ fault, d.transform docId code targets = .error fault) ↔
        (Outcome.Accepted docId targets ∧ Markup.isPresent code = true) ∧
          Unsearchable (o.registerName.orElse name) o.customTemplate code) ∧
      ((∃ fault, d.transform docId code targets = .error fault) →
        o.customTemplate.isTruthy = true) ∧
      (∀ outcome, d.transform docId code targets = .ok outcome →
        outcome.docId = docId ∧ (outcome.mutated = false → outcome.text = code)) ∧
      ∀ fault, Outcome.refusal? docId code targets = none → d.isPresent code = .ok false →
        d.stages code = .error fault →
        d.transform docId code targets = .ok ⟨docId, code, .failed fault.message⟩ := by
  obtain ⟨name', hname', _, hregister, htemplate⟩ := draft_fields hdraft
  have hsame : name' = name := Except.ok.inj (hname'.symm.trans hname)
  have hstops := Draft.transform_error_iff htag docId code targets
  refine ⟨?_, ?_, fun outcome h => Draft.text_of_transform htag h, ?_⟩
  · rw [hstops, hregister, htemplate, hsame]
  · intro h
    rw [← htemplate]
    exact Draft.template_of_unsearchable htag (hstops.mp h).2
  · intro fault hrefusal hpresent hstages
    rw [Draft.transform_eq_staged htag, Draft.transformStaged, hrefusal, hpresent, hstages]
    rfl

/-- Options with a custom template that is a number. -/
def numberTemplate : Value :=
  .object [("componentPath".toList, .str "a.vue".toList), ("customTemplate".toList, .int 5)]

/-- Options with a name that is a number, and a template that is a text. -/
def numberName : Value :=
  .object [("componentPath".toList, .str "a.vue".toList), ("registerName".toList, .int 5),
    ("customTemplate".toList, .str "<x/>".toList)]

/-- The options give a draft with a tag, and an empty page gets no outcome from it. -/
def StopsEmptyPage (v : Value) : Prop :=
  ∃ o, ofValue v = .ok o ∧ ∃ d, o.draft = .ok d ∧ (∃ tag, d.tag = .ok tag) ∧
    ∃ fault, d.transform "a.vue".toList "<template></template>".toList none = .error fault

/-- Neither lets an empty page have an outcome. -/
theorem numberOptions_stop : StopsEmptyPage numberTemplate ∧ StopsEmptyPage numberName := by
  have hodd : ∀ v ∈ [numberTemplate, numberName],
      ∃ o, ofValue v = .ok o ∧ ∃ d, o.draft = .ok d ∧ ∃ tag, d.tag = .ok tag ∧
        ∃ name, o.name = .ok name ∧ Unsearchable (o.registerName.orElse name) o.customTemplate
          "<template></template>".toList := by decide +kernel
  have hstop : ∀ v ∈ [numberTemplate, numberName], StopsEmptyPage v := by
    intro v hv
    obtain ⟨o, ho, d, hd, tag, htag, name, hname, hunsearchable⟩ := hodd v hv
    refine ⟨o, ho, d, hd, ⟨tag, htag⟩, ?_⟩
    exact (transform_stops_iff hname hd htag _ _ _).1.mpr
      ⟨⟨⟨by decide, by simp⟩, by decide⟩, hunsearchable⟩
  exact ⟨hstop _ (by simp), hstop _ (by simp)⟩

end Options

end Graft
