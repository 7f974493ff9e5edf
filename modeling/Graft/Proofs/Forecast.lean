import Graft.Proofs.DryRun

/-!
# What a check says about an injection

Two commands judge the same project: `check` looks it over, and `inject` loads it before it
treats the documents. They ask the same questions in another order and handle the answers in
their own ways. What has to be there for `check` to succeed is the options, the pages, the
directory of the documents and the file of the component (`checkedIn_eq_ok_iff`); its question
about the manifest asks nothing that the one about the pages does not (`checkManifest_passes`).

An injection needs all of that and one thing more, a name for the component
(`setupIn_eq_ok_iff`). If none is given it is taken from the path, which has none to give if
all its parts are empty or single dots (`nameOfPath_eq_nil_iff`). A path like that can still
lead to a file, and then `check` succeeds and `inject` does not. For options of the right kinds
this is the only difference (`inject_succeeds_iff`).
-/

namespace Graft

open Text

/-! ## Names from paths -/

namespace Component

theorem lowerChar_ne_nil (c : Char) : lowerChar c ≠ [] := by
  unfold lowerChar
  split
  · simp
  · split
    · simp
    · split
      · simp
      · simp

theorem lower_singleton_ne_nil (c : Char) : lower [c] ≠ [] := by
  unfold lower lowerAfter
  split
  · simp
  · simp [lowerChar_ne_nil]

theorem stem_eq_nil_iff (p : Path) : p.stem = [] ↔ p.name = [] := by
  unfold Path.stem Path.splitName
  split
  · rename_i before after hcut
    split
    · rfl
    · rename_i hparts
      have hbefore : before ≠ [] := by
        rintro rfl
        exact hparts rfl
      refine iff_of_false hbefore ?_
      intro hname
      rw [hname] at hcut
      exact absurd hcut (by simp [cutLast?])
  · rfl

/-- A path whose parts are all empty or single dots gives a component no name. Backslashes
count as slashes. -/
theorem nameOfPath_eq_nil_iff (path : Text) :
    nameOfPath path = [] ↔
      ∀ part ∈ split '/' (replaceChar '\\' ['/'] path), part = [] ∨ part = ['.'] := by
  have hname : nameOfPath path = [] ↔
      (Path.ofText (replaceChar '\\' ['/'] path)).stem = [] := by
    unfold nameOfPath
    split
    · rename_i h
      simp [h]
    · rename_i c rest h
      refine iff_of_false ?_ (by rw [h]; simp)
      simp [lower_singleton_ne_nil]
  -- the parts that are kept are not empty, so only a path without any has an empty last one
  have hparts : ∀ names : List Text, (∀ name ∈ names, name ≠ []) →
      ((names.getLast?).getD [] = [] ↔ names = []) := by
    intro names hnames
    cases hl : names.getLast? with
    | none => simp [List.getLast?_eq_none_iff.mp hl]
    | some last =>
        refine iff_of_false (hnames last (List.mem_of_mem_getLast? hl)) ?_
        rintro rfl
        exact absurd hl (by simp)
  rw [hname, stem_eq_nil_iff, Path.name, hparts]
  · simp only [Path.ofText, List.filter_eq_nil_iff]
    refine forall_congr' fun part => imp_congr_right fun _ => ?_
    simp [Decidable.or_iff_not_imp_left]
  · intro name hmem
    have hkept := (List.mem_filter.mp hmem).2
    rintro rfl
    exact absurd hkept (by simp)

end Component

/-! ## Options of the right kinds -/

/-- A value that is a text or is not given. -/
def Value.IsOptionalText (v : Value) : Prop := v = .null ∨ ∃ t, v = .str t

instance (v : Value) : Decidable v.IsOptionalText :=
  match v with
  | .null => isTrue (Or.inl rfl)
  | .str t => isTrue (Or.inr ⟨t, rfl⟩)
  | .bool _ | .int _ | .float _ | .list _ | .object _ => isFalse (by simp [Value.IsOptionalText])

/-- A text stands in for one that is not given. -/
theorem Value.IsOptionalText.orElse_str {v : Value} (h : v.IsOptionalText) (n : Text) :
    ∃ t, v.orElse (.str n) = .str t := by
  unfold Value.orElse
  split
  · rename_i htruthy
    rcases h with rfl | h
    · exact absurd htruthy (by decide)
    · exact h
  · exact ⟨n, rfl⟩

namespace Options

/-- The path is a text, and the names and the template are texts where they are given. -/
structure WellTyped (o : Options) : Prop where
  /-- The path of the component is a text. -/
  componentPath : ∃ t, o.componentPath = .str t
  /-- Its name is a text or not given. -/
  componentName : o.componentName.IsOptionalText
  /-- So is the name of its tag. -/
  registerName : o.registerName.IsOptionalText
  /-- And so is the template. -/
  customTemplate : o.customTemplate.IsOptionalText

theorem wellTyped_iff (o : Options) :
    o.WellTyped ↔ o.componentPath.text?.isSome = true ∧ o.componentName.IsOptionalText ∧
      o.registerName.IsOptionalText ∧ o.customTemplate.IsOptionalText := by
  have hpath : (∃ t, o.componentPath = .str t) ↔ o.componentPath.text?.isSome = true := by
    cases o.componentPath <;> simp [Value.text?]
  rw [← hpath]
  exact ⟨fun h => ⟨h.1, h.2, h.3, h.4⟩, fun h => ⟨h.1, h.2.1, h.2.2.1, h.2.2.2⟩⟩

instance (o : Options) : Decidable o.WellTyped := decidable_of_iff' _ o.wellTyped_iff

/-- The component has a name: it is given, or the path has a part that is neither empty nor a
single dot. -/
def HasName (o : Options) : Prop :=
  o.componentName.isTruthy = true ∨
    ∃ t, o.componentPath = .str t ∧
      ∃ part ∈ split '/' (replaceChar '\\' ['/'] t), part ≠ [] ∧ part ≠ ['.']

instance (o : Options) : Decidable o.HasName :=
  match hpath : o.componentPath with
  | .str t =>
      decidable_of_iff
        (o.componentName.isTruthy = true ∨
          ∃ part ∈ split '/' (replaceChar '\\' ['/'] t), part ≠ [] ∧ part ≠ ['.'])
        (by simp [HasName, hpath])
  | .null | .bool _ | .int _ | .float _ | .list _ | .object _ =>
      decidable_of_iff (o.componentName.isTruthy = true) (by simp [HasName, hpath])

/-- The name of the component is a text, which is empty where there is none. -/
theorem WellTyped.name_eq {o : Options} (h : o.WellTyped) :
    ∃ n, o.name = .ok (.str n) ∧ (n ≠ [] ↔ o.HasName) := by
  obtain ⟨path, hpath⟩ := h.componentPath
  unfold name HasName
  cases htruthy : o.componentName.isTruthy with
  | true =>
      rcases h.componentName with hnull | ⟨t, ht⟩
      · rw [hnull] at htruthy
        exact absurd htruthy (by decide)
      · rw [ht] at htruthy ⊢
        refine ⟨t, rfl, iff_of_true ?_ (Or.inl rfl)⟩
        simpa [Value.isTruthy] using htruthy
  | false =>
      rw [hpath]
      refine ⟨Component.nameOfPath path, rfl, ?_⟩
      rw [Ne, Component.nameOfPath_eq_nil_iff]
      simp

/-- Options with a path that was read have one. -/
theorem componentPath_isTruthy {disk : Disk} {config : Path} {o : Options}
    (h : load disk config = .ok o) : o.componentPath.isTruthy = true := by
  unfold load at h
  obtain ⟨there, _, h⟩ := bind_eq_ok_iff.mp h
  split at h
  · obtain ⟨v, _, h⟩ := bind_eq_ok_iff.mp h
    unfold ofValue at h
    split at h
    · obtain ⟨given, _, h⟩ := bind_eq_ok_iff.mp h
      unfold ofGiven at h
      dsimp only at h
      split at h
      · exact absurd h (by simp)
      · rename_i hpath
        obtain ⟨_, _, h⟩ := bind_eq_ok_iff.mp h
        obtain ⟨_, _, h⟩ := bind_eq_ok_iff.mp h
        obtain ⟨_, _, h⟩ := bind_eq_ok_iff.mp h
        obtain ⟨_, _, h⟩ := bind_eq_ok_iff.mp h
        injection h with h
        subst h
        simpa using hpath
    · exact absurd h (by simp)
  · exact absurd h (by simp)

/-- The word for a position stands for it. -/
theorem ofValue_name (position : Position) :
    Position.ofValue (.str position.name) = .ok position := by
  have hname : Position.ofName? position.name = some position := by
    cases position with
    | beforeContent => decide
    | afterContent => decide
    | rootEnd => decide
  rw [Position.ofValue, Value.text?, Option.bind_some, hname]

/-- A draft of the right kinds is a spec and has a tag. -/
theorem spec?_of_typed {d : Draft} {name registerName : Text} {props : List (Text × Value)}
    (hname : d.componentName = .str name) (hregister : d.registerName = .str registerName)
    (hprops : d.props = .object props) (htemplate : d.customTemplate.IsOptionalText) :
    (∃ tag, d.tag = .ok tag) ∧ d.spec? ≠ none := by
  have hfields : d.fields = .ok props := by rw [Draft.fields, hprops]
  constructor
  · unfold Draft.tag
    split
    · exact ⟨_, rfl⟩
    · rw [hfields, hregister]
      exact ⟨_, rfl⟩
  · obtain ⟨template, hfound⟩ : ∃ template, d.template? = some template := by
      unfold Draft.template?
      rcases htemplate with h | ⟨t, h⟩
      · rw [h]
        exact ⟨none, rfl⟩
      · rw [h]
        exact ⟨some t, rfl⟩
    rw [Draft.spec?, hname, hregister, hfound, hfields]
    simp

/-- **Options of the right kinds become a draft** exactly if the component has a name, and the
draft is then a spec with a tag. -/
theorem WellTyped.draft_cases {o : Options} (h : o.WellTyped)
    (hpath : o.componentPath.isTruthy = true) :
    (o.HasName ∧ ∃ d, o.draft = .ok d ∧ (∃ tag, d.tag = .ok tag) ∧ d.spec? ≠ none) ∨
      (¬ o.HasName ∧ ∃ fault, o.draft = .error fault) := by
  obtain ⟨n, hname, hhas⟩ := h.name_eq
  unfold draft
  rw [hname]
  by_cases hn : n = []
  · refine Or.inr ⟨fun hyes => hhas.mpr hyes hn, ?_⟩
    rw [hn]
    exact ⟨_, rfl⟩
  · have htruthy : (Value.str n).isTruthy = true := by simp [Value.isTruthy, hn]
    obtain ⟨registerName, hregister⟩ := h.registerName.orElse_str n
    refine Or.inl ⟨hhas.mp hn, ?_⟩
    obtain ⟨t, ht⟩ : ∃ t, (Value.str registerName).orElse (.str n) = .str t :=
      Value.IsOptionalText.orElse_str (Or.inr ⟨registerName, rfl⟩) n
    simp only [bind, Except.bind, htruthy, Bool.not_true, Bool.false_eq_true, if_false,
      Draft.complete, hpath, ofValue_name, hregister, ht, pure, Except.pure]
    exact ⟨_, rfl, spec?_of_typed rfl rfl rfl h.customTemplate⟩

end Options

namespace Diagnosis

/-! ## The checks one by one -/

/-- A check was made and did not fail. -/
def Passes (answer : Except Fault Check) : Prop := ∃ c, answer = .ok c ∧ c.status ≠ .error

/-- All checks were made and none failed. -/
def AllPass (answer : Except Fault (List Check)) : Prop :=
  ∃ checks, answer = .ok checks ∧ ∀ c ∈ checks, c.status ≠ .error

theorem checkTargets_passes_iff {loaded : Except Fault Targets} :
    Passes (checkTargets loaded) ↔ ∃ targets, loaded = .ok targets := by
  unfold checkTargets Passes
  dsimp only
  split
  · simp
  · simp
  · split
    · simp
    · simp

/-- A manifest whose pages can be read passes its own check. -/
theorem checkManifest_passes {disk : Disk} {pages : Path} {included excluded : Value}
    {targets : Targets} (h : (Targets.load disk pages included excluded).2 = .ok targets) :
    Passes (checkManifest disk pages) := by
  unfold Targets.load at h
  unfold checkManifest
  dsimp only
  cases hthere : disk.isThere pages with
  | error fault =>
      rw [hthere] at h
      exact absurd h (by simp)
  | ok there =>
      rw [hthere] at h
      cases there with
      | false => exact ⟨_, rfl, by simp⟩
      | true =>
          dsimp only at h ⊢
          cases hfile : Targets.ofFile disk pages included excluded with
          | error fault =>
              rw [hfile] at h
              exact absurd h (by simp)
          | ok found =>
              obtain ⟨v, hv, _⟩ := bind_eq_ok_iff.mp hfile
              rw [hv]
              exact ⟨_, rfl, by simp⟩

open Command in
theorem checkSource_passes_iff {disk : Disk} {root : Path} {options : Options} :
    Passes (checkSource disk root options) ↔ ∃ source, sourceIn disk root options = .ok source := by
  unfold checkSource sourceIn
  dsimp only
  cases hpath : pathFrom root options.sourceDir with
  | error fault => simp [Passes, bind, Except.bind]
  | ok source =>
      cases hdirectory : disk.isDirectory source with
      | error fault => simp [Passes, bind, Except.bind, hdirectory]
      | ok there =>
          cases there with
          | true => simp [Passes, bind, Except.bind, pure, Except.pure, hdirectory]
          | false => simp [Passes, bind, Except.bind, pure, Except.pure, hdirectory]

open Command in
theorem checkComponent_passes_iff {disk : Disk} {root : Path} {options : Options} :
    Passes (checkComponent disk root options) ↔ requiredIn disk root options = .ok () := by
  unfold checkComponent requiredIn
  dsimp only
  cases hlocate : Component.locate disk root options.componentPath options.aliases with
  | ok file => simp [Passes, bind, Except.bind, pure, Except.pure]
  | error fault =>
      cases fault with
      | component cause => simp [Passes, bind, Except.bind]
      | _ => simp [Passes, bind, Except.bind]

/-! ## All checks together -/

open Command in
/-- The checks of a project whose options could be read. -/
theorem checkProject_allPass_iff {disk : Disk} {root : Path} {options : Options} {first : Check}
    (hfirst : first.status ≠ .error) :
    AllPass (checkProject disk root options first).2 ↔
      (∃ targets, targetsIn disk root options = .ok targets) ∧
        (∃ source, sourceIn disk root options = .ok source) ∧
        requiredIn disk root options = .ok () := by
  rw [← checkSource_passes_iff, ← checkComponent_passes_iff]
  unfold checkProject targetsIn
  cases hpath : pathFrom root options.pagesJson with
  | error fault => simp [AllPass, bind, Except.bind]
  | ok pages =>
      have hbind : ∀ f : Path → Except Fault Targets, (Except.ok pages >>= f) = f pages :=
        fun f => rfl
      rw [hbind, ← checkTargets_passes_iff]
      dsimp only
      constructor
      · intro h
        split at h
        · obtain ⟨_, h, _⟩ := h
          exact absurd h (by simp)
        · obtain ⟨checks, h, hall⟩ := h
          obtain ⟨targets, htargets, h⟩ := bind_eq_ok_iff.mp h
          obtain ⟨source, hsource, h⟩ := bind_eq_ok_iff.mp h
          obtain ⟨component, hcomponent, h⟩ := bind_eq_ok_iff.mp h
          injection h with h
          subst h
          exact ⟨⟨targets, htargets, hall targets (by simp)⟩,
            ⟨source, hsource, hall source (by simp)⟩,
            component, hcomponent, hall component (by simp)⟩
      · rintro ⟨⟨targets, htargets, htok⟩, ⟨source, hsource, hsok⟩, component, hcomponent, hcok⟩
        -- nothing is asked about the manifest: it passes because the pages could be read from it
        obtain ⟨found, hfound⟩ := checkTargets_passes_iff.mp ⟨targets, htargets, htok⟩
        obtain ⟨manifest, hmanifest, hmok⟩ := checkManifest_passes hfound
        rw [hmanifest]
        refine ⟨[first, manifest, targets, source, component], ?_, ?_⟩
        · dsimp only
          rw [htargets, hsource, hcomponent]
          rfl
        · intro c hc
          simp only [List.mem_cons, List.not_mem_nil, or_false] at hc
          rcases hc with rfl | rfl | rfl | rfl | rfl
          · exact hfirst
          · exact hmok
          · exact htok
          · exact hsok
          · exact hcok

open Command in
theorem collect_allPass_iff {disk : Disk} {config root : Path} :
    AllPass (collect disk config root).2 ↔
      ∃ options, Options.load disk config = .ok options ∧
        (∃ targets, targetsIn disk root options = .ok targets) ∧
        (∃ source, sourceIn disk root options = .ok source) ∧
        requiredIn disk root options = .ok () := by
  unfold collect checkOptions
  cases hload : Options.load disk config with
  | ok options =>
      dsimp only
      rw [checkProject_allPass_iff (by simp)]
      simp
  | error fault =>
      cases fault with
      | config cause => simp [AllPass]
      | _ => simp [AllPass]

end Diagnosis

namespace Command

open Session Diagnosis

/-- **A check succeeds** where everything is there. -/
theorem checkedIn_eq_ok_iff (place : Place) (disk : Disk) :
    checkedIn place disk = .ok () ↔
      ∃ options, place.optionsIn disk = .ok options ∧
        (∃ targets, targetsIn disk (place.rootIn disk) options = .ok targets) ∧
        (∃ source, sourceIn disk (place.rootIn disk) options = .ok source) ∧
        requiredIn disk (place.rootIn disk) options = .ok () := by
  have hcollect := @collect_allPass_iff disk (configOf place (place.rootIn disk))
    (place.rootIn disk)
  have hpass : checkedIn place disk = .ok () ↔
      AllPass (collect disk (configOf place (place.rootIn disk)) (place.rootIn disk)).2 := by
    unfold checkedIn AllPass
    dsimp only
    rw [bind_eq_ok_iff]
    refine exists_congr fun checks => and_congr_right fun _ => ?_
    have hcount : Diagnosis.count .error (checks.map (·.status)) = 0 ↔
        ∀ c ∈ checks, c.status ≠ .error := by
      rw [Diagnosis.count, List.count_eq_zero]
      simp
    rw [← hcount]
    cases hzero : Diagnosis.count .error (checks.map (·.status)) with
    | zero => simp [pure, Except.pure]
    | succ n => simp
  exact hpass.trans hcollect

/-- **A project is loaded** where everything is there and the options give a draft with a tag. -/
theorem setupIn_eq_ok_iff {place : Place} {disk : Disk} {setup : Setup} :
    setupIn place disk = .ok setup ↔
      setup.root = place.rootIn disk ∧
        ∃ options, place.optionsIn disk = .ok options ∧
          requiredIn disk (place.rootIn disk) options = .ok () ∧
          options.draft = .ok setup.draft ∧
          targetsIn disk (place.rootIn disk) options = .ok setup.targets ∧
          (∃ tag, setup.draft.tag = .ok tag) ∧
          sourceIn disk (place.rootIn disk) options = .ok setup.source := by
  unfold setupIn
  constructor
  · intro h
    obtain ⟨options, hoptions, h⟩ := bind_eq_ok_iff.mp h
    obtain ⟨_, hrequired, h⟩ := bind_eq_ok_iff.mp h
    obtain ⟨draft, hdraft, h⟩ := bind_eq_ok_iff.mp h
    obtain ⟨targets, htargets, h⟩ := bind_eq_ok_iff.mp h
    obtain ⟨tag, htag, h⟩ := bind_eq_ok_iff.mp h
    obtain ⟨source, hsource, h⟩ := bind_eq_ok_iff.mp h
    injection h with h
    subst h
    exact ⟨rfl, options, hoptions, hrequired, hdraft, htargets, ⟨tag, htag⟩, hsource⟩
  · obtain ⟨root, draft, targets, source⟩ := setup
    rintro ⟨rfl, options, hoptions, hrequired, hdraft, htargets, ⟨tag, htag⟩, hsource⟩
    dsimp only at hdraft htargets htag hsource
    rw [hoptions, bind_eq_ok_iff]
    refine ⟨options, rfl, ?_⟩
    rw [hrequired, hdraft, htargets, hsource]
    simp only [bind, Except.bind, htag]
    rfl

/-- With a draft that is a spec, every document is treated. -/
theorem visitAll_isOk {draft : Draft} {targets : Targets} (hspec : draft.spec? ≠ none)
    (dryRun : Bool) : ∀ (files : List Path) (t : Transcript),
      ∃ outcomes t', visitAll draft targets dryRun files t = .ok outcomes t'
  | [], t => ⟨[], t, rfl⟩
  | file :: files, t => by
      obtain ⟨outcome, houtcome⟩ : ∃ outcome, outcomeOf draft targets t.disk file = .ok outcome :=
        outcomeOf_isOk hspec t.disk file
      obtain ⟨t₁, hvisit, _⟩ := visit_ok dryRun houtcome
      obtain ⟨outcomes, t₂, hrest⟩ := visitAll_isOk hspec dryRun files t₁
      refine ⟨outcome :: outcomes, t₂, ?_⟩
      rw [visitAll_cons hvisit, hrest]

/-- An injection that need not be strict succeeds once its project is loaded. -/
theorem inject_status_eq_zero_iff {place : Place} {disk : Disk}
    (hspec : ∀ setup, setupIn place disk = .ok setup → setup.draft.spec? ≠ none) (level : Level)
    (dryRun : Bool) :
    (execute level (.inject place dryRun false) disk).status = 0 ↔
      ∃ setup, setupIn place disk = .ok setup := by
  have hprepare := follows_prepare disk place ⟨disk, [], []⟩ rfl
  cases hsetup : setupIn place disk with
  | error fault =>
      rw [hsetup] at hprepare
      obtain ⟨e, t, he, _, hexit⟩ := hprepare
      refine iff_of_false ?_ (by simp)
      rw [(execute_inject_error (bind_error he) level false).1]
      exact Ending.status_ne_zero hexit
  | ok setup =>
      rw [hsetup] at hprepare
      obtain ⟨t, hok, _⟩ := hprepare
      have hfiles : Session.disk t = .ok t.disk t := rfl
      obtain ⟨outcomes, t', hvisit⟩ : ∃ outcomes t', visitAll setup.draft setup.targets dryRun
          (t.disk.documents setup.source) t = .ok outcomes t' :=
        visitAll_isOk (hspec setup hsetup) dryRun _ t
      have hsurvey : survey place dryRun ⟨disk, [], []⟩ = .ok (setup, ⟨outcomes⟩) t' := by
        rw [survey, bind_ok hok, bind_ok hfiles]
        exact bind_ok hvisit
      exact iff_of_true (execute_inject_ok hsurvey level false).1 ⟨setup, rfl⟩

/-- **When a check tells how an injection ends.** For options whose names, path and template
have the right kinds, an injection that need not be strict succeeds exactly if the check of the
project does and the component has a name, given or from a part of its path that is neither
empty nor a single dot. -/
theorem inject_succeeds_iff {place : Place} {disk : Disk}
    (htyped : ∀ options, place.optionsIn disk = .ok options → options.WellTyped) (level : Level)
    (dryRun : Bool) :
    (execute level (.inject place dryRun false) disk).status = 0 ↔
      (execute level (.check place) disk).status = 0 ∧
        ∀ options, place.optionsIn disk = .ok options → options.HasName := by
  have hcheck := status_eq_zero_iff level (.check place) (follows_check disk place)
  -- the draft is where the commands part: a check makes none
  have hdraft : ∀ {options}, place.optionsIn disk = .ok options →
      (options.HasName ∧ ∃ d, options.draft = .ok d ∧ (∃ tag, d.tag = .ok tag) ∧
        d.spec? ≠ none) ∨ (¬ options.HasName ∧ ∃ fault, options.draft = .error fault) :=
    fun h => (htyped _ h).draft_cases (Options.componentPath_isTruthy h)
  have hspec : ∀ setup, setupIn place disk = .ok setup → setup.draft.spec? ≠ none := by
    intro setup hsetup
    obtain ⟨_, options, hoptions, _, hd, _⟩ := setupIn_eq_ok_iff.mp hsetup
    rcases hdraft hoptions with ⟨_, d, hd', _, hspec⟩ | ⟨_, fault, hd'⟩
    · rw [hd] at hd'
      injection hd' with hd'
      rwa [hd']
    · rw [hd] at hd'
      exact absurd hd' (by simp)
  rw [inject_status_eq_zero_iff hspec, hcheck, checkedIn_eq_ok_iff]
  constructor
  · rintro ⟨setup, hsetup⟩
    obtain ⟨_, options, hoptions, hrequired, hd, htargets, _, hsource⟩ :=
      setupIn_eq_ok_iff.mp hsetup
    refine ⟨⟨options, hoptions, ⟨_, htargets⟩, ⟨_, hsource⟩, hrequired⟩, ?_⟩
    intro options' hoptions'
    rcases hdraft hoptions' with ⟨hname, _⟩ | ⟨_, fault, hd'⟩
    · exact hname
    · rw [hoptions] at hoptions'
      injection hoptions' with hoptions'
      rw [← hoptions', hd] at hd'
      exact absurd hd' (by simp)
  · rintro ⟨⟨options, hoptions, ⟨targets, htargets⟩, ⟨source, hsource⟩, hrequired⟩, hnamed⟩
    rcases hdraft hoptions with ⟨_, d, hd, htag, _⟩ | ⟨hname, _⟩
    · exact ⟨⟨place.rootIn disk, d, targets, source⟩, setupIn_eq_ok_iff.mpr
        ⟨rfl, options, hoptions, hrequired, hd, htargets, htag, hsource⟩⟩
    · exact absurd (hnamed options hoptions) hname

/-- A project whose component is found at the path of a single dot, which names the directory
of the project: the ending is put after the directory's own name. -/
def namelessProject : Disk :=
  let app := "app".toList
  { here := [app]
    entries :=
      [([app], .directory),
        ([app, "uniinject.json".toList],
          .file (Utf8.encode "\x7b\"componentPath\": \".\"\x7d".toList)),
        (["app.vue".toList], .file (Utf8.encode "<template></template>".toList)),
        ([app, "src".toList], .directory)] }

/-- The check of that project succeeds, and still no injection does. -/
theorem namelessProject_misjudged :
    (∃ options, Place.optionsIn {} namelessProject = .ok options ∧ options.WellTyped ∧
        ¬ options.HasName) ∧
      (execute .info (.check {}) namelessProject).status = 0 ∧
      ∀ dryRun, (execute .info (.inject {} dryRun false) namelessProject).status ≠ 0 := by
  have hjudged : ∃ options, Place.optionsIn {} namelessProject = .ok options ∧
      options.WellTyped ∧ ¬ options.HasName := by decide +kernel
  refine ⟨hjudged, by decide +kernel, ?_⟩
  intro dryRun hzero
  obtain ⟨options, hload, htyped, hnameless⟩ := hjudged
  have hall : ∀ o, Place.optionsIn {} namelessProject = .ok o → o.WellTyped := by
    intro o ho
    have hsame : options = o := Except.ok.inj (hload.symm.trans ho)
    exact hsame ▸ htyped
  have hnamed := ((inject_succeeds_iff hall .info dryRun).mp hzero).2
  exact hnameless (hnamed options hload)

end Command

end Graft
