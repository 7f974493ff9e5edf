import Graft.Proofs.FileTree
import Graft.Proofs.Sessions

/-!
# A dry run tells what a run will do

A run goes through the documents of a project one after the other, and writes each new text
before it reads the next document. A dry run does the same and writes nothing. Both have the
same results, and the tree that the run leaves can be read off those of the dry run
(`dry_run_predicts`).

What becomes of a document is a matter of its own text (`outcomeOf`), and no document stands
where another one does, so the texts written so far are not read again. That is the step
(`outcomeOf_treeAfter`); the run (`visitAll_run`) goes by induction over the documents. The
tree after a run is the tree before it with the new texts in place (`Settled`).

A run can also end half way, with a fault, but only for a draft with a part of the wrong kind,
and such a draft never changes a document (`not_mutated_of_odd`). So a run that does not come
to its end has not written anything.
-/

namespace Graft.Command

open Text Session Disk

/-! ## One document -/

/-- What becomes of a document in a tree. -/
def outcomeOf (draft : Draft) (targets : Targets) (disk : Disk) (file : Path) :
    Except Fault Outcome :=
  match disk.readText file with
  | .error fault => .ok ⟨file.toText, [], .failed fault.message⟩
  | .ok code => draft.transform file.toText code (some targets)

/-- The tree after a document was treated. -/
def treeAfter (dryRun : Bool) (disk : Disk) (file : Path) (outcome : Outcome) : Disk :=
  if outcome.mutated && !dryRun then disk.writeText file outcome.text else disk

section Visit

variable {draft : Draft} {targets : Targets} {file : Path} {outcome : Outcome}

theorem visit_error {t : Transcript} {fault : Fault} (dryRun : Bool)
    (h : outcomeOf draft targets t.disk file = .error fault) :
    visit draft targets dryRun file t = .error (.fault fault) t := by
  have hdisk : Session.disk t = .ok t.disk t := rfl
  unfold outcomeOf at h
  unfold visit
  dsimp only
  rw [bind_ok hdisk]
  cases hread : t.disk.readText file with
  | error other =>
      rw [hread] at h
      exact absurd h (by simp)
  | ok code =>
      rw [hread] at h
      dsimp only at h ⊢
      rw [h]
      rfl

theorem visit_ok {t : Transcript} (dryRun : Bool)
    (h : outcomeOf draft targets t.disk file = .ok outcome) :
    ∃ t', visit draft targets dryRun file t = .ok outcome t' ∧
      t'.disk = treeAfter dryRun t.disk file outcome := by
  have hdisk : Session.disk t = .ok t.disk t := rfl
  unfold outcomeOf at h
  unfold visit treeAfter
  dsimp only
  rw [bind_ok hdisk]
  cases hread : t.disk.readText file with
  | error fault =>
      rw [hread] at h
      injection h with h
      subst h
      exact ⟨_, rfl, rfl⟩
  | ok code =>
      rw [hread] at h
      dsimp only at h ⊢
      have hattempt : attempt (.ok outcome) t = .ok outcome t := rfl
      have hnote : note (draft.records code outcome) t =
          .ok () { t with records := t.records ++ draft.records code outcome } := rfl
      rw [h, bind_ok hattempt, bind_ok hnote]
      by_cases hwrite : (outcome.mutated && !dryRun) = true
      · rw [if_pos hwrite, if_pos hwrite]
        exact ⟨_, rfl, rfl⟩
      · rw [if_neg hwrite, if_neg hwrite]
        exact ⟨_, rfl, rfl⟩

/-- A document with a new text was read from a file. -/
theorem exists_file_of_mutated {disk : Disk} (h : outcomeOf draft targets disk file = .ok outcome)
    (hm : outcome.mutated = true) :
    ∃ place content, disk.place? file = some place ∧
      disk.nodeAt? place = some (.file content) := by
  cases hread : disk.readText file with
  | error fault =>
      rw [outcomeOf, hread] at h
      injection h with h
      subst h
      exact absurd hm (by simp [Outcome.mutated])
  | ok code => exact exists_file_of_readText hread

/-- **Treating a document** changes what stands at its own place at most. -/
theorem treeAfter_frame {disk : Disk} (h : outcomeOf draft targets disk file = .ok outcome)
    (dryRun : Bool) :
    SameShape disk (treeAfter dryRun disk file outcome) ∧
      ∀ place, disk.place? file ≠ some place →
        (treeAfter dryRun disk file outcome).nodeAt? place = disk.nodeAt? place := by
  unfold treeAfter
  split
  · rename_i hwrite
    obtain ⟨place, content, hplace, hnode⟩ := exists_file_of_mutated h (Bool.and_eq_true_iff.mp hwrite).1
    obtain ⟨hne, hshape⟩ := sameShape_setAt hnode (Utf8.encode outcome.text)
    rw [writeText, hplace]
    refine ⟨hshape, fun q hq => ?_⟩
    dsimp only
    rw [nodeAt?_setAt disk hne, if_neg]
    rintro rfl
    exact hq rfl
  · exact ⟨SameShape.refl disk, fun _ _ => rfl⟩

/-- A new text is found in its place. -/
theorem treeAfter_written {disk : Disk} (h : outcomeOf draft targets disk file = .ok outcome)
    (hm : outcome.mutated = true) :
    ∃ place, disk.place? file = some place ∧
      (treeAfter false disk file outcome).nodeAt? place =
        some (.file (Utf8.encode outcome.text)) := by
  obtain ⟨place, content, hplace, hnode⟩ := exists_file_of_mutated h hm
  obtain ⟨hne, _⟩ := sameShape_setAt hnode (Utf8.encode outcome.text)
  refine ⟨place, hplace, ?_⟩
  rw [treeAfter, hm, if_pos (by decide), writeText, hplace]
  dsimp only
  rw [nodeAt?_setAt disk hne, if_pos rfl]

/-- **The step**: what becomes of a document does not depend on another that was treated
before it. -/
theorem outcomeOf_treeAfter {disk : Disk} {other : Path}
    (h : outcomeOf draft targets disk file = .ok outcome) (dryRun : Bool)
    (hapart : ∀ place, disk.place? file = some place → disk.place? other ≠ some place) :
    outcomeOf draft targets (treeAfter dryRun disk file outcome) other =
      outcomeOf draft targets disk other := by
  obtain ⟨hshape, hkept⟩ := treeAfter_frame h dryRun
  have hread : (treeAfter dryRun disk file outcome).readText other = disk.readText other := by
    refine hshape.readText_eq fun place hother => hkept place ?_
    intro hfile
    exact hapart place hfile hother
  rw [outcomeOf, outcomeOf, hread]

end Visit

/-! ## All documents -/

/-- What becomes of the documents in a tree. -/
def outcomesOf (draft : Draft) (targets : Targets) (disk : Disk) (files : List Path) :
    Except Fault (List Outcome) :=
  files.mapM (outcomeOf draft targets disk)

/-- A tree with the results of a run in place: the documents with a new text hold it, and
every other place is as it was. -/
structure Settled (disk disk' : Disk) (results : List (Path × Outcome)) : Prop where
  /-- No place comes or goes. -/
  shape : SameShape disk disk'
  /-- A new text stands where its document stood. -/
  written : ∀ file outcome, (file, outcome) ∈ results → outcome.mutated = true →
    ∃ place, disk.place? file = some place ∧
      disk'.nodeAt? place = some (.file (Utf8.encode outcome.text))
  /-- Nothing else is different. -/
  kept : ∀ place, (∀ file outcome, (file, outcome) ∈ results → outcome.mutated = true →
    disk.place? file ≠ some place) → disk'.nodeAt? place = disk.nodeAt? place

theorem settled_nil (disk : Disk) : Settled disk disk [] :=
  ⟨SameShape.refl disk, fun _ _ h => absurd h (by simp), fun _ _ => rfl⟩

section Run

variable {draft : Draft} {targets : Targets}

/-- The results of a first document and of those after it. -/
theorem Settled.cons {disk disk' : Disk} {file : Path} {outcome : Outcome}
    {results : List (Path × Outcome)} (h : outcomeOf draft targets disk file = .ok outcome)
    (hrest : Settled (treeAfter false disk file outcome) disk' results)
    (hapart : ∀ other o, (other, o) ∈ results →
      ∀ place, disk.place? file = some place → disk.place? other ≠ some place) :
    Settled disk disk' ((file, outcome) :: results) := by
  obtain ⟨hshape, hkept⟩ := treeAfter_frame h false
  refine ⟨hshape.trans hrest.shape, ?_, ?_⟩
  · intro other o hmem hm
    rcases List.mem_cons.mp hmem with heq | hmem
    · injection heq with hother ho
      subst hother ho
      obtain ⟨place, hplace, hnode⟩ := treeAfter_written h hm
      refine ⟨place, hplace, ?_⟩
      -- the documents after it stand elsewhere, so its new text stays
      rw [hrest.kept place, hnode]
      intro other o hmem _
      rw [hshape.place?_eq]
      exact hapart other o hmem place hplace
    · obtain ⟨place, hplace, hnode⟩ := hrest.written other o hmem hm
      rw [hshape.place?_eq] at hplace
      exact ⟨place, hplace, hnode⟩
  · intro place hplace
    have hfirst : (treeAfter false disk file outcome).nodeAt? place = disk.nodeAt? place := by
      cases hm : outcome.mutated with
      | true => exact hkept place (hplace file outcome (by simp) hm)
      | false => rw [treeAfter, hm, if_neg (by simp)]
    rw [hrest.kept place, hfirst]
    intro other o hmem hm
    rw [hshape.place?_eq]
    exact hplace other o (by simp [hmem]) hm

theorem outcomesOf_cons_error {disk : Disk} {file : Path} {fault : Fault}
    (h : outcomeOf draft targets disk file = .error fault) (files : List Path) :
    outcomesOf draft targets disk (file :: files) = .error fault := by
  rw [outcomesOf, List.mapM_cons, h]
  rfl

theorem outcomesOf_cons_ok {disk : Disk} {file : Path} {outcome : Outcome}
    (h : outcomeOf draft targets disk file = .ok outcome) (files : List Path) :
    outcomesOf draft targets disk (file :: files) =
      (outcomesOf draft targets disk files).map (outcome :: ·) := by
  rw [outcomesOf, List.mapM_cons, h]
  rfl

/-- A draft that is a spec always gives an outcome. -/
theorem outcomeOf_isOk (hspec : draft.spec? ≠ none) (disk : Disk) (file : Path) :
    ∃ outcome, outcomeOf draft targets disk file = .ok outcome := by
  obtain ⟨spec, hspec⟩ := Option.ne_none_iff_exists'.mp hspec
  unfold outcomeOf
  split
  · exact ⟨_, rfl⟩
  · rw [Draft.transform, hspec]
    exact ⟨_, rfl⟩

theorem outcomesOf_isOk (hspec : draft.spec? ≠ none) (disk : Disk) (files : List Path) :
    ∃ outcomes, outcomesOf draft targets disk files = .ok outcomes := by
  induction files with
  | nil => exact ⟨[], rfl⟩
  | cons file files ih =>
      obtain ⟨outcome, houtcome⟩ : ∃ outcome, outcomeOf draft targets disk file = .ok outcome :=
        outcomeOf_isOk hspec disk file
      obtain ⟨outcomes, houtcomes⟩ := ih
      refine ⟨outcome :: outcomes, ?_⟩
      rw [outcomesOf_cons_ok houtcome, houtcomes]
      rfl

/-- A draft that is none changes no document. -/
theorem not_mutated_of_odd {disk : Disk} {file : Path} {outcome : Outcome}
    (hspec : draft.spec? = none) (h : outcomeOf draft targets disk file = .ok outcome) :
    outcome.mutated = false := by
  unfold outcomeOf at h
  split at h
  · injection h with h
    rw [← h]
    rfl
  · rw [Draft.transform, hspec] at h
    dsimp only at h
    unfold Draft.transformOdd at h
    split at h
    · injection h with h
      rw [← h]
      rfl
    · split at h
      · exact absurd h (by simp)
      · injection h with h
        rw [← h]
        rfl
      · injection h with h
        rw [← h]
        rfl

theorem outcomesOf_treeAfter {disk : Disk} {file : Path} {outcome : Outcome}
    (h : outcomeOf draft targets disk file = .ok outcome) (dryRun : Bool) {files : List Path}
    (hapart : ∀ other ∈ files,
      ∀ place, disk.place? file = some place → disk.place? other ≠ some place) :
    outcomesOf draft targets (treeAfter dryRun disk file outcome) files =
      outcomesOf draft targets disk files := by
  unfold outcomesOf
  induction files with
  | nil => rfl
  | cons other files ih =>
      rw [List.mapM_cons, List.mapM_cons, outcomeOf_treeAfter h dryRun (hapart other (by simp)),
        ih fun p hp => hapart p (by simp [hp])]

/-- The run goes on with the documents that are left. -/
theorem visitAll_cons {dryRun : Bool} {file : Path} {outcome : Outcome} {t t₁ : Transcript}
    (h : visit draft targets dryRun file t = .ok outcome t₁) (files : List Path) :
    visitAll draft targets dryRun (file :: files) t =
      match visitAll draft targets dryRun files t₁ with
      | .ok outcomes t' => .ok (outcome :: outcomes) t'
      | .error e t' => .error e t' := by
  rw [visitAll, bind_ok h]
  cases hrest : visitAll draft targets dryRun files t₁ with
  | ok outcomes t' => exact bind_ok hrest
  | error e t' => exact bind_error hrest

/-- A draft for which a run does not come to its end is no spec. -/
theorem spec?_eq_none_of_error {disk : Disk} {files : List Path} {fault : Fault}
    (h : outcomesOf draft targets disk files = .error fault) : draft.spec? = none := by
  by_contra hspec
  obtain ⟨outcomes, hok⟩ : ∃ outcomes, outcomesOf draft targets disk files = .ok outcomes :=
    outcomesOf_isOk hspec disk files
  rw [h] at hok
  exact absurd hok (by simp)

variable (draft targets) in
/-- **The run**: the documents are treated as if each was the only one. -/
theorem visitAll_run (dryRun : Bool) : ∀ {files : List Path} {t : Transcript},
    (files.Pairwise fun p q =>
      ∀ place, t.disk.place? p = some place → t.disk.place? q ≠ some place) →
    match outcomesOf draft targets t.disk files with
    | .error fault => ∃ t', visitAll draft targets dryRun files t = .error (.fault fault) t' ∧
        t'.disk = t.disk
    | .ok outcomes => ∃ t', visitAll draft targets dryRun files t = .ok outcomes t' ∧
        (dryRun = true → t'.disk = t.disk) ∧
        (dryRun = false → Settled t.disk t'.disk (files.zip outcomes))
  | [], t, _ => ⟨t, rfl, fun _ => rfl, fun _ => settled_nil t.disk⟩
  | file :: files, t, hapart => by
      obtain ⟨hfile, hfiles⟩ := List.pairwise_cons.mp hapart
      cases hfirst : outcomeOf draft targets t.disk file with
      | error fault =>
          rw [outcomesOf_cons_error hfirst]
          exact ⟨t, bind_error (visit_error dryRun hfirst), rfl⟩
      | ok outcome =>
          obtain ⟨t₁, hvisit, htree⟩ := visit_ok dryRun hfirst
          obtain ⟨hshape, _⟩ := treeAfter_frame hfirst dryRun
          rw [← htree] at hshape
          have hsame : outcomesOf draft targets t₁.disk files =
              outcomesOf draft targets t.disk files := by
            rw [htree]
            exact outcomesOf_treeAfter hfirst dryRun hfile
          have hfiles₁ : files.Pairwise fun p q => ∀ place, t₁.disk.place? p = some place →
              t₁.disk.place? q ≠ some place := by
            simp only [hshape.place?_eq]
            exact hfiles
          -- the induction is over the documents that are left, from the tree after the first
          have hrest := visitAll_run dryRun hfiles₁
          rw [hsame] at hrest
          rw [outcomesOf_cons_ok hfirst, visitAll_cons hvisit]
          cases houtcomes : outcomesOf draft targets t.disk files with
          | error fault =>
              rw [houtcomes] at hrest
              obtain ⟨t', hrun, hdisk⟩ := hrest
              refine ⟨t', by rw [hrun], ?_⟩
              -- only an odd draft ends the run, and it has not changed the first document
              have hodd : draft.spec? = none := spec?_eq_none_of_error houtcomes
              rw [hdisk, htree, treeAfter, not_mutated_of_odd hodd hfirst]
              rfl
          | ok outcomes =>
              rw [houtcomes] at hrest
              obtain ⟨t', hrun, hdry, hreal⟩ := hrest
              refine ⟨t', by rw [hrun], ?_, ?_⟩
              · rintro rfl
                rw [hdry rfl, htree, treeAfter, Bool.not_true, Bool.and_false]
                rfl
              · rintro rfl
                have hsettled := hreal rfl
                rw [htree] at hsettled
                rw [List.zip_cons_cons]
                refine hsettled.cons hfirst ?_
                intro other o hmem
                exact hfile other (List.of_mem_zip hmem).1

end Run

/-! ## The whole command -/

/-- The results of treating every document of a project, or why there are none. -/
def results (place : Place) (dryRun : Bool) (disk : Disk) : Except Ending (Setup × Report) :=
  match survey place dryRun ⟨disk, [], []⟩ with
  | .ok found _ => .ok found
  | .error e _ => .error e

/-- What a survey comes to, dry or not. -/
theorem survey_run {t : Transcript} (ht : t.disk.Proper) (place : Place) :
    (∃ e, ∀ dryRun, ∃ t', survey place dryRun t = .error e t' ∧ t'.disk = t.disk) ∨
    ∃ setup report,
      outcomesOf setup.draft setup.targets t.disk (t.disk.documents setup.source) =
        .ok report.outcomes ∧
      ∀ dryRun, ∃ t', survey place dryRun t = .ok (setup, report) t' ∧
        (dryRun = true → t'.disk = t.disk) ∧
        (dryRun = false →
          Settled t.disk t'.disk ((t.disk.documents setup.source).zip report.outcomes)) := by
  have hprepare := follows_prepare t.disk place t rfl
  cases hsetup : setupIn place t.disk with
  | error fault =>
      rw [hsetup] at hprepare
      obtain ⟨e, t', he, hdisk, _⟩ := hprepare
      exact Or.inl ⟨e, fun dryRun => ⟨t', bind_error he, hdisk⟩⟩
  | ok setup =>
      rw [hsetup] at hprepare
      obtain ⟨t₁, hok, hdisk⟩ := hprepare
      have hfiles : Session.disk t₁ = .ok t.disk t₁ := by
        rw [← hdisk]
        rfl
      have hapart : (t.disk.documents setup.source).Pairwise fun p q => ∀ place,
          t₁.disk.place? p = some place → t₁.disk.place? q ≠ some place := by
        rw [hdisk]
        exact documents_apart ht setup.source
      have hrun : ∀ dryRun, survey place dryRun t =
          (visitAll setup.draft setup.targets dryRun (t.disk.documents setup.source) >>=
            fun outcomes => pure (setup, ⟨outcomes⟩)) t₁ := by
        intro dryRun
        rw [survey, bind_ok hok, bind_ok hfiles]
      have hvisit := fun dryRun => visitAll_run setup.draft setup.targets dryRun hapart
      rw [hdisk] at hvisit
      cases houtcomes : outcomesOf setup.draft setup.targets t.disk
          (t.disk.documents setup.source) with
      | error fault =>
          rw [houtcomes] at hvisit
          refine Or.inl ⟨.fault fault, fun dryRun => ?_⟩
          obtain ⟨t', he, hdisk'⟩ := hvisit dryRun
          exact ⟨t', (hrun dryRun).trans (bind_error he), hdisk'⟩
      | ok outcomes =>
          rw [houtcomes] at hvisit
          refine Or.inr ⟨setup, ⟨outcomes⟩, houtcomes, fun dryRun => ?_⟩
          obtain ⟨t', he, hdry, hreal⟩ := hvisit dryRun
          exact ⟨t', (hrun dryRun).trans (bind_ok he), hdry, hreal⟩

/-- A survey without results ends the command. -/
theorem execute_inject_error {disk : Disk} {t : Transcript} {place : Place} {dryRun : Bool}
    {e : Ending} (h : survey place dryRun ⟨disk, [], []⟩ = .error e t) (level : Level)
    (strict : Bool) :
    let left := execute level (.inject place dryRun strict) disk
    left.status = e.status ∧ left.fault = e.fault? ∧ left.disk = t.disk :=
  execute_error level (.inject place dryRun strict) (bind_error h)

/-- After a survey, the command shows the results and fails only where it is strict. -/
theorem execute_inject_ok {disk : Disk} {t : Transcript} {place : Place} {dryRun : Bool}
    {setup : Setup} {report : Report}
    (h : survey place dryRun ⟨disk, [], []⟩ = .ok (setup, report) t) (level : Level)
    (strict : Bool) :
    let left := execute level (.inject place dryRun strict) disk
    left.status = (if strict && !report.success then 1 else 0) ∧ left.fault = none ∧
      left.disk = t.disk := by
  obtain ⟨t₁, htable, hdisk₁⟩ :=
    follows_print t.disk (resultTable setup.root dryRun report) t rfl
  obtain ⟨t₂, hline, hdisk₂⟩ :=
    follows_print t.disk (.text (resultLine setup.targets report)) t₁ hdisk₁
  have hinject : inject place dryRun strict ⟨disk, [], []⟩ =
      if strict && !report.success then .error (.exit 1) t₂ else .ok () t₂ := by
    rw [inject, bind_ok h]
    dsimp only
    rw [bind_ok htable]
    refine (bind_ok hline).trans ?_
    split
    · rfl
    · rfl
  by_cases hstrict : (strict && !report.success) = true
  · rw [if_pos hstrict] at hinject ⊢
    have hleft := execute_error level (.inject place dryRun strict) hinject
    exact ⟨hleft.1, hleft.2.1, hleft.2.2.trans hdisk₂⟩
  · rw [if_neg hstrict] at hinject ⊢
    have hleft := execute_ok level (.inject place dryRun strict) hinject
    exact ⟨hleft.1, hleft.2.1, hleft.2.2.trans hdisk₂⟩

/-- **A dry run predicts the run.** In a proper tree, a dry run leaves everything as it is, and
the run has the same results, the same exit status and the same fault, if any. Where there are
results, they are what becomes of the documents as they were, and the tree after the run has the
new texts in place and is otherwise the same. Where there are none, it is the same. -/
theorem dry_run_predicts {disk : Disk} (hdisk : disk.Proper) (level : Level) (place : Place)
    (strict : Bool) :
    let dry := execute level (.inject place true strict) disk
    let real := execute level (.inject place false strict) disk
    dry.disk = disk ∧ results place false disk = results place true disk ∧
      real.status = dry.status ∧ real.fault = dry.fault ∧
      match results place true disk with
      | .error _ => real.disk = disk
      | .ok (setup, report) =>
        outcomesOf setup.draft setup.targets disk (disk.documents setup.source) =
            .ok report.outcomes ∧
          Settled disk real.disk ((disk.documents setup.source).zip report.outcomes) := by
  intro dry real
  rcases survey_run (t := ⟨disk, [], []⟩) hdisk place with ⟨e, hnone⟩ | ⟨setup, report, hout, hsome⟩
  · have hresults : ∀ dryRun, results place dryRun disk = .error e := by
      intro dryRun
      obtain ⟨t, ht, _⟩ := hnone dryRun
      rw [results, ht]
    obtain ⟨td, hsurvey, htd⟩ := hnone true
    obtain ⟨hdstatus, hdfault, hddisk⟩ := execute_inject_error hsurvey level strict
    obtain ⟨tr, hsurvey, htr⟩ := hnone false
    obtain ⟨hrstatus, hrfault, hrdisk⟩ := execute_inject_error hsurvey level strict
    rw [hresults, hresults]
    exact ⟨hddisk.trans htd, rfl, hrstatus.trans hdstatus.symm, hrfault.trans hdfault.symm,
      hrdisk.trans htr⟩
  · have hresults : ∀ dryRun, results place dryRun disk = .ok (setup, report) := by
      intro dryRun
      obtain ⟨t, ht, _⟩ := hsome dryRun
      rw [results, ht]
    obtain ⟨td, hsurvey, htd, _⟩ := hsome true
    obtain ⟨hdstatus, hdfault, hddisk⟩ := execute_inject_ok hsurvey level strict
    obtain ⟨tr, hsurvey, _, htr⟩ := hsome false
    obtain ⟨hrstatus, hrfault, hrdisk⟩ := execute_inject_ok hsurvey level strict
    rw [hresults, hresults]
    refine ⟨hddisk.trans (htd rfl), rfl, hrstatus.trans hdstatus.symm,
      hrfault.trans hdfault.symm, hout, ?_⟩
    have hsettled := htr rfl
    rw [← hrdisk] at hsettled
    exact hsettled

/-- A project with one page that gets the component and a document that cannot be read. -/
def smallProject : Disk :=
  let app := "app".toList
  let src := "src".toList
  { here := [app]
    entries :=
      [([app], .directory),
        ([app, "uniinject.json".toList],
          .file (Utf8.encode "\x7b\"componentPath\": \"Toast\"\x7d".toList)),
        ([app, "Toast.vue".toList], .file (Utf8.encode "<template></template>".toList)),
        ([app, src], .directory),
        ([app, src, "pages.json".toList],
          .file (Utf8.encode "\x7b\"pages\": [\x7b\"path\": \"a\"\x7d]\x7d".toList)),
        ([app, src, "a.vue".toList], .file (Utf8.encode "<template></template>".toList)),
        ([app, src, "b.vue".toList], .file [0xFF])] }

/-- The dry run says that the run will fail for the document that cannot be read, and the run
does so after it has written the page. -/
theorem smallProject_predicted :
    smallProject.Proper ∧
      (execute .info (.inject {} true true) smallProject).disk = smallProject ∧
      (execute .info (.inject {} false true) smallProject).status =
        (execute .info (.inject {} true true) smallProject).status ∧
      (execute .info (.inject {} true true) smallProject).status = 1 ∧
      (smallProject.changes (execute .info (.inject {} false true) smallProject).disk).map (·.1) =
        [["app".toList, "src".toList, "a.vue".toList]] := by
  have hproper : smallProject.Proper := by decide +kernel
  obtain ⟨hdry, _, hstatus, _⟩ := dry_run_predicts hproper .info {} true
  exact ⟨hproper, hdry, hstatus, by decide +kernel, by decide +kernel⟩

end Graft.Command
