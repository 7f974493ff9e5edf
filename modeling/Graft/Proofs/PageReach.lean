import Graft.Outcome
import Graft.Proofs.Words

/-!
# Which documents a page reaches

Pages are chosen by their whole paths, documents are matched by a part of their names. The
two do not agree: the document of a page that was not chosen receives the component when
the path of a chosen page ends like the page's own, as it does when a sub-package uses the
paths of the main package.

For a manifest whose paths are texts the choice is a filter (`ofManifest_texts`). What the
match does to the document of a page is said by `Reaches`, which lists the four ways in which
the path of a page can be found in the name of a document, and nothing else can happen
(`isPageOf_iff`). The two together give the exact condition under which a page's document is
accepted (`page_document_accepted_iff`).
-/

namespace Graft.Targets

open Text

/-! ## The choice -/

/-- A manifest: an object whose main package names its pages by texts. The paths of a
sub-package are texts in any case. -/
structure IsManifest (manifest : Value) : Prop where
  /-- Only an object has packages. -/
  isObject : ∃ fields, manifest = .object fields
  /-- The paths of the main package. -/
  texts : ∀ path ∈ pagePaths manifest, ∃ t, path = .str t

/-- A list of texts as a value. -/
def texts (ts : List Text) : Value := .list (ts.map .str)

/-- The fragments choose a path. -/
def isChosen (included excluded : List Text) (path : Text) : Bool :=
  if included.isEmpty then !excluded.any (occursIn · path) else included.any (occursIn · path)

theorem anyIn_texts (path : Text) : ∀ fragments : List Text,
    Value.anyIn (fragments.map .str) (.str path) = .ok (fragments.any (occursIn · path))
  | [] => rfl
  | fragment :: rest => by
      rw [List.map_cons, Value.anyIn, List.any_cons, Value.isIn]
      cases occursIn fragment path with
      | true => rfl
      | false =>
          dsimp only
          rw [anyIn_texts path rest, Bool.false_or]

/-- Keeping is filtering, where the test always has an answer. -/
theorem keep_texts {test : Value → Except Fault Bool} {answer : Text → Bool}
    (htest : ∀ path, test (.str path) = .ok (answer path)) (wanted : Bool) :
    ∀ paths : List Text, keep test wanted (paths.map .str) =
      .ok ((paths.filter (answer · == wanted)).map .str)
  | [] => rfl
  | path :: rest => by
      rw [List.map_cons, keep, htest, keep_texts htest wanted rest]
      rw [List.filter_cons]
      dsimp only [bind, Except.bind, pure, Except.pure]
      by_cases h : answer path = wanted
      · simp [h]
      · simp [h]

/-- **The choice** is a filter on the paths. -/
theorem choose_texts (paths included excluded : List Text) :
    choose (texts paths) (texts included) (texts excluded) =
      .ok ((paths.filter (isChosen included excluded)).map .str) := by
  unfold choose isChosen
  cases included with
  | cons fragment rest =>
      have h := keep_texts (fun path => anyIn_texts path (fragment :: rest)) true paths
      simp only [beq_true] at h
      exact h
  | nil =>
      cases excluded with
      | cons fragment rest =>
          have h := keep_texts (fun path => anyIn_texts path (fragment :: rest)) false paths
          simp only [beq_false] at h
          exact h
      | nil =>
          have hall : paths.filter (fun _ => true) = paths := by simp
          exact congrArg (fun kept : List Text => Except.ok (kept.map Value.str)) hall.symm

/-- Values that are all texts are a list of texts. -/
theorem exists_texts : ∀ {vs : List Value}, (∀ v ∈ vs, ∃ t, v = .str t) →
    ∃ ts : List Text, vs = ts.map .str
  | [], _ => ⟨[], rfl⟩
  | v :: vs, h => by
      obtain ⟨t, rfl⟩ := h v (by simp)
      obtain ⟨ts, rfl⟩ := exists_texts fun w (hw : w ∈ vs) => h w (by simp [hw])
      exact ⟨t :: ts, rfl⟩

theorem extract_texts {manifest : Value} (h : IsManifest manifest) :
    ∃ paths : List Text, extract manifest = .ok (paths.map .str) := by
  obtain ⟨fields, rfl⟩ := h.isObject
  have hsub : ∀ package, ∀ v ∈ subPaths package, ∃ t, v = .str t := by
    intro package v hv
    obtain ⟨path, _, rfl⟩ := List.mem_map.mp hv
    exact ⟨_, rfl⟩
  have hall : ∀ packages : List Value,
      ∀ v ∈ pagePaths (.object fields) ++ packages.flatMap subPaths, ∃ t, v = .str t := by
    intro packages v hv
    rcases List.mem_append.mp hv with hv | hv
    · exact h.texts v hv
    · obtain ⟨package, _, hv⟩ := List.mem_flatMap.mp hv
      exact hsub package v hv
  obtain ⟨paths, hpaths⟩ := exists_texts (hall _)
  exact ⟨paths, congrArg Except.ok hpaths⟩

/-- **The targets of a manifest**: all its pages, and those that are chosen. -/
theorem ofManifest_texts {manifest : Value} (h : IsManifest manifest)
    (included excluded : List Text) :
    ∃ paths : List Text, ofManifest manifest (texts included) (texts excluded) =
      .ok ⟨paths.map .str, (paths.filter (isChosen included excluded)).map .str⟩ := by
  obtain ⟨paths, hpaths⟩ := extract_texts h
  refine ⟨paths, ?_⟩
  rw [ofManifest, hpaths]
  have hchoose := choose_texts paths included excluded
  dsimp only [bind, Except.bind]
  rw [texts] at hchoose
  rw [hchoose]
  rfl

/-! ## The match -/

/-- The ways in which the path of a page is found in the name of another page's document, which
stands in a directory. -/
inductive Reaches (page dir path : Text) : Prop where
  /-- It is the page's own document. -/
  | own (h : page = path)
  /-- The other path ends in the page's, from a slash on. -/
  | tail (x : Text) (h : path = x ++ '/' :: page)
  /-- The page's path ends in the other, and starts in the directory. -/
  | longer (y : Text) (h : page = y ++ '/' :: path) (hdir : y = dir ∨ '/' :: y <:+ dir)
  /-- What stands further up in the name reads like the page's document. -/
  | inside (h : '/' :: page ++ documentSuffix <:+: dir ++ '/' :: path ++ ".vu".toList)

/-- Two paths behind a slash end alike: one is the end of the other. -/
theorem slash_cases {a b page path : Text} (h : a ++ '/' :: page = b ++ '/' :: path) :
    page = path ∨ (∃ x, path = x ++ '/' :: page) ∨
      ∃ y, page = y ++ '/' :: path ∧ '/' :: y <:+ b := by
  rcases List.append_eq_append_iff.mp h with ⟨z, rfl, hz⟩ | ⟨z, rfl, hz⟩
  · cases z with
    | nil =>
        injection hz with _ hz
        exact Or.inl hz
    | cons c y =>
        injection hz with hc hz
        subst hc
        exact Or.inr (Or.inr ⟨y, hz, List.suffix_append a _⟩)
  · cases z with
    | nil =>
        injection hz with _ hz
        exact Or.inl hz.symm
    | cons c x =>
        injection hz with hc hz
        exact Or.inr (Or.inl ⟨x, hz⟩)

/-- A name is that of the page's document, or has it in itself behind a slash. -/
def Covers (page name : Text) : Prop :=
  name = page ++ documentSuffix ∨ '/' :: page ++ documentSuffix <:+: name

theorem isPageOf_text {name page : Text} : isPageOf name (.str page) = true ↔ Covers page name := by
  -- the first of the three tests follows from the second
  have hpages : "/pages/".toList ++ (page ++ documentSuffix) <:+: name →
      '/' :: page ++ documentSuffix <:+: name :=
    List.IsInfix.trans ⟨"/pages".toList, [], by simp⟩
  unfold isPageOf
  dsimp only [Value.display]
  rw [Bool.or_eq_true, Bool.or_eq_true, occursIn_iff, occursIn_iff, beq_iff_eq]
  constructor
  · rintro ((h | h) | h)
    · exact Or.inr (hpages h)
    · exact Or.inr h
    · exact Or.inl h
  · rintro (h | h)
    · exact Or.inr h
    · exact Or.inl (Or.inr h)

/-- **What a page is matched by.** -/
theorem isPageOf_iff {page dir path : Text} :
    isPageOf (dir ++ '/' :: path ++ documentSuffix) (.str page) = true ↔ Reaches page dir path := by
  have hdoc : dir ++ '/' :: path ++ documentSuffix =
      dir ++ '/' :: path ++ ".vu".toList ++ ['e'] := by
    rw [List.append_assoc _ ".vu".toList]
    rfl
  rw [isPageOf_text, Covers, List.append_left_inj]
  constructor
  · rintro (h | ⟨a, b, h⟩)
    · exact .longer dir h.symm (Or.inl rfl)
    · rcases List.eq_nil_or_concat b with rfl | ⟨b', c, rfl⟩
      · rw [List.append_nil, ← List.append_assoc, List.append_left_inj] at h
        rcases slash_cases h with h | ⟨x, h⟩ | ⟨y, h, hy⟩
        · exact .own h
        · exact .tail x h
        · exact .longer y h (Or.inr hy)
      · -- it does not reach the last character
        refine .inside ⟨a, b', ?_⟩
        rw [List.concat_eq_append, ← List.append_assoc, hdoc] at h
        exact (List.append_inj' h rfl).1
  · intro h
    cases h with
    | own h => exact Or.inr ⟨dir, [], by simp [h]⟩
    | tail x h => exact Or.inr ⟨dir ++ '/' :: x, [], by simp [h]⟩
    | longer y h hdir =>
        rcases hdir with rfl | ⟨z, rfl⟩
        · exact Or.inl h.symm
        · exact Or.inr ⟨z, [], by simp [h]⟩
    | inside h =>
        rw [hdoc]
        exact Or.inr (h.trans (List.prefix_append _ ['e']).isInfix)

/-! ## The document of a page -/

/-- The name of a page's document in a directory. -/
def documentOf (dir path : Text) : Text := dir ++ '/' :: path ++ documentSuffix

/-- A name with its backslashes turned. -/
abbrev slashed (t : Text) : Text := replaceChar '\\' ['/'] t

theorem slashed_documentOf (dir path : Text) :
    slashed (documentOf dir path) = slashed dir ++ '/' :: slashed path ++ documentSuffix := by
  unfold slashed documentOf replaceChar
  rw [List.flatMap_append, List.flatMap_append, List.flatMap_cons]
  rfl

theorem slashed_of_not_mem {t : Text} (h : '\\' ∉ t) : slashed t = t := by
  unfold slashed replaceChar
  induction t with
  | nil => rfl
  | cons c t ih =>
      have hc : c ≠ '\\' := fun hc => h (by simp [hc])
      rw [List.flatMap_cons, ih fun hm => h (by simp [hm]), if_neg hc]
      rfl

/-- A document is accepted if its name has that of a selected page's document in itself. -/
theorem accepts_iff {targets : Targets} (h : ∀ page ∈ targets.selected, ∃ t, page = .str t)
    (docId : Text) :
    targets.accepts docId = true ↔
      ∃ page, .str page ∈ targets.selected ∧ Covers page (slashed docId) := by
  rw [accepts, isPageFile, List.any_eq_true, ← slashed]
  constructor
  · rintro ⟨page, hpage, hcovers⟩
    obtain ⟨t, rfl⟩ := h page hpage
    exact ⟨t, hpage, isPageOf_text.mp hcovers⟩
  · rintro ⟨page, hpage, hcovers⟩
    exact ⟨.str page, hpage, isPageOf_text.mpr hcovers⟩

/-- A document is accepted if one of the selected pages reaches it. -/
theorem accepts_documentOf (targets : Targets) (h : ∀ page ∈ targets.selected, ∃ t, page = .str t)
    (dir path : Text) :
    targets.accepts (documentOf dir path) = true ↔
      ∃ page, .str page ∈ targets.selected ∧ Reaches page (slashed dir) (slashed path) := by
  rw [accepts_iff h, slashed_documentOf]
  simp only [← isPageOf_text, isPageOf_iff]

/-- A document that is not accepted is left alone for that reason and for no other. -/
theorem verdict_notTarget_iff (s : Spec) (code dir path : Text) (targets : Targets) :
    (s.transform (documentOf dir path) code (some targets)).verdict = .skipped .notTarget ↔
      targets.accepts (documentOf dir path) = false := by
  have hends : endsWith (documentOf dir path) documentSuffix = true :=
    List.isSuffixOf_iff_suffix.mpr (List.suffix_append _ _)
  have hrefusal : Outcome.refusal? (documentOf dir path) code (some targets) =
      if !targets.accepts (documentOf dir path) then some .notTarget
      else if !Markup.isPresent code then some .noMarkup else none := by
    rw [Outcome.refusal?, hends]
    rfl
  rw [Spec.transform, hrefusal]
  cases targets.accepts (documentOf dir path) with
  | false => exact iff_of_true rfl rfl
  | true =>
      -- every other reason is another one
      refine iff_of_false ?_ (by simp)
      cases Markup.isPresent code with
      | false => simp [Outcome.skip]
      | true =>
          simp only [Bool.not_true, Bool.false_eq_true, if_false]
          split
          · simp [Outcome.skip]
          · split <;> simp [Outcome.skip]

/-- **Which documents are accepted.** The document of a page is accepted if some selected page
reaches it, and left alone as no target otherwise. So for a page whose path has no backslash
the answer is the right one exactly when the page is selected itself or no selected page
reaches its document. -/
theorem page_document_accepted_iff {manifest : Value} (h : IsManifest manifest)
    (included excluded : List Text) :
    ∃ targets : Targets, ofManifest manifest (texts included) (texts excluded) = .ok targets ∧
      (∀ page ∈ targets.all, ∃ t, page = .str t) ∧
      (∀ path, .str path ∈ targets.selected ↔
        .str path ∈ targets.all ∧ isChosen included excluded path = true) ∧
      ∀ path dir,
        (targets.accepts (documentOf dir path) = true ↔
          ∃ page, .str page ∈ targets.selected ∧ Reaches page (slashed dir) (slashed path)) ∧
        ('\\' ∉ path →
          ((targets.accepts (documentOf dir path) = true ↔ .str path ∈ targets.selected) ↔
            .str path ∈ targets.selected ∨
              ∀ page, .str page ∈ targets.selected → ¬ Reaches page (slashed dir) path)) ∧
        ∀ (s : Spec) (code : Text),
          (s.transform (documentOf dir path) code (some targets)).verdict = .skipped .notTarget ↔
            ∀ page, .str page ∈ targets.selected → ¬ Reaches page (slashed dir) (slashed path) := by
  obtain ⟨paths, htargets⟩ := ofManifest_texts h included excluded
  have hmem : ∀ {path : Text} {ts : List Text}, Value.str path ∈ ts.map Value.str ↔ path ∈ ts := by
    intro path ts
    simp
  have htexts : ∀ {ts : List Text}, ∀ page ∈ ts.map Value.str, ∃ t, page = .str t := by
    intro ts page hpage
    obtain ⟨t, _, rfl⟩ := List.mem_map.mp hpage
    exact ⟨t, rfl⟩
  refine ⟨_, htargets, htexts, fun path => ?_, fun path dir => ?_⟩
  · rw [hmem, hmem, List.mem_filter]
  · have haccepts := accepts_documentOf ⟨paths.map .str,
      (paths.filter (isChosen included excluded)).map .str⟩ htexts dir path
    refine ⟨haccepts, fun hpath => ?_, fun s code => ?_⟩
    · rw [slashed_of_not_mem hpath] at haccepts
      constructor
      · intro hiff
        by_cases hself : Value.str path ∈ (paths.filter (isChosen included excluded)).map Value.str
        · exact Or.inl hself
        · refine Or.inr fun page hpage hreach => hself (hiff.mp ?_)
          exact haccepts.mpr ⟨page, hpage, hreach⟩
      · rintro (hself | hnone)
        · exact iff_of_true (haccepts.mpr ⟨path, hself, .own rfl⟩) hself
        · refine iff_of_false (fun hany => ?_) fun hself => hnone path hself (.own rfl)
          obtain ⟨page, hpage, hreach⟩ := haccepts.mp hany
          exact hnone page hpage hreach
    · rw [verdict_notTarget_iff, Bool.eq_false_iff, ne_eq, haccepts]
      simp

/-- A project whose sub-package names a page as the main package does. -/
def overlapping : Value :=
  .object [("pages".toList, .list [.object [("path".toList, .str "index/index".toList)]]),
    ("subPackages".toList, .list [.object [("root".toList, .str "sub".toList),
      ("pages".toList, .list [.object [("path".toList, .str "index/index".toList)]])]])]

/-- The sub-package is excluded, and its page's document is accepted nevertheless. -/
theorem overlapping_accepted :
    IsManifest overlapping ∧ ∃ targets,
      ofManifest overlapping (texts []) (texts ["sub".toList]) = .ok targets ∧
      .str "sub/index/index".toList ∈ targets.all ∧
      .str "sub/index/index".toList ∉ targets.selected ∧
      targets.accepts (documentOf "src".toList "sub/index/index".toList) = true := by
  have hmanifest : IsManifest overlapping := by
    refine ⟨⟨_, rfl⟩, fun path hpath => ?_⟩
    have hpaths : pagePaths overlapping = [.str "index/index".toList] := rfl
    rw [hpaths, List.mem_singleton] at hpath
    exact ⟨_, hpath⟩
  obtain ⟨targets, htargets, _, hselected, haccepts⟩ :=
    page_document_accepted_iff hmanifest [] ["sub".toList]
  have hall : targets.all = [.str "index/index".toList, .str "sub/index/index".toList] := by
    have hcomputed : ofManifest overlapping (texts []) (texts ["sub".toList]) =
        .ok ⟨[.str "index/index".toList, .str "sub/index/index".toList],
          [.str "index/index".toList]⟩ := rfl
    rw [hcomputed] at htargets
    injection htargets with htargets
    rw [← htargets]
  refine ⟨hmanifest, targets, htargets, by rw [hall]; simp, fun hself => ?_, ?_⟩
  · exact absurd ((hselected _).mp hself).2 (by decide)
  · have hmain : .str "index/index".toList ∈ targets.selected :=
      (hselected _).mpr ⟨by rw [hall]; simp, by decide⟩
    exact (haccepts _ _).1.mpr ⟨_, hmain, .tail "sub".toList rfl⟩

end Graft.Targets
