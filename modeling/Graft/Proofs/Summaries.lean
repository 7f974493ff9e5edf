import Graft.Options

/-!
# Options and their summary

A summary shows the options with every default filled in, under the names of the options. It is
made for display, and it can be read as options again: the result has the same summary, asks for
the same draft, or refuses for the same reason, and points to the same pages and directories
(`summary_read_back`).

Reading goes through a list of what is given, one entry for each option. Keys that are names
already are collected as they stand (`collect_names`), and what is read from such a list is said
field by field in `ReadFrom`. What a summary does to the options is to fill in the three names
(`completed`). The name of the component is settled by that: given or taken from the path, empty or
not, it is found again (`name_completed`).
-/

namespace Graft.Options

open Text

/-! ## Collecting -/

theorem setField_of_not_mem {key : Text} {v : Value} : ∀ {fields : List (Text × Value)},
    key ∉ fields.map Prod.fst → Value.setField key v fields = fields ++ [(key, v)]
  | [], _ => rfl
  | (k, w) :: fields, h => by
      rw [List.map_cons, List.mem_cons, not_or] at h
      rw [Value.setField, if_neg (Ne.symm h.1), setField_of_not_mem h.2]
      rfl

theorem lookup_cons_eq (name key : Text) (v : Value) (fields : List (Text × Value)) :
    ((key, v) :: fields).lookup name = if name = key then some v else fields.lookup name := by
  rw [List.lookup_cons]
  by_cases h : name = key
  · rw [if_pos h, beq_iff_eq.mpr h]
  · rw [if_neg h, beq_eq_false_iff_ne.mpr h]

theorem lookup_setField {key name : Text} {v : Value} : ∀ {fields : List (Text × Value)},
    (Value.setField key v fields).lookup name = if name = key then some v else fields.lookup name
  | [] => lookup_cons_eq name key v []
  | (k, w) :: fields => by
      have ih : (Value.setField key v fields).lookup name = _ := lookup_setField
      rw [Value.setField]
      by_cases hk : k = key
      · rw [if_pos hk, lookup_cons_eq, lookup_cons_eq, hk]
        by_cases h : name = key
        · rw [if_pos h, if_pos h]
        · rw [if_neg h, if_neg h, if_neg h]
      · rw [if_neg hk, lookup_cons_eq, lookup_cons_eq, ih]
        by_cases h : name = k
        · rw [if_pos h, if_neg (h ▸ hk), if_pos h]
        · rw [if_neg h, if_neg h]

/-- A name stands for its option: no other spelling of one is a name. -/
theorem nameOfKey?_name {name : Text} (h : name ∈ names) : nameOfKey? name = some name := by
  have hall : names.all (fun name => decide (nameOfKey? name = some name)) = true := by decide
  exact of_decide_eq_true (List.all_eq_true.mp hall name h)

/-- **Names are collected as they stand.** -/
theorem collect_names : ∀ {fields given : List (Text × Value)},
    (∀ key ∈ fields.map Prod.fst, key ∈ names) → ((given ++ fields).map Prod.fst).Nodup →
      collect given fields = .ok (given ++ fields)
  | [], given, _, _ => by rw [List.append_nil]; rfl
  | (key, v) :: fields, given, hnames, hnodup => by
      have hkey : key ∉ given.map Prod.fst := by
        intro hmem
        rw [List.map_append, List.nodup_append] at hnodup
        exact hnodup.2.2 key hmem key (by simp) rfl
      have hsplit : given ++ (key, v) :: fields = given ++ [(key, v)] ++ fields := by simp
      rw [hsplit] at hnodup ⊢
      rw [collect, nameOfKey?_name (hnames key (by simp))]
      dsimp only
      rw [setField_of_not_mem hkey]
      exact collect_names (fun k hk => hnames k (List.mem_cons_of_mem _ hk)) hnodup

/-- What is collected under a name was there, or was given under a key that stands for it. -/
theorem mem_of_collect {name : Text} {v : Value} {collected : List (Text × Value)} :
    ∀ {fields given : List (Text × Value)}, collect given fields = .ok collected →
      collected.lookup name = some v →
        given.lookup name = some v ∨ ∃ key, (key, v) ∈ fields ∧ nameOfKey? key = some name
  | [], given, h, hv => by
      injection h with h
      subst h
      exact Or.inl hv
  | (key, w) :: fields, given, h, hv => by
      rw [collect] at h
      split at h
      · rename_i option hoption
        rcases mem_of_collect h hv with hgiven | ⟨k, hk, hname⟩
        · rw [lookup_setField] at hgiven
          split at hgiven
          · rename_i hsame
            injection hgiven with hgiven
            subst hsame hgiven
            exact Or.inr ⟨key, by simp, hoption⟩
          · exact Or.inl hgiven
        · exact Or.inr ⟨k, by simp [hk], hname⟩
      · exact absurd h (by simp)

/-- Only the key `aliases` stands for the aliases. -/
theorem key_of_aliases {key : Text} (h : nameOfKey? key = some "aliases".toList) :
    key = "aliases".toList := by
  have hother : camelNames.all (fun entry => entry.2 != "aliases".toList) = true := by decide
  unfold nameOfKey? at h
  dsimp only at h
  split at h
  · injection h with h
    cases hcamel : camelNames.lookup key with
    | none =>
        rw [hcamel] at h
        exact h
    | some name =>
        rw [hcamel, Option.getD_some] at h
        obtain ⟨front, back, hmem, _⟩ := List.lookup_eq_some_iff.mp hcamel
        have hname := List.all_eq_true.mp hother (key, name) (by rw [hmem]; simp)
        exact absurd h (bne_iff_ne.mp hname)
  · exact absurd h (by simp)

/-! ## Reading -/

/-- What is given for an option, or what stands in for it. -/
def option (given : List (Text × Value)) (name : String) (fallback : Value) : Value :=
  (given.lookup name.toList).getD fallback

/-- The options are those that are read from what is given. -/
structure ReadFrom (given : List (Text × Value)) (o : Options) : Prop where
  /-- There is a path. -/
  isTruthy : o.componentPath.isTruthy = true
  componentPath : o.componentPath = option given "component_path" .null
  componentName : o.componentName = option given "component_name" .null
  registerName : o.registerName = option given "register_name" .null
  /-- The position is one. -/
  position : readPosition (option given "insert_position" (.str Position.rootEnd.name)) =
    .ok o.position
  /-- The fragments are lists or single texts. -/
  included : readFragments "include".toList (option given "include" (.list [])) = .ok o.included
  excluded : readFragments "exclude".toList (option given "exclude" (.list [])) = .ok o.excluded
  /-- The props are an object. -/
  props : readProps (option given "props" (.object [])) = .ok o.props
  withRef : o.withRef = option given "with_ref" (.bool true)
  refName : o.refName = option given "ref_name" .null
  customTemplate : o.customTemplate = option given "custom_template" .null
  pagesJson : o.pagesJson = option given "pages_json" (.str "src/pages.json".toList)
  sourceDir : o.sourceDir = option given "source_dir" (.str "src".toList)
  aliases : o.aliases = option given "aliases" (.object [])

/-- **What is read from a list of options.** -/
theorem ofGiven_eq_ok_iff {given : List (Text × Value)} {o : Options} :
    ofGiven given = .ok o ↔ ReadFrom given o := by
  unfold ofGiven
  dsimp only
  constructor
  · intro h
    split at h
    · exact absurd h (by simp)
    · rename_i hpath
      obtain ⟨position, hposition, h⟩ := bind_eq_ok_iff.mp h
      obtain ⟨props, hprops, h⟩ := bind_eq_ok_iff.mp h
      obtain ⟨included, hincluded, h⟩ := bind_eq_ok_iff.mp h
      obtain ⟨excluded, hexcluded, h⟩ := bind_eq_ok_iff.mp h
      injection h with h
      subst h
      exact ⟨by simpa using hpath, rfl, rfl, rfl, hposition, hincluded, hexcluded, hprops, rfl, rfl,
        rfl, rfl, rfl, rfl⟩
  · intro h
    have hpath : ¬ (!(option given "component_path" .null).isTruthy) = true := by
      rw [← h.componentPath, h.isTruthy]
      simp
    refine (if_neg hpath).trans ?_
    refine bind_eq_ok_iff.mpr ⟨_, h.position, bind_eq_ok_iff.mpr ⟨_, h.props, ?_⟩⟩
    refine bind_eq_ok_iff.mpr ⟨_, h.included, bind_eq_ok_iff.mpr ⟨_, h.excluded, ?_⟩⟩
    obtain ⟨path, name, registerName, position, included, excluded, props, withRef, refName,
      template, pages, source, aliases⟩ := o
    obtain ⟨_, rfl, rfl, rfl, _, _, _, _, rfl, rfl, rfl, rfl, rfl, rfl⟩ := h
    rfl

/-- Aliases that were read are an object if what was given under their key is one. -/
theorem ReadFrom.aliases_object {fields given : List (Text × Value)} {o : Options}
    (h : ReadFrom given o) (hgiven : collect [] fields = .ok given)
    (hobject : ∀ v, ("aliases".toList, v) ∈ fields → ∃ entries, v = .object entries) :
    ∃ entries, o.aliases = .object entries := by
  rw [h.aliases, option]
  cases hv : given.lookup "aliases".toList with
  | none => exact ⟨[], rfl⟩
  | some v =>
      rcases mem_of_collect hgiven hv with hnone | ⟨key, hmem, hkey⟩
      · exact absurd hnone (by simp)
      · rw [key_of_aliases hkey] at hmem
        exact hobject v hmem

theorem readPosition_name (position : Position) :
    readPosition (.str position.name) = .ok position := by
  cases position with
  | beforeContent => rfl
  | afterContent => rfl
  | rootEnd => rfl

/-! ## Filling in the names -/

/-- The options with their names filled in. -/
def completed (o : Options) (name : Value) : Options :=
  { o with
    componentName := name
    registerName := o.registerName.orElse name
    refName := o.refName.orElse name }

/-- The rows of a summary but for the aliases. -/
def shown (o : Options) (name : Value) : List (Text × Value) :=
  [("component_path".toList, o.componentPath),
    ("component_name".toList, name),
    ("register_name".toList, o.registerName.orElse name),
    ("insert_position".toList, .str o.position.name),
    ("include".toList, .list o.included),
    ("exclude".toList, .list o.excluded),
    ("props".toList, .object o.props),
    ("with_ref".toList, o.withRef),
    ("ref_name".toList, o.refName.orElse name),
    ("custom_template".toList, o.customTemplate),
    ("pages_json".toList, o.pagesJson),
    ("source_dir".toList, o.sourceDir)]

section Names

variable {o : Options} {name : Value}

/-- The name of the component is found again, wherever it came from. -/
theorem name_completed (h : o.name = .ok name) : (o.completed name).name = .ok name := by
  have hpath : name.isTruthy = false → Component.nameOfValue o.componentPath = .ok name := by
    intro hfalse
    unfold Options.name at h
    split at h
    · rename_i htrue
      injection h with h
      rw [h, hfalse] at htrue
      exact absurd htrue (by simp)
    · exact h
  change (if name.isTruthy then .ok name else Component.nameOfValue o.componentPath) = _
  cases hname : name.isTruthy with
  | true => rfl
  | false => exact hpath hname

/-- **The same draft**, or the same fault. -/
theorem draft_completed (h : o.name = .ok name) : (o.completed name).draft = o.draft := by
  have hregister : (o.completed name).registerName.orElse name = o.registerName.orElse name :=
    Value.orElse_orElse _ _
  have href : (o.completed name).refName.orElse name = o.refName.orElse name := Value.orElse_orElse _ _
  unfold draft
  rw [h, name_completed h]
  dsimp only [bind, Except.bind]
  rw [hregister, href]
  rfl

/-- A summary shows the options with their names filled in. -/
theorem summary_eq {entries : List (Text × Value)} (h : o.name = .ok name)
    (haliases : o.aliases = .object entries) :
    o.summary = .ok ⟨o.shown name, entries.map fun (key, v) => (.str key, v)⟩ := by
  unfold summary
  rw [h, haliases]
  rfl

/-- **The same summary.** -/
theorem summary_completed {entries : List (Text × Value)} (h : o.name = .ok name)
    (haliases : o.aliases = .object entries) : (o.completed name).summary = o.summary := by
  have hshown : (o.completed name).shown name = o.shown name := by
    unfold shown completed
    dsimp only
    rw [Value.orElse_orElse, Value.orElse_orElse]
  rw [summary_eq h haliases, summary_eq (name_completed h) haliases, hshown]

/-- What a summary is as a value. -/
theorem toValue_eq (o : Options) (name : Value) (entries : List (Text × Value)) :
    Summary.toValue ⟨o.shown name, entries.map fun (key, v) => (.str key, v)⟩ =
      .object (o.shown name ++ [("aliases".toList, .object entries)]) := by
  have hkeys : (entries.map fun e => (Value.str e.1, e.2)).map (fun e => (keyText e.1, e.2)) =
      entries := by
    rw [List.map_map]
    exact List.map_id entries
  exact congrArg (fun es => Value.object (o.shown name ++ [("aliases".toList, .object es)])) hkeys

/-- **Reading a summary** gives the options with their names filled in. -/
theorem ofValue_shown {entries : List (Text × Value)} (hpath : o.componentPath.isTruthy = true)
    (haliases : o.aliases = .object entries) :
    ofValue (.object (o.shown name ++ [("aliases".toList, .object entries)])) =
      .ok (o.completed name) := by
  have hcollect : collect [] (o.shown name ++ [("aliases".toList, .object entries)]) =
      .ok (o.shown name ++ [("aliases".toList, .object entries)]) := by
    refine collect_names ?_ ?_
    · change ∀ key ∈ names, key ∈ names
      exact fun key hkey => hkey
    · change names.Nodup
      decide
  have hread : ReadFrom (o.shown name ++ [("aliases".toList, .object entries)])
      (o.completed name) :=
    ⟨hpath, rfl, rfl, rfl, readPosition_name _, rfl, rfl, rfl, rfl, rfl, rfl, rfl, rfl, haliases⟩
  exact bind_eq_ok_iff.mpr ⟨_, hcollect, ofGiven_eq_ok_iff.mpr hread⟩

end Names

/-- **A summary is as good as the options it was made from.** If the aliases are an object, it can
be read as options, which have the same summary, ask for the same draft or refuse for the same
reason, and choose the same pages in the same places. -/
theorem summary_read_back {fields : List (Text × Value)} {o : Options} {s : Summary}
    (hread : ofValue (.object fields) = .ok o)
    (hobject : ∀ v, ("aliases".toList, v) ∈ fields → ∃ entries, v = .object entries)
    (hsummary : o.summary = .ok s) :
    ∃ o', ofValue s.toValue = .ok o' ∧ o'.summary = .ok s ∧ o'.draft = o.draft ∧
      o'.included = o.included ∧ o'.excluded = o.excluded ∧ o'.pagesJson = o.pagesJson ∧
      o'.sourceDir = o.sourceDir ∧ o'.aliases = o.aliases := by
  obtain ⟨given, hgiven, hread⟩ := bind_eq_ok_iff.mp hread
  have hfrom : ReadFrom given o := ofGiven_eq_ok_iff.mp hread
  obtain ⟨entries, haliases⟩ := hfrom.aliases_object hgiven hobject
  obtain ⟨name, hname, _⟩ := bind_eq_ok_iff.mp hsummary
  have hsame : s = ⟨o.shown name, entries.map fun (key, v) => (.str key, v)⟩ :=
    Except.ok.inj (hsummary.symm.trans (summary_eq hname haliases))
  refine ⟨o.completed name, ?_, ?_, draft_completed hname, rfl, rfl, rfl, rfl, rfl⟩
  · rw [hsame, toValue_eq]
    exact ofValue_shown hfrom.isTruthy haliases
  · rw [summary_completed hname haliases, hsummary]

/-- Options in both spellings, with a name that is empty, one that is no text, and a path that
gives no name. -/
def mixedOptions : List (Text × Value) :=
  [("componentPath".toList, .str "./".toList), ("component_name".toList, .str []),
    ("registerName".toList, .int 7), ("refName".toList, .list []),
    ("include".toList, .str "a".toList),
    ("insertPosition".toList, .str "after-content".toList),
    ("aliases".toList, .object [("@".toList, .null)])]

/-- Their summary can be read, and has nothing to name the component by either. -/
theorem mixedOptions_read_back :
    ∃ o s, ofValue (.object mixedOptions) = .ok o ∧ o.summary = .ok s ∧
      ∃ o', ofValue s.toValue = .ok o' ∧ o'.summary = .ok s ∧ o'.draft = o.draft ∧
        ∃ fault, o'.draft = .error fault := by
  have hread : ∃ o, ofValue (.object mixedOptions) = .ok o ∧ ∃ s, o.summary = .ok s ∧
      o.draft.toOption.isNone = true := by decide +kernel
  have hobject : ∀ v, ("aliases".toList, v) ∈ mixedOptions → ∃ entries, v = .object entries := by
    intro v hv
    have hv' : v = .object [("@".toList, .null)] := by simpa [mixedOptions] using hv
    exact ⟨_, hv'⟩
  obtain ⟨o, ho, s, hs, hnone⟩ := hread
  obtain ⟨o', ho', hs', hdraft, _⟩ := summary_read_back ho hobject hs
  refine ⟨o, s, ho, hs, o', ho', hs', hdraft, ?_⟩
  rw [hdraft]
  cases hd : o.draft with
  | error fault => exact ⟨fault, rfl⟩
  | ok d =>
      rw [hd] at hnone
      exact absurd hnone (by simp [Except.toOption])

end Graft.Options
