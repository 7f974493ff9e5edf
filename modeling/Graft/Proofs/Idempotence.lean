import Graft.Proofs.ComponentMap
import Graft.Proofs.Steering

/-!
# Registering a component twice

A component that is registered should stay registered, and a second registration should find
it and leave the script alone. It does so exactly when the first literal map of the script
mentions the component after the first one (`edit_eq_self_iff`). There are two ways in which
it does not.

The entry may be in another map. A script without an export gets one appended, with a map of
its own, and if the script has a literal map before that, the second registration goes there
(`Shadowed`). Or the entry is in the first map and is not recognised: the map is searched for
the name as a whole word, and a dollar sign at an end of a name is not part of a word
(`Overlooked`). In every other case the second registration changes nothing
(`register_twice_eq_iff`).
-/

namespace Graft.Script

open Text

namespace Registration

variable {body name registerName : Text}

/-- The script exports nothing, but has a literal map, and that does not mention the name. The
component then goes into a second map, which is not looked at again. -/
def Shadowed (body name : Text) : Prop :=
  hasExport body = false ∧ ∃ content, firstMap? body = some content ∧ mentions name content = false

/-- The entry of the component goes into what is then the first literal map, and nothing else
there mentions the name. -/
def Enters (body name : Text) : Prop :=
  match State.of (hasExport body) body with
  | .mapped => ∃ content, firstMap? body = some content ∧ mentions name content = false
  | .exported => (exportOpening? body).isSome = true
  | .noExport =>
    firstMap? body = none ∧ ∀ cut, mapOpening? body = some cut → mentions name cut.after = false

/-- The entry of the component goes into the first literal map and does not mention the name
there either. -/
def Overlooked (body name registerName : Text) : Prop :=
  mentions name (entry name registerName) = false ∧ Enters body name

/-! ## Each kind of registration, done again -/

/-- In an exporting script with a literal map, the map decides. -/
theorem edit_eq_self_iff {content : Text} (code : Text) (hexport : hasExport body = true)
    (hmap : firstMap? body = some content) (hentry : '}' ∉ entry name registerName) :
    edit code body name registerName = body ↔ mentions name content = true := by
  have hedit : edit code body name registerName = mergeIntoMap body name registerName := by
    rw [edit, State.of, hexport, occurs_key_of_firstMap? hmap]
    rfl
  rw [hedit, mergeIntoMap_eq_self_iff hentry]
  constructor
  · intro h
    exact h content hmap
  · intro h content' hcontent'
    rw [hmap] at hcontent'
    injection hcontent' with hcontent'
    rwa [← hcontent']

theorem hasExport_edit (code : Text) (h : hasExport body = true) :
    hasExport (edit code body name registerName) = true :=
  hasExport_of_edits (edits_edit code body name registerName) h

/-- A map with a single entry mentions what the entry does. -/
theorem mentions_soleEntry (hname : IsName name) (component : Text) :
    mentions name (soleEntry component registerName) =
      mentions name (entry component registerName) := by
  have hblank : ∀ {t : Text}, (∀ c ∈ t, isBlank c = true) → ∀ c ∈ t, isNameChar c = false :=
    fun h c hc => not_isNameChar_of_isBlank (h c hc)
  rw [soleEntry, mentions_postpend hname (hblank (forall_of_all (by decide))),
    mentions_prepend hname (hblank (forall_of_all (by decide)))]

/-- The words of an appended export are no name with a dollar sign. -/
theorem mentions_exportFront {name : Text} (hdollar : '$' ∈ name) (typed : Bool) :
    mentions name (exportFront typed ++ "components: \x7b".toList) = false := by
  have hne : name ≠ [] := by
    rintro rfl
    exact absurd hdollar (by simp)
  rw [Bool.eq_false_iff]
  intro hm
  obtain ⟨x, y, he, _, _⟩ := (mentions_iff hne).mp hm
  have hin : '$' ∈ exportFront typed ++ "components: \x7b".toList := by
    rw [he]
    simp [hdollar]
  cases typed with
  | true => exact absurd hin (by decide)
  | false => exact absurd hin (by decide)

section Twice

variable (code code' : Text) (hname : IsName name) (hentry : '}' ∉ entry name registerName)

include hname hentry

/-- Merged entries are found again unless they are overlooked. -/
theorem edit_edit_mapped (hexport : hasExport body = true)
    (hkey : Pattern.occurs [keyPattern] body = true) :
    edit code' (edit code body name registerName) name registerName =
      edit code body name registerName ↔ ¬ Overlooked body name registerName := by
  have hstate : State.of (hasExport body) body = .mapped := by
    rw [State.of, hexport, hkey]
    rfl
  have hmerge : edit code body name registerName = mergeIntoMap body name registerName := by
    rw [edit, hstate]
  cases hmap : firstMap? body with
  | none =>
      -- the map is not a literal, and nothing is done both times
      have hsame : ∀ c, edit c body name registerName = body := by
        intro c
        rw [edit_of_hasExport hexport c code, hmerge, mergeIntoMap_of_firstMap?_eq_none hmap]
      rw [hsame code, hsame code']
      refine iff_of_true rfl ?_
      rintro ⟨_, henters⟩
      rw [Enters, hstate] at henters
      obtain ⟨content, hcontent, _⟩ := henters
      rw [hmap] at hcontent
      exact absurd hcontent (by simp)
  | some content =>
      have hnext := firstMap?_mergeIntoMap hmap hentry
      rw [← hmerge] at hnext
      rw [edit_eq_self_iff code' (hasExport_edit code hexport) hnext hentry]
      have henters : Enters body name ↔ mentions name content = false := by
        rw [Enters, hstate]
        dsimp only
        rw [hmap]
        simp
      rw [Overlooked, henters]
      cases hm : mentions name content with
      | true => simp [hm]
      | false => simp [hm, mentions_extend hname]

/-- An entry of a new map is found again unless it is overlooked. -/
theorem edit_edit_exported (hexport : hasExport body = true)
    (hkey : Pattern.occurs [keyPattern] body = false) :
    edit code' (edit code body name registerName) name registerName =
      edit code body name registerName ↔ ¬ Overlooked body name registerName := by
  have hstate : State.of (hasExport body) body = .exported := by
    rw [State.of, hexport, hkey]
    rfl
  have hadd : edit code body name registerName = addMap body name registerName := by
    rw [edit, hstate]
  have henters : Enters body name ↔ (exportOpening? body).isSome = true := by
    rw [Enters, hstate]
  rw [Overlooked, henters]
  cases hcut : exportOpening? body with
  | none =>
      -- the export is not a literal, and nothing is done both times
      have hsame : ∀ c, edit c body name registerName = body := by
        intro c
        rw [edit_of_hasExport hexport c code, hadd, addMap, hcut]
      rw [hsame code, hsame code']
      simp
  | some cut =>
      have hnext := firstMap?_addMap hkey hcut hentry
      rw [← hadd] at hnext
      rw [edit_eq_self_iff code' (hasExport_edit code hexport) hnext hentry,
        mentions_soleEntry hname]
      simp

/-- An entry of an appended export is found again unless it is overlooked or a map stands in
front of it. -/
theorem edit_edit_noExport (hexport : hasExport body = false) :
    edit code' (edit code body name registerName) name registerName =
      edit code body name registerName ↔
        ¬ Shadowed body name ∧ ¬ Overlooked body name registerName := by
  have hstate : State.of (hasExport body) body = .noExport := by
    rw [State.of, hexport]
    rfl
  have happend : edit code body name registerName = appendExport code body name registerName := by
    rw [edit, hstate]
  have hexport' : hasExport (edit code body name registerName) = true := by
    rw [happend]
    exact hasExport_appendExport code body name registerName
  have henters : Enters body name ↔ firstMap? body = none ∧
      ∀ cut, mapOpening? body = some cut → mentions name cut.after = false := by
    rw [Enters, hstate]
  rw [Overlooked, Shadowed, henters]
  cases hmap : firstMap? body with
  | some content =>
      have hnext : firstMap? (edit code body name registerName) = some content := by
        rw [happend]
        exact firstMap?_appendExport_mapped hmap
      rw [edit_eq_self_iff code' hexport' hnext hentry]
      simp [hexport]
  | none =>
      cases hopen : mapOpening? body with
      | none =>
          have hnext : firstMap? (edit code body name registerName) =
              some (soleEntry name registerName) := by
            rw [happend]
            exact firstMap?_appendExport_unopened hopen hentry
          rw [edit_eq_self_iff code' hexport' hnext hentry, mentions_soleEntry hname]
          simp
      | some cut =>
          obtain ⟨before, opening, after⟩ := cut
          have hnext : firstMap? (edit code body name registerName) =
              some (after ++ exportFront (isTyped code) ++ "components: \x7b".toList ++
                soleEntry name registerName) := by
            rw [happend]
            exact firstMap?_appendExport_opened hmap hopen hentry
          rw [edit_eq_self_iff code' hexport' hnext hentry]
          -- the map goes on from the open one, over the words of the export, to the entry
          have hfront : ∃ front, exportFront (isTyped code) ++ "components: \x7b".toList =
              '\n' :: front := by
            cases isTyped code with
            | true => exact ⟨_, rfl⟩
            | false => exact ⟨_, rfl⟩
          have hleft : Registration.rift after
              (exportFront (isTyped code) ++ "components: \x7b".toList) = true := by
            obtain ⟨front, hfront⟩ := hfront
            rw [hfront]
            exact border_before (b := ['\n']) (by decide +kernel)
          have hright : Registration.rift
              (after ++ (exportFront (isTyped code) ++ "components: \x7b".toList))
              (soleEntry name registerName) = true := by
            rw [← List.append_assoc]
            exact border_after (by decide +kernel)
          rw [List.append_assoc after, mentions_append hname hright, mentions_append hname hleft,
            mentions_soleEntry hname]
          cases hseen : mentions name (entry name registerName) with
          | true => simp
          | false =>
              have hdollar : '$' ∈ name := by
                rcases dollar_of_not_mentions_entry hname hseen with h | h
                · exact List.mem_of_mem_head? h
                · exact List.mem_of_mem_getLast? h
              rw [mentions_exportFront hdollar]
              simp

/-- **A second edit of a script** changes nothing unless the first entry is in another map or
is overlooked. -/
theorem edit_edit_eq_iff :
    edit code' (edit code body name registerName) name registerName =
      edit code body name registerName ↔
        ¬ Shadowed body name ∧ ¬ Overlooked body name registerName := by
  cases hexport : hasExport body with
  | false => exact edit_edit_noExport code code' hname hentry hexport
  | true =>
      have hshadow : ¬ Shadowed body name := by
        rintro ⟨h, _⟩
        rw [hexport] at h
        exact absurd h (by simp)
      rw [and_iff_right hshadow]
      cases hkey : Pattern.occurs [keyPattern] body with
      | true => exact edit_edit_mapped code code' hname hentry hexport hkey
      | false => exact edit_edit_exported code code' hname hentry hexport hkey

end Twice

/-- The entry of an identifier has no brace. -/
theorem not_mem_entry (hname : isIdentifier name = true)
    (hregister : isIdentifier registerName = true) : '}' ∉ entry name registerName := by
  have hbrace : isNameChar '}' = false := by decide +kernel
  have hleft := not_mem_of_forall (isName_of_isIdentifier hregister).2 hbrace
  have hright := not_mem_of_forall (isName_of_isIdentifier hname).2 hbrace
  rw [entry, key, if_pos hregister]
  simp [hleft, hright]

end Registration

open Registration

/-- **When registering twice is registering once.** Outside setup scripts a second
registration of an identifier under an identifier changes nothing, unless the script is closed
and a map in front of the new export hides the entry, or the entry is in the first map and is
overlooked there, which takes a name with a dollar sign at one end. -/
theorem register_twice_eq_iff {code name registerName : Text}
    (hdialect : (detect code).dialect ≠ .setup) (hname : isIdentifier name = true)
    (hregister : isIdentifier registerName = true) :
    (register (register code name registerName) name registerName =
        register code name registerName ↔
      ((detect code).dialect = .options → ∀ r, region? code = some r →
        ¬ Shadowed r.body name ∧ ¬ Overlooked r.body name registerName)) ∧
    ∀ body, Overlooked body name registerName → name.head? = some '$' ∨ name.getLast? = some '$' := by
  refine ⟨?_, fun body h => dollar_of_not_mentions_entry (isName_of_isIdentifier hname) h.1⟩
  cases hd : (detect code).dialect with
  | setup => exact absurd hd hdialect
  | absent =>
      have hsame : register code name registerName = code := by rw [register, hd]
      rw [hsame, hsame]
      simp
  | options =>
      cases hregion : region? code with
      | none =>
          have hsame : register code name registerName = code := by rw [register, hd, hregion]
          rw [hsame, hsame]
          simp
      | some r =>
          have hfirst : register code name registerName =
              r.head ++ edit code r.body name registerName ++ r.tail := by
            rw [register, hd, hregion]
          have hd' := dialect_replace hregion (edit code r.body name registerName)
          have hregion' : region? (r.head ++ edit code r.body name registerName ++ r.tail) = _ :=
            region?_replace hregion
          rw [hfirst, register, hd', hd, hregion']
          dsimp only
          rw [List.append_left_inj, List.append_right_inj,
            edit_edit_eq_iff code _ (isName_of_isIdentifier hname)
              (not_mem_entry hname hregister)]
          simp

/-- A name that ends in a dollar sign is registered again and again, and so is a component of a
script without an export that has a literal map somewhere else. -/
theorem registered_again :
    let exporting := "<script>export default \x7b\x7d</script>".toList
    let literal := "<script>o = \x7b components: \x7b\x7d \x7d</script>".toList
    let dollar := "a$".toList
    let plain := "b".toList
    register (register exporting dollar plain) dollar plain ≠ register exporting dollar plain ∧
      register (register literal plain plain) plain plain ≠ register literal plain plain := by
  intro exporting literal dollar plain
  constructor
  · rw [Ne, (register_twice_eq_iff (by decide +kernel) (by decide +kernel)
      (by decide +kernel)).1]
    intro h
    refine (h (by decide +kernel) ⟨"<script>".toList, "export default \x7b\x7d".toList,
      "</script>".toList⟩ (by decide +kernel)).2 ⟨by decide +kernel, ?_⟩
    have hstate : State.of (hasExport "export default \x7b\x7d".toList)
        "export default \x7b\x7d".toList = .exported := by decide +kernel
    rw [Enters, hstate]
    decide +kernel
  · rw [Ne, (register_twice_eq_iff (by decide +kernel) (by decide +kernel)
      (by decide +kernel)).1]
    intro h
    refine (h (by decide +kernel) ⟨"<script>".toList,
      "o = \x7b components: \x7b\x7d \x7d".toList, "</script>".toList⟩ (by decide +kernel)).1 ?_
    exact ⟨by decide +kernel, [], by decide +kernel, by decide +kernel⟩

end Graft.Script
