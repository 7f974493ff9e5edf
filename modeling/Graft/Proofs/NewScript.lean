import Graft.Proofs.DefaultExport
import Graft.Proofs.Steering

/-!
# The script of a document that had none

A document without a script gets one for the import, with an empty default export, and the
component is then registered in it. The registration knows nothing of the import: it looks for
the script, its style and its export again, in a text where the name and the path of the import
stand in front of the export and the rest of the document stands behind the script.

The new script starts the text, so its start tag is the first one, and no end tag follows its
own, so it is the region that is found, even if the path holds an end tag. Without a colon in it
there is no `components` key, and without a brace in front of it the export is the first one
(`search?_exportPatterns_sole`). The result is one fixed text around the two names, the path and
the document (`register_new_script`).
-/

namespace Graft.Script

open Text

namespace Registration

/-- The opening of an export that a new script has. -/
theorem isExportOpening_new : IsExportOpening "export default \x7b".toList :=
  ⟨"export default".toList, [' '], [], [], ⟨[' '], by simp, forall_of_all (by decide), by decide⟩,
    by simp, forall_of_all (by decide), Or.inl rfl, by simp, by decide⟩

/-- Behind a text without a brace the opening of an export is the first one. -/
theorem search?_exportPatterns_sole {before opening : Text} (hbefore : '{' ∉ before)
    (hopening : IsExportOpening opening) (after : Text) :
    Pattern.search? exportPatterns (before ++ opening ++ after) = some ⟨before, opening, after⟩ := by
  have hfits : ∃ p ∈ exportPatterns, Pattern.Fits p before.getLast? opening after :=
    fits_exportPatterns.mpr hopening
  obtain ⟨p, hp, hfit⟩ := hfits
  obtain ⟨v, hv, hvout⟩ := hopening.inner
  have hvbrace : '{' ∉ 'e' :: 'x' :: v := by
    simpa using hvout '{' (by decide) (by decide)
  -- the two openings end with the first brace of the text
  have hends : ∀ {y w rest : Text}, '{' ∉ y → IsExportOpening w →
      y ++ opening ++ after = w ++ rest → w = y ++ opening := by
    intro y w rest hy hw he
    obtain ⟨u, hu, huout⟩ := hw.inner
    have hubrace : '{' ∉ 'e' :: 'x' :: u := by
      simpa using huout '{' (by decide) (by decide)
    have hfront : '{' ∉ y ++ 'e' :: 'x' :: v := by
      rw [List.mem_append, not_or]
      exact ⟨hy, hvbrace⟩
    have hcuts : y ++ 'e' :: 'x' :: v ++ '{' :: after = 'e' :: 'x' :: u ++ '{' :: rest := by
      rw [hv, hu] at he
      simpa using he
    obtain ⟨heq, _, _⟩ := append_cons_inj hfront hubrace hcuts
    rw [hv, hu, ← heq, List.append_assoc]
  refine Pattern.search?_eq_some_of hp hfit ?_ ?_
  · intro x y w rest hx hy he q hq hq'
    have hw := fits_exportPatterns.mp ⟨q, hq, hq'⟩
    have hybrace : '{' ∉ y := fun hm => hbefore (by rw [hx]; simp [hm])
    have heq := hends hybrace hw he
    -- the `x` of the one would be a second `x` of the other
    obtain ⟨u, hu, huout⟩ := hw.inner
    have hletter : 'x' ∉ u ++ ['{'] := by
      simpa using huout 'x' (by decide) (by decide)
    obtain ⟨d, y, rfl⟩ := List.exists_cons_of_ne_nil hy
    rw [hu, hv, List.cons_append, List.cons_append, List.cons_append, List.cons.injEq] at heq
    cases y with
    | nil =>
        rw [List.nil_append, List.cons_append, List.cons.injEq] at heq
        exact absurd heq.2.1 (by decide)
    | cons e y =>
        rw [List.cons_append, List.cons.injEq] at heq
        rw [heq.2.2] at hletter
        exact hletter (by simp)
  · intro w rest he q hq hq'
    exact hends (y := []) (by simp) (fits_exportPatterns.mp ⟨q, hq, hq'⟩) he

/-- A script without a colon has no `components` key. -/
theorem keyless_of_not_mem {body : Text} (h : ':' ∉ body) :
    Pattern.occurs [keyPattern] body = false := by
  rw [Bool.eq_false_iff]
  intro hkey
  obtain ⟨x, w, after, rfl, p, hp, hfit⟩ := Pattern.occurs_iff.mp hkey
  rw [List.mem_singleton.mp hp] at hfit
  have hpattern : keyPattern = .edge :: Pattern.exactly "components".toList ++ Pattern.blanks ++
      Pattern.exactly [':'] := rfl
  rw [hpattern] at hfit
  obtain ⟨v, rfl⟩ := Pattern.Fits.ends_with hfit
  exact h (by simp)

/-- The first map of a new script. -/
theorem edit_new (code : Text) {front : Text} (hcolon : ':' ∉ front) (hbrace : '{' ∉ front)
    (name registerName : Text) :
    edit code (front ++ "\nexport default \x7b\x7d\n".toList) name registerName =
      front ++ "\nexport default \x7b\n  components: \x7b\n    ".toList ++
        entry name registerName ++ "\n  \x7d\x7d\n".toList := by
  have hbody : front ++ "\nexport default \x7b\x7d\n".toList =
      front ++ ['\n'] ++ "export default \x7b".toList ++ "\x7d\n".toList := by simp
  have hopening : exportOpening? (front ++ "\nexport default \x7b\x7d\n".toList) =
      some ⟨front ++ ['\n'], "export default \x7b".toList, "\x7d\n".toList⟩ := by
    rw [exportOpening?, hbody, search?_exportPatterns_sole (by simpa using hbrace)
      isExportOpening_new]
  have hkey : Pattern.occurs [keyPattern] (front ++ "\nexport default \x7b\x7d\n".toList) = false :=
    keyless_of_not_mem (by simpa using hcolon)
  have hexport : hasExport (front ++ "\nexport default \x7b\x7d\n".toList) = true :=
    hasExport_of_exportOpening? (by rw [hopening]; rfl)
  -- the brace of the empty export comes next, so no comma is written
  have hcomma : (if (trimLeft "\x7d\n".toList).isEmpty ||
      (trimLeft "\x7d\n".toList).head? == some '}' then ([] : Text) else [',']) = [] := by decide
  rw [edit, State.of, hexport, hkey]
  simp only [Bool.not_true, Bool.false_eq_true, if_false]
  rw [addMap, hopening]
  dsimp only
  rw [hcomma]
  simp

end Registration

/-- **A document without a script gets this one.** The start tag is typed exactly where a type mark
stands in the document, the import comes first, the component is the only entry of the map of
the default export, and the document follows as it was. -/
theorem register_new_script {code name path : Text} (hstart : startTag? code = none)
    (hend : ¬ endTag <:+: code) (hmissing : Import.present code name = false)
    (hname : ':' ∉ name ∧ '{' ∉ name) (hpath : ':' ∉ path ∧ '{' ∉ path) (registerName : Text) :
    ∃ lang, ((∃ w, IsTypeMark w ∧ w <:+: code) ∧ lang = " lang=\"ts\"".toList ∨
        (¬ ∃ w, IsTypeMark w ∧ w <:+: code) ∧ lang = []) ∧
      register (Import.add code name path) name registerName =
        "<script".toList ++ lang ++ ">\nimport ".toList ++ name ++ " from '".toList ++ path ++
          "';\n\nexport default \x7b\n  components: \x7b\n    ".toList ++
          Registration.key registerName ++ ": ".toList ++ name ++
          "\n  \x7d\x7d\n</script>\n".toList ++ code := by
  obtain ⟨_, hregion⟩ := Import.region?_add_new hstart hend hmissing path
  have hdialect : (detect (Import.add code name path)).dialect = .options := by
    rw [← region?_eq_some hregion, Region.code, List.append_assoc, Spec.dialect_newTag]
  have hbody := Registration.edit_new (Import.add code name path)
    (Import.not_mem_line_of_parts hname.1 hpath.1 (by decide))
    (Import.not_mem_line_of_parts hname.2 hpath.2 (by decide)) name registerName
  have hscript : register (Import.add code name path) name registerName =
      Import.newTag (isTyped code) ++ (Import.line name path ++
        "\nexport default \x7b\n  components: \x7b\n    ".toList ++
          Registration.entry name registerName ++ "\n  \x7d\x7d\n".toList) ++
        (endTag ++ '\n' :: code) := by
    rw [register_options hdialect hregion, ← hbody]
    rfl
  have htag : ∃ lang, ((∃ w, IsTypeMark w ∧ w <:+: code) ∧ lang = " lang=\"ts\"".toList ∨
      (¬ ∃ w, IsTypeMark w ∧ w <:+: code) ∧ lang = []) ∧
        Import.newTag (isTyped code) = "<script".toList ++ lang ++ ['>'] := by
    rw [← isTyped_iff]
    cases isTyped code with
    | true => exact ⟨" lang=\"ts\"".toList, Or.inl ⟨rfl, rfl⟩, by decide⟩
    | false => exact ⟨[], Or.inr ⟨by simp, rfl⟩, by decide⟩
  obtain ⟨lang, hlang, htag⟩ := htag
  refine ⟨lang, hlang, ?_⟩
  -- where the written parts meet
  have hfirst : ">\nimport ".toList = ['>'] ++ "\nimport ".toList := by decide
  have hnext : "';\n\nexport default \x7b\n  components: \x7b\n    ".toList = "\x27;\n".toList ++
      "\nexport default \x7b\n  components: \x7b\n    ".toList := by decide
  have hlast : "\n  \x7d\x7d\n</script>\n".toList = "\n  \x7d\x7d\n".toList ++
      (endTag ++ ['\n']) := by decide
  rw [hscript, htag, Import.line_eq, Registration.entry, hfirst, hnext, hlast]
  simp only [List.append_assoc, List.cons_append, List.nil_append]

/-- Markup with a type mark and no script. -/
def barePage : Text := "<view lang = 'tsx'></view>".toList

/-- The script is typed, and an end tag in the path does not end it. -/
theorem barePage_registered :
    register (Import.add barePage "toast".toList "a</script>".toList) "toast".toList
        "x-toast".toList =
      "<script lang=\"ts\">\nimport toast from 'a</script>';\n\nexport default \x7b\n".toList ++
        "  components: \x7b\n    'x-toast': toast\n  \x7d\x7d\n</script>\n".toList ++ barePage := by
  obtain ⟨lang, hlang, h⟩ := @register_new_script barePage "toast".toList "a</script>".toList
    (by decide +kernel) (by decide +kernel) (by decide +kernel) (by decide) (by decide)
    "x-toast".toList
  have htyped : ∃ w, IsTypeMark w ∧ w <:+: barePage := by
    rw [← isTyped_iff]
    decide +kernel
  rcases hlang with ⟨_, rfl⟩ | ⟨hnot, _⟩
  · rw [h]
    decide +kernel
  · exact absurd htyped hnot

end Graft.Script
