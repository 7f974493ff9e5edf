import Graft.Proofs.Merging

/-!
# Which object a registration goes to

A script may declare other objects in front of its default export. A script without a
`components` key gets its map right behind the brace of the export, so all that stands in front
stays. With a key, the entry goes to the first literal map, wherever that is, and this file says
what it means for the text up to the export.

The opening of a map has no `x` and the opening of an export has no `c`, and neither has a closing
brace. So neither lies across the other, and a map stands behind the opening of the export, around
it, or in front of it (`map_placed`). A map behind it is no danger. One in front is given the
entry that was meant for the export (`extend_append_ne`), and one around it keeps its content up to
there, but its opening is written anew. Together this is the exact condition under which the text
up to the export stays (`register_keeps_export_iff`).
-/

namespace Graft.Script

open Text

namespace Registration

/-- What the search for a default export finds. -/
theorem isExportOpening_found {body : Text} {cut : Cut}
    (h : Pattern.search? exportPatterns body = some cut) : IsExportOpening cut.found := by
  obtain ⟨p, hp, hfit⟩ := Pattern.searchFrom?_fits h
  exact fits_exportPatterns.mp ⟨p, hp, hfit⟩

/-! ## Where a map stands -/

/-- A map stands behind the opening of an export, around it or in front of it. -/
theorem map_placed {before opening content after front found rest : Text}
    (hopening : IsOpening opening) (hfound : IsExportOpening found)
    (h : before ++ (opening ++ content ++ ['}']) ++ after = front ++ found ++ rest) :
    (∃ z, before = front ++ found ++ z) ∨
      (∃ y z, front = before ++ opening ++ y ∧ content = y ++ found ++ z) ∨
      ∃ z, front = before ++ (opening ++ content ++ ['}']) ++ z := by
  obtain ⟨v, hv, _⟩ := hopening.head
  obtain ⟨u, hu, _⟩ := hfound.inner
  have hkey : before ++ 'c' :: (v ++ content ++ ['}'] ++ after) = front ++ found ++ rest := by
    rw [← h, hv]
    simp
  rcases placed_char (hfound.not_mem (by decide) (by decide)) hkey with ⟨z, hz, _⟩ | ⟨z, hz⟩
  · exact Or.inl ⟨z, hz⟩
  have hfront : front = before ++ 'c' :: z := by
    rw [hz] at hkey
    have hcut : before ++ 'c' :: z ++ (found ++ rest) = front ++ (found ++ rest) := by
      simpa using hkey
    exact (List.append_cancel_right hcut).symm
  have hword : front ++ ['e'] ++ 'x' :: (u ++ ['{'] ++ rest) =
      before ++ opening ++ (content ++ '}' :: after) := by
    rw [hu] at h
    simpa using h.symm
  rcases placed_char (hopening.not_mem (by decide) (by decide)) hword with ⟨y, hy, hrest⟩ | ⟨y, hy⟩
  · -- the map's opening ends in a brace, so it ends before the first letter of the export
    obtain ⟨w, hw, _⟩ := hopening.last
    rcases List.eq_nil_or_concat y with rfl | ⟨y, d, rfl⟩
    · rw [hw, List.append_nil, ← List.append_assoc] at hy
      exact absurd (List.append_inj_right' hy rfl) (by decide)
    · rw [List.concat_eq_append, ← List.append_assoc] at hy
      have hd : ['e'] = [d] := List.append_inj_right' hy rfl
      have hbehind : front = before ++ opening ++ y := List.append_inj_left' hy rfl
      have hinside : content ++ '}' :: after = y ++ found ++ rest := by
        rw [hrest, List.concat_eq_append, ← hd, hu]
        simp
      rcases placed_char (hfound.not_mem (by decide) (by decide)) hinside with ⟨z, hz, _⟩ | ⟨z, hz⟩
      · exact Or.inr (Or.inl ⟨y, z, hbehind, hz⟩)
      · refine Or.inr (Or.inr ⟨z, ?_⟩)
        rw [hz] at h
        have hcut : before ++ (opening ++ content ++ ['}']) ++ z ++ (found ++ rest) =
            front ++ (found ++ rest) := by simpa using h
        exact (List.append_cancel_right hcut).symm
  · -- the map would start behind the export and in front of it
    rw [hy] at hword
    have hcut : front ++ ['e'] ++ 'x' :: y ++ (opening ++ (content ++ '}' :: after)) =
        before ++ (opening ++ (content ++ '}' :: after)) := by simpa using hword
    have hlength := congrArg List.length (List.append_cancel_right hcut)
    rw [hfront] at hlength
    simp only [List.length_append, List.length_cons, List.length_nil] at hlength
    omega

/-! ## What merging does to the text up to the export -/

/-- Behind what a map held, an entry follows now and no closing brace. -/
theorem extend_append_ne (content name registerName a b : Text) :
    content ++ '}' :: a ≠ extend content name registerName ++ b := by
  intro h
  obtain ⟨c, rest, hentry, hc⟩ := entry_head name registerName
  have hfirst : isBlank c = false ∧ '}' ≠ c := by
    rcases hc with hc | rfl
    · refine ⟨not_isBlank_of_isNameChar hc, ?_⟩
      rintro rfl
      rw [not_isNameChar '}' (by decide)] at hc
      exact absurd hc (by simp)
    · exact ⟨by decide, by decide⟩
  have hblank : ∀ {d : Char}, isBlank d = false → d ∉ blankTail content :=
    fun hd => not_mem_of_forall isBlank_of_mem_blankTail hd
  nth_rewrite 1 [← trimRight_append_blankTail content] at h
  unfold extend at h
  dsimp only at h
  rw [hentry] at h
  simp only [List.append_assoc] at h
  have htail := List.append_cancel_left h
  -- blanks aside, the brace would be the comma or the start of the entry
  split at htail
  · obtain ⟨_, hbrace, _⟩ := append_cons_inj (b := [' ']) (hblank hfirst.1) (by decide) htail
    exact hfirst.2 hbrace
  · obtain ⟨_, hbrace, _⟩ := append_cons_inj (b := []) (hblank (by decide)) (by decide) htail
    exact absurd hbrace (by decide)

/-- A map keeps all of its content up to a character that is no blank. -/
theorem prefix_extend {p content : Text} {c : Char} (hc : isBlank c = false)
    (h : p ++ [c] <+: content) (name registerName : Text) :
    p ++ [c] <+: extend content name registerName := by
  rw [← trimRight_append_blankTail content] at h
  have hkept := prefix_of_not_mem (not_mem_of_forall isBlank_of_mem_blankTail hc) h
  unfold extend
  simp only [List.append_assoc]
  exact hkept.trans (List.prefix_append _ _)

/-- The opening of a map is written as a registration writes it. -/
theorem written_prefix_iff {opening : Text} (h : IsOpening opening) (content : Text) :
    "components: \x7b".toList <+: opening ++ content ↔ opening = "components: \x7b".toList := by
  constructor
  · rintro ⟨rest, hrest⟩
    exact (h.unique isOpening_written hrest.symm).1
  · rintro rfl
    exact List.prefix_append _ _

/-- An export in the content of a map stays where it is as long as the opening of the map does. -/
theorem around_prefix_iff {opening content y found z : Text} (hopening : IsOpening opening)
    (hfound : IsExportOpening found) (hcontent : content = y ++ found ++ z)
    (name registerName rest : Text) :
    opening ++ (y ++ found) <+:
        "components: \x7b".toList ++ (extend content name registerName ++ rest) ↔
      opening = "components: \x7b".toList := by
  constructor
  · rintro ⟨t, ht⟩
    rw [List.append_assoc] at ht
    exact (hopening.unique isOpening_written ht).1
  · rintro rfl
    obtain ⟨u, hu, _⟩ := hfound.inner
    have hheld : y ++ ('e' :: 'x' :: u) ++ ['{'] <+: content :=
      ⟨z, by rw [hcontent, hu]; simp⟩
    have hkept := prefix_extend (by decide) hheld name registerName
    rw [List.prefix_append_right_inj, hu, ← List.append_assoc]
    exact hkept.trans (List.prefix_append _ _)

/-- A map does not stay as it is. -/
theorem not_prefix_extended {opening content : Text} (hopening : IsOpening opening)
    (name registerName rest rest' : Text) :
    ¬ opening ++ (content ++ '}' :: rest) <+:
      "components: \x7b".toList ++ (extend content name registerName ++ rest') := by
  rintro ⟨t, ht⟩
  rw [List.append_assoc] at ht
  obtain ⟨_, hrest⟩ := hopening.unique isOpening_written ht
  rw [List.append_assoc, List.cons_append] at hrest
  exact extend_append_ne content name registerName _ _ hrest

/-- A registration goes to a map in front of the default export: the map does not mention the
name, it starts first, and it is closed by then or has its opening written anew. -/
structure Diverts (name : Text) (map cut : Cut) : Prop where
  /-- The map gets the entry. -/
  unmentioned : mentions name (mapContent map.found) = false
  /-- It starts in front of the export. -/
  earlier : map.before.length < cut.before.length
  /-- It ends there too, or its opening is written in another way. -/
  rewritten : (map.before ++ map.found).length ≤ cut.before.length ∨
    ¬ "components: \x7b".toList <+: map.found

section Diverted

variable {name opening content : Text} {map cut : Cut}

theorem not_diverts_of_prefix (h : cut.before ++ cut.found <+: map.before) :
    ¬ Diverts name map cut := by
  intro hdiverts
  have hearlier := hdiverts.earlier
  have hlength := h.length_le
  rw [List.length_append] at hlength
  omega

variable (hopening : IsOpening opening) (hfound : map.found = opening ++ content ++ ['}'])
  (hunseen : mentions name content = false)

include hopening hfound hunseen

/-- A map around the export diverts the registration if its opening is to be written anew. -/
theorem diverts_around_iff {y z : Text} (hbefore : cut.before = map.before ++ opening ++ y)
    (hcontent : content = y ++ cut.found ++ z) :
    Diverts name map cut ↔ opening ≠ "components: \x7b".toList := by
  have hlength := List.length_pos_of_ne_nil hopening.ne_nil
  have hearlier : map.before.length < cut.before.length := by
    rw [hbefore]
    simp only [List.length_append]
    omega
  have hopen : ¬ (map.before ++ map.found).length ≤ cut.before.length := by
    rw [hfound, hcontent, hbefore]
    simp only [List.length_append, List.length_singleton]
    omega
  rw [Ne, ← written_prefix_iff hopening (content ++ ['}']), ← List.append_assoc, ← hfound]
  constructor
  · intro h
    exact h.rewritten.resolve_left hopen
  · intro h
    refine ⟨?_, hearlier, Or.inr h⟩
    rw [hfound, mapContent_eq hopening]
    exact hunseen

/-- A map that is closed in front of the export always does. -/
theorem diverts_of_prefix (h : map.before ++ map.found <+: cut.before) :
    Diverts name map cut := by
  have hlength := h.length_le
  have hclosing : 0 < map.found.length := by
    rw [hfound]
    exact List.length_pos_of_ne_nil (by simp)
  refine ⟨?_, ?_, Or.inl hlength⟩
  · rw [hfound, mapContent_eq hopening]
    exact hunseen
  · rw [List.length_append] at hlength
    omega

end Diverted

section Merged

variable {body name registerName tail : Text} {map cut : Cut}

/-- **Merging keeps the text up to the export** unless the first map diverts it. -/
theorem keeps_mergeIntoMap_iff (hcut : Pattern.search? exportPatterns body = some cut)
    (hmap : Pattern.search? [mapPattern] body = some map) :
    cut.before ++ cut.found <+: mergeIntoMap body name registerName ++ tail ↔
      ¬ Diverts name map cut := by
  obtain ⟨opening, content, hopens, hcontent, hfound⟩ := search?_mapPattern_found hmap
  have hopening := hopens.isOpening
  have hexport := isExportOpening_found hcut
  have hbody' := Pattern.search?_eq_some hcut
  have hbody := Pattern.search?_eq_some hmap
  rw [hfound] at hbody
  cases hseen : mentions name content with
  | true =>
      rw [← hbody, mergeIntoMap_eq hopens hcontent, if_pos hseen, hbody]
      refine ⟨fun _ h => ?_, fun _ => ⟨cut.after ++ tail, by rw [← hbody']; simp⟩⟩
      have hunseen := h.unmentioned
      rw [hfound, mapContent_eq hopening, hseen] at hunseen
      exact absurd hunseen (by simp)
  | false =>
      have hmerged : mergeIntoMap body name registerName ++ tail =
          map.before ++ ("components: \x7b".toList ++
            (extend content name registerName ++ (['}'] ++ map.after ++ tail))) := by
        rw [← hbody, mergeIntoMap_eq hopens hcontent, if_neg (by simp [hseen])]
        simp
      rw [hmerged]
      rcases map_placed hopening hexport (hbody.trans hbody'.symm) with
        ⟨z, hz⟩ | ⟨y, z, hy, hz⟩ | ⟨z, hz⟩
      · have hkept : cut.before ++ cut.found <+: map.before := by
          rw [hz]
          exact List.prefix_append _ _
        exact ⟨fun _ => not_diverts_of_prefix hkept, fun _ => hkept.trans (List.prefix_append _ _)⟩
      · rw [diverts_around_iff hopening hfound hseen hy hz, hy, List.append_assoc,
          List.append_assoc, List.prefix_append_right_inj,
          around_prefix_iff hopening hexport hz, Ne, not_not]
      · have hclosed : map.before ++ map.found <+: cut.before := by
          rw [hz, hfound]
          exact List.prefix_append _ _
        have hdiverts : Diverts name map cut := diverts_of_prefix hopening hfound hseen hclosed
        have hfront : cut.before ++ cut.found =
            map.before ++ (opening ++ (content ++ '}' :: (z ++ cut.found))) := by
          rw [hz]
          simp
        refine ⟨fun h => absurd h ?_, fun h => absurd hdiverts h⟩
        rw [hfront, List.prefix_append_right_inj]
        exact not_prefix_extended hopening _ _ _ _

/-- **A registration keeps the text up to the export** unless it goes to a map in front of it. -/
theorem keeps_edit_iff (code : Text) (hcut : Pattern.search? exportPatterns body = some cut) :
    cut.before ++ cut.found <+: edit code body name registerName ++ tail ↔
      ¬ ∃ map, Pattern.search? [mapPattern] body = some map ∧ Diverts name map cut := by
  have hopening : exportOpening? body = some cut := by
    unfold exportOpening?
    rw [hcut]
  have hexport : hasExport body = true := hasExport_of_exportOpening? (by rw [hopening]; rfl)
  have hbody := Pattern.search?_eq_some hcut
  cases hkey : Pattern.occurs [keyPattern] body with
  | false =>
      have hstate : State.of (hasExport body) body = .exported := by
        rw [hexport, State.of, hkey]
        rfl
      -- without a key there is no map to go to, and the new one is put behind the brace
      refine ⟨fun _ h => ?_, fun _ => ?_⟩
      · obtain ⟨map, hmap, _⟩ := h
        have hfirst : firstMap? body = some (mapContent map.found) := by
          rw [firstMap?, hmap, Option.map_some]
        rw [occurs_key_of_firstMap? hfirst] at hkey
        exact absurd hkey (by simp)
      · rw [edit, hstate]
        dsimp only
        rw [addMap, hopening]
        simp only [List.append_assoc]
        rw [← List.append_assoc cut.before]
        exact List.prefix_append _ _
  | true =>
      have hstate : State.of (hasExport body) body = .mapped := by
        rw [hexport, State.of, hkey]
        rfl
      rw [edit, hstate]
      dsimp only
      cases hmap : Pattern.search? [mapPattern] body with
      | none =>
          have hnone : firstMap? body = none := by rw [firstMap?, hmap, Option.map_none]
          rw [mergeIntoMap_of_firstMap?_eq_none hnone]
          refine ⟨fun _ h => ?_, fun _ => ?_⟩
          · obtain ⟨_, hsome, _⟩ := h
            exact absurd hsome (by simp)
          · exact ⟨cut.after ++ tail, by rw [← List.append_assoc, hbody]⟩
      | some map =>
          rw [keeps_mergeIntoMap_iff hcut hmap]
          refine not_congr ⟨fun h => ⟨map, rfl, h⟩, ?_⟩
          rintro ⟨map', hmap', h⟩
          injection hmap' with hmap'
          exact hmap' ▸ h

end Merged

end Registration

open Registration

/-- **What stands in front of the default export stays exactly unless a map there is in the
way.** In a closed options script with an exported object, a registration leaves the text up to the
brace of that object as it is, unless the first literal map of the script starts in front of
the export, does not mention the name, and is either closed there or opened in another way than
registrations write it. Then that map is rewritten in place of the export. -/
theorem register_keeps_export_iff {code : Text} {r : Region} {cut : Cut}
    (hdialect : (detect code).dialect = .options) (hregion : region? code = some r)
    (hcut : Pattern.search? exportPatterns r.body = some cut) (name registerName : Text) :
    r.head ++ cut.before ++ cut.found <+: register code name registerName ↔
      ¬ ∃ map, Pattern.search? [mapPattern] r.body = some map ∧ Diverts name map cut := by
  rw [register_options hdialect hregion, List.append_assoc, List.append_assoc,
    List.prefix_append_right_inj]
  exact keeps_edit_iff code hcut

/-- A script with a helper in front of its export. -/
def helperPage : Text :=
  "<script>const row = \x7b components: \x7b\x7d \x7d\nexport default \x7b\x7d</script>".toList

/-- The helper's map is given the entry, and the text up to the export changes. -/
theorem helperPage_diverted :
    ∃ r cut, region? helperPage = some r ∧
      Pattern.search? exportPatterns r.body = some cut ∧
      ¬ r.head ++ cut.before ++ cut.found <+: register helperPage "b".toList "b".toList := by
  have hregion : region? helperPage = some ⟨"<script>".toList,
      "const row = \x7b components: \x7b\x7d \x7d\nexport default \x7b\x7d".toList,
      "</script>".toList⟩ := by decide +kernel
  have hcut : Pattern.search? exportPatterns
      "const row = \x7b components: \x7b\x7d \x7d\nexport default \x7b\x7d".toList =
        some ⟨"const row = \x7b components: \x7b\x7d \x7d\n".toList,
          "export default \x7b".toList, "\x7d".toList⟩ := by decide +kernel
  have hmap : Pattern.search? [mapPattern]
      "const row = \x7b components: \x7b\x7d \x7d\nexport default \x7b\x7d".toList =
        some ⟨"const row = \x7b ".toList, "components: \x7b\x7d".toList,
          " \x7d\nexport default \x7b\x7d".toList⟩ := by decide +kernel
  refine ⟨_, _, hregion, hcut, fun h => ?_⟩
  exact (register_keeps_export_iff (by decide +kernel) hregion hcut _ _).mp h
    ⟨_, hmap, by decide +kernel, by decide +kernel, Or.inl (by decide +kernel)⟩

end Graft.Script
