import Graft.Proofs.Entries

/-!
# What merging does to a map

A script with an export and a `components` key is registered in by merging: the first literal
map gets one more entry at its end. The map may be blank, and it may end in a comma of its own,
so whether a comma is written depends on what stands there.

What counts is the list that the map stands for: its content cut at the commas, without the
blanks around each part and without the parts that are blank (`listed`). Merging adds the new
entry to the end of that list (`listed_extend`), whatever commas the map had, and brings no two
commas together that were not together before (`prefix_of_doubled`). The text on both sides of
the map stays, the map is found again at the same place, and since the new entry is seen there,
registering once more changes nothing (`register_mapped`).
-/

namespace Graft

namespace Text

/-! ## Lists with blank parts -/

/-- What a text lists: its parts between commas, trimmed, without those that are blank. -/
def listed (t : Text) : List Text := (items t).filter fun item => !item.isEmpty

theorem listed_append_comma (a b : Text) : listed (a ++ ',' :: b) = listed a ++ listed b := by
  rw [listed, items, split_append_sep, List.map_append, List.filter_append]
  rfl

/-- A text without a comma lists itself, unless it is blank. -/
theorem listed_of_not_mem {t : Text} (h : ',' ∉ t) :
    listed t = if (trim t).isEmpty then [] else [trim t] := by
  rw [listed, items, split_of_not_mem h, List.map_singleton, List.filter_singleton]
  cases (trim t).isEmpty with
  | true => rfl
  | false => rfl

theorem listed_nil : listed [] = [] := by decide

theorem trimRight_append_blanks {ws : Text} (hws : ∀ c ∈ ws, isBlank c = true) (t : Text) :
    trimRight (t ++ ws) = trimRight t := by
  rw [trimRight, trimRight, List.reverse_append, List.dropWhile_append_of_pos]
  intro c hc
  exact hws c (List.mem_reverse.mp hc)

theorem trim_append_blanks {ws : Text} (hws : ∀ c ∈ ws, isBlank c = true) (t : Text) :
    trim (t ++ ws) = trim t := by
  rw [trim, trim, trimLeft, trimLeft, List.dropWhile_append]
  split
  · rename_i hblank
    have hnil : (ws ++ []).dropWhile isBlank = [] := List.dropWhile_append_of_pos hws
    rw [List.append_nil] at hnil
    rw [List.isEmpty_iff.mp hblank, hnil]
  · exact trimRight_append_blanks hws _

/-- Blanks at the end do not change what a text lists. -/
theorem listed_append_blanks {ws : Text} (hws : ∀ c ∈ ws, isBlank c = true) (t : Text) :
    listed (t ++ ws) = listed t := by
  have hplain : ',' ∉ ws := not_mem_of_forall hws (by decide)
  -- only what stands behind the last comma is next to the blanks
  have hpart : ∀ {part : Text}, ',' ∉ part → listed (part ++ ws) = listed part := by
    intro part hpart
    have hboth : ',' ∉ part ++ ws := by simp [hpart, hplain]
    rw [listed_of_not_mem hboth, listed_of_not_mem hpart, trim_append_blanks hws]
  by_cases hcomma : ',' ∈ t
  · obtain ⟨b, a, hrev, hb⟩ := List.eq_append_cons_of_mem (List.mem_reverse.mpr hcomma)
    have ht : t = a.reverse ++ ',' :: b.reverse := by
      rw [← List.reverse_reverse t, hrev]
      simp
    have hlast : ',' ∉ b.reverse := by simpa using hb
    rw [ht, List.append_assoc, List.cons_append, listed_append_comma, listed_append_comma,
      hpart hlast]
  · exact hpart hcomma

theorem listed_trimRight (t : Text) : listed (trimRight t) = listed t := by
  have h := listed_append_blanks (isBlank_of_mem_blankTail (t := t)) (trimRight t)
  rw [trimRight_append_blankTail] at h
  exact h.symm

/-- What is left of a text does not end in a blank. -/
theorem getLast?_trimRight (t : Text) : (trimRight t).getLast?.any isBlank = false := by
  rw [trimRight, List.getLast?_reverse]
  cases h : (t.reverse.dropWhile isBlank).head? with
  | none => rfl
  | some c =>
      have hnot := List.head?_dropWhile_not isBlank t.reverse
      rw [h] at hnot
      simpa using hnot

/-! ## Commas that stand together -/

/-- The text ends with two commas that have only blanks between them. -/
def EndsDoubled (t : Text) : Prop :=
  ∃ front blanks, (∀ c ∈ blanks, isBlank c = true) ∧ t = front ++ ',' :: blanks ++ [',']

/-- A text that ends where a character stands ends before a text without it. -/
theorem prefix_of_not_mem {c : Char} {p a b : Text} (hb : c ∉ b) (h : p ++ [c] <+: a ++ b) :
    p ++ [c] <+: a := by
  obtain ⟨rest, h⟩ := h
  rcases List.append_eq_append_iff.mp h with ⟨u, rfl, _⟩ | ⟨u, hp, rfl⟩
  · exact List.prefix_append _ u
  · rcases List.eq_nil_or_concat u with rfl | ⟨v, d, rfl⟩
    · exact ⟨[], by rw [List.append_nil, hp, List.append_nil]⟩
    · rw [List.concat_eq_append, ← List.append_assoc] at hp
      have hd : [c] = [d] := List.append_inj_right' hp rfl
      injection hd with hd
      exact absurd (by simp [hd]) hb

/-- A text that stands as a word of its own in another one. -/
def HasWord (word t : Text) : Prop :=
  ∃ x y, t = x ++ word ++ y ∧ x.getLast?.any isWord = false ∧ y.head?.any isWord = false

end Text

namespace Script

open Text Registration

variable {name registerName content : Text}

namespace Registration

/-- For a word, to be mentioned is to stand there as a word. -/
theorem mentions_iff_hasWord (hne : name ≠ []) (hword : ∀ c ∈ name, isWord c = true) (t : Text) :
    mentions name t = true ↔ HasWord name t := by
  have hhead : name.head?.any isWord = true := by
    rw [List.head?_eq_some_head hne]
    exact hword _ (List.head_mem hne)
  have hlast : name.getLast?.any isWord = true := by
    rw [List.getLast?_eq_some_getLast hne]
    exact hword _ (List.getLast_mem hne)
  rw [mentions_iff hne, hhead, hlast]
  simp only [HasWord, ne_eq, Bool.true_eq, Bool.not_eq_true]

/-! ## One more entry -/

/-- The three shapes of a map with one more entry: the map was blank, ended in a comma, or is
given one. -/
theorem extend_cases (content name registerName : Text) :
    (trimRight content = [] ∧
        extend content name registerName = ' ' :: entry name registerName) ∨
      (∃ x, trimRight content = x ++ [','] ∧
        extend content name registerName = x ++ ',' :: ' ' :: entry name registerName) ∨
      ((trimRight content).getLast? ≠ some ',' ∧
        extend content name registerName =
          trimRight content ++ ',' :: ' ' :: entry name registerName) := by
  unfold extend
  dsimp only
  rcases List.eq_nil_or_concat (trimRight content) with hkept | ⟨x, c, hkept⟩
  · refine Or.inl ⟨hkept, ?_⟩
    rw [hkept]
    rfl
  · rw [List.concat_eq_append] at hkept
    rw [hkept]
    by_cases hc : c = ','
    · refine Or.inr (Or.inl ⟨x, by rw [hc], ?_⟩)
      simp [hc]
    · refine Or.inr (Or.inr ⟨by simp [hc], ?_⟩)
      simp [hc]

section Item

variable (hitem : IsItem (entry name registerName))

include hitem

/-- **The new entry comes last**, and what was listed stays. -/
theorem listed_extend (content : Text) :
    listed (extend content name registerName) = listed content ++ [entry name registerName] := by
  have hentry : listed (' ' :: entry name registerName) = [entry name registerName] := by
    have hspace : ',' ∉ ' ' :: entry name registerName := by simp [hitem.comma]
    have htrim : trim ([' '] ++ entry name registerName ++ []) = entry name registerName :=
      hitem.trim_eq (forall_of_all (by decide)) (by simp)
    rw [List.append_nil, List.singleton_append] at htrim
    rw [listed_of_not_mem hspace, htrim, if_neg (by simp [hitem.ne_nil])]
  rw [← listed_trimRight content]
  rcases extend_cases content name registerName with ⟨hkept, hextend⟩ | ⟨x, hkept, hextend⟩ |
      ⟨_, hextend⟩
  · rw [hextend, hentry, hkept, listed_nil, List.nil_append]
  · rw [hextend, listed_append_comma, hentry, hkept, listed_append_comma, listed_nil,
      List.append_nil]
  · rw [hextend, listed_append_comma, hentry]

/-- **Commas that stand together** stood together before. -/
theorem prefix_of_doubled {p : Text} (h : p <+: extend content name registerName)
    (hp : EndsDoubled p) : p <+: content := by
  obtain ⟨front, blanks, hblanks, rfl⟩ := hp
  have hkept : trimRight content <+: content :=
    ⟨blankTail content, trimRight_append_blankTail content⟩
  have hplain : ',' ∉ ' ' :: entry name registerName := by simp [hitem.comma]
  rcases extend_cases content name registerName with ⟨_, hextend⟩ | ⟨x, hx, hextend⟩ |
      ⟨hlast, hextend⟩
  · rw [hextend] at h
    exact absurd (h.subset (by simp)) hplain
  · rw [hextend, List.append_cons x] at h
    rw [hx] at hkept
    exact (prefix_of_not_mem hplain h).trans hkept
  · rw [hextend, List.append_cons (trimRight content)] at h
    rcases List.prefix_concat_iff.mp (prefix_of_not_mem hplain h) with h | h
    · -- the comma that was written has neither a comma nor a blank before it
      have hfront : trimRight content = front ++ ',' :: blanks :=
        (List.append_inj_left' h rfl).symm
      rcases List.eq_nil_or_concat blanks with rfl | ⟨ws, d, rfl⟩
      · rw [hfront] at hlast
        exact absurd (by simp) hlast
      · have hsolid := getLast?_trimRight content
        rw [hfront, List.concat_eq_append, ← List.cons_append, ← List.append_assoc,
          List.getLast?_concat, Option.any_some, hblanks d (by simp)] at hsolid
        exact absurd hsolid (by simp)
    · exact h.trans hkept

end Item

end Registration

/-! ## The map of a document -/

/-- A document cut around the first literal map of its script. -/
def literalMap? (code : Text) : Option Cut :=
  (region? code).bind fun r =>
    (Pattern.search? [mapPattern] r.body).map fun cut =>
      ⟨r.head ++ cut.before, cut.found, cut.after ++ r.tail⟩

/-- The first literal map of a script has an opening and a content without a brace. -/
theorem literalMap?_eq_some {code : Text} {r : Region} {map : Cut}
    (hregion : region? code = some r) (hmap : literalMap? code = some map) :
    ∃ before opening content after, OpensAfter before opening ∧ '}' ∉ content ∧
      r.body = before ++ (opening ++ content ++ ['}']) ++ after ∧
      map = ⟨r.head ++ before, opening ++ content ++ ['}'], after ++ r.tail⟩ := by
  rw [literalMap?, hregion, Option.bind_some] at hmap
  obtain ⟨cut, hcut, rfl⟩ := Option.map_eq_some_iff.mp hmap
  obtain ⟨opening, content, hopens, hcontent, hfound⟩ := search?_mapPattern_found hcut
  have hbody := Pattern.search?_eq_some hcut
  rw [hfound] at hbody
  exact ⟨cut.before, opening, content, cut.after, hopens, hcontent, hbody.symm, by rw [hfound]⟩

/-- A map that is put in the place of the first one is found there. -/
theorem literalMap?_replace {code : Text} {r : Region} {before opening content after : Text}
    (hregion : region? code = some r) (hopens : OpensAfter before opening)
    (hcontent : '}' ∉ content) :
    literalMap? (r.head ++ (before ++ (opening ++ content ++ ['}']) ++ after) ++ r.tail) =
      some ⟨r.head ++ before, opening ++ content ++ ['}'], after ++ r.tail⟩ := by
  rw [literalMap?, region?_replace hregion, Option.bind_some, search?_mapPattern hopens hcontent,
    Option.map_some]

section Registered

variable {code : Text} {r : Region} (hdialect : (detect code).dialect = .options)
  (hregion : region? code = some r)

include hdialect hregion

theorem register_options : register code name registerName =
    r.head ++ edit code r.body name registerName ++ r.tail := by
  rw [register, hdialect, hregion]

/-- A word that was merged into a map is found there. -/
theorem register_merged_again (hstate : State.of (hasExport r.body) r.body = .mapped)
    (hne : name ≠ []) (hword : ∀ c ∈ name, isWord c = true)
    (hentry : '}' ∉ entry name registerName) :
    register (register code name registerName) name registerName =
      register code name registerName := by
  have hname := isName_of_word hne hword
  have hseen : mentions name (entry name registerName) = true := by
    refine mentions_entry_of_word_ends hname registerName ?_ ?_
    · rw [List.head?_eq_some_head hne]
      exact hword _ (List.head_mem hne)
    · rw [List.getLast?_eq_some_getLast hne]
      exact hword _ (List.getLast_mem hne)
  have hexport : hasExport r.body = true ∧ Pattern.occurs [keyPattern] r.body = true := by
    unfold State.of at hstate
    split at hstate
    · exact absurd hstate (by simp)
    · rename_i hexport
      split at hstate
      · rename_i hkey
        exact ⟨by simpa using hexport, hkey⟩
      · exact absurd hstate (by simp)
  have htwice := (edit_edit_mapped code (register code name registerName) hname hentry hexport.1
    hexport.2).mpr (fun h => absurd h.1 (by simp [hseen]))
  have hfirst : register code name registerName = _ := register_options hdialect hregion
  have hregion' : region? (register code name registerName) = some
      ⟨r.head, edit code r.body name registerName, r.tail⟩ := by
    rw [hfirst]
    exact region?_replace hregion
  have hdialect' : (detect (register code name registerName)).dialect = .options := by
    rw [hfirst, dialect_replace hregion, hdialect]
  rw [register_options hdialect' hregion', htwice, ← hfirst]

end Registered

/-- **Merging adds one entry to the first map and nothing else.** In a closed options script
with an export and a `components` key, registering a word changes nothing if there is no literal
map, or if the first one has the word. Otherwise the text on both sides of the map stays, the
map is still the first one and lists one entry more, no two commas come together, and
registering again changes nothing. -/
theorem register_mapped {code : Text} (hdialect : (detect code).dialect = .options)
    (hclosed : (detect code).stop ≠ -1) (hstate : state (detect code) code = .mapped)
    (hne : name ≠ []) (hword : ∀ c ∈ name, isWord c = true)
    (hcomma : ',' ∉ registerName) (hbrace : '}' ∉ registerName) :
    (literalMap? code = none → register code name registerName = code) ∧
      ∀ map, literalMap? code = some map →
        (HasWord name (mapContent map.found) → register code name registerName = code) ∧
        (¬ HasWord name (mapContent map.found) →
          ∃ found, register code name registerName = map.before ++ found ++ map.after ∧
            literalMap? (register code name registerName) =
              some ⟨map.before, found, map.after⟩ ∧
            listed (mapContent found) =
              listed (mapContent map.found) ++ [key registerName ++ ": ".toList ++ name] ∧
            (∀ p, p <+: mapContent found → EndsDoubled p → p <+: mapContent map.found) ∧
            register (register code name registerName) name registerName =
              register code name registerName) := by
  obtain ⟨r, hregion⟩ := stop_ne_iff.mp hclosed
  obtain ⟨_, _, _, hdetect⟩ := detect_region hregion
  have hcode : r.head ++ r.body ++ r.tail = code := region?_eq_some hregion
  have hbody : State.of (hasExport r.body) r.body = .mapped := by
    rw [state, body_detect hregion, hdetect] at hstate
    exact hstate
  have hfirst : register code name registerName =
      r.head ++ mergeIntoMap r.body name registerName ++ r.tail := by
    rw [register_options hdialect hregion, edit, hbody]
  have hentry : '}' ∉ entry name registerName :=
    not_mem_entry_of_names (not_mem_of_forall hword (by decide +kernel)) hbrace (by decide)
  have hitem : IsItem (entry name registerName) := isItem_entry hne hword hcomma
  refine ⟨?_, ?_⟩
  · intro hnone
    rw [literalMap?, hregion, Option.bind_some, Option.map_eq_none_iff] at hnone
    rw [hfirst, mergeIntoMap_of_firstMap?_eq_none (by rw [firstMap?, hnone]; rfl), hcode]
  · intro map hmap
    obtain ⟨before, opening, content, after, hopens, hcontent, hcut, rfl⟩ :=
      literalMap?_eq_some hregion hmap
    dsimp only
    rw [mapContent_eq hopens.isOpening, ← mentions_iff_hasWord hne hword]
    rw [hcut, mergeIntoMap_eq hopens hcontent] at hfirst
    constructor
    · intro hseen
      rw [hfirst, if_pos hseen, ← hcut, hcode]
    · intro hseen
      rw [if_neg hseen] at hfirst
      -- the map is written anew where the old one stood, with nothing new in front of it
      have hopens' : OpensAfter before "components: \x7b".toList :=
        ⟨isOpening_written, hopens.edge, hopens.unopened⟩
      have hcontent' : '}' ∉ extend content name registerName := not_mem_extend hcontent hentry
      refine ⟨"components: \x7b".toList ++ extend content name registerName ++ ['}'],
        ?_, ?_, ?_, ?_, ?_⟩
      · rw [hfirst]
        simp
      · rw [hfirst]
        exact literalMap?_replace hregion hopens' hcontent'
      · rw [mapContent_eq isOpening_written]
        exact listed_extend hitem content
      · rw [mapContent_eq isOpening_written]
        exact fun p hp hdoubled => prefix_of_doubled hitem hp hdoubled
      · exact register_merged_again hdialect hregion hbody hne hword hentry

/-- A script whose map has a blank part and ends in a comma. -/
def trailingMap : Text :=
  "<script>export default \x7b components: \x7b 'a-b': c, , d ,\n\x7d \x7d</script>".toList

/-- The new entry follows the comma that is there, and the second time it is found. -/
theorem trailingMap_merged :
    ∃ map, literalMap? trailingMap = some map ∧
      ∃ found, literalMap? (register trailingMap "toast".toList "x toast".toList) =
          some ⟨map.before, found, map.after⟩ ∧
        listed (mapContent found) =
          ["'a-b': c".toList, "d".toList, "'x toast': toast".toList] ∧
        register (register trailingMap "toast".toList "x toast".toList) "toast".toList
            "x toast".toList = register trailingMap "toast".toList "x toast".toList := by
  have hword : ∀ c ∈ "toast".toList, isWord c = true := forall_of_all (by decide +kernel)
  have hmap : literalMap? trailingMap = some ⟨"<script>export default \x7b ".toList,
      "components: \x7b 'a-b': c, , d ,\n\x7d".toList, " \x7d</script>".toList⟩ := by decide +kernel
  have hunseen : ¬ HasWord "toast".toList
      (mapContent "components: \x7b 'a-b': c, , d ,\n\x7d".toList) := by
    rw [← mentions_iff_hasWord (by decide) hword]
    decide +kernel
  obtain ⟨found, _, hfound, hlisted, _, htwice⟩ :=
    ((@register_mapped _ "x toast".toList _ (by decide +kernel) (by decide +kernel)
      (by decide +kernel) (by decide) hword (by decide) (by decide)).2 _ hmap).2 hunseen
  refine ⟨_, hmap, found, hfound, hlisted.trans ?_, htwice⟩
  decide +kernel

end Script

end Graft
