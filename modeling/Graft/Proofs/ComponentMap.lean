import Graft.Proofs.Exports
import Graft.Proofs.Mentions

/-!
# The first literal map of a script

A registration goes to the first literal `components` map of the script, and the next one
looks for that map again, in the text the first one left. This file says where the map is
then.

A literal map starts with an opening, a `components` key and a brace, and runs to the first
closing brace behind it. Only the first character of an opening is a `c` and only the last
one a brace, so no opening lies across the start of another one. The first opening of a text
is therefore one with none in the text before it (`OpensAfter`), whatever follows it, and the
first literal map starts there if there is one at all (`firstMap?_eq_some_iff`).

From this the first map after each kind of registration can be read off: merging extends it
(`firstMap?_mergeIntoMap`), a new map is the first one (`firstMap?_addMap`), and a map in an
appended export is the first one only if nothing in front of it opens one
(`firstMap?_appendExport_mapped`, `_opened` and `_unopened`).
-/

namespace Graft.Script.Registration

open Text Pattern

/-! ## Openings -/

/-- A `components` key and the brace of its map. -/
def openPattern : Pattern := keyPattern ++ blanks ++ exactly ['{']

/-- The body cut around the first opening of a map. -/
def mapOpening? (body : Text) : Option Cut := search? [openPattern] body

/-- The opening of a map: a key, a colon and a brace, with blanks wherever they may stand. -/
def IsOpening (w : Text) : Prop :=
  ∃ ws₁ ws₂ : Text, (∀ c ∈ ws₁, isBlank c = true) ∧ (∀ c ∈ ws₂, isBlank c = true) ∧
    w = "components".toList ++ ws₁ ++ [':'] ++ ws₂ ++ ['{']

/-- The opening that a registration writes. -/
theorem isOpening_written : IsOpening "components: \x7b".toList :=
  ⟨[], [' '], by simp, forall_of_all (by decide), by decide⟩

theorem fits_openPattern {b : Option Char} {w after : Text} :
    Fits openPattern b w after ↔ b.any isWord = false ∧ IsOpening w := by
  have hletter : isWord 'c' = true := by decide +kernel
  simp only [openPattern, keyPattern, fits_append, fits_exactly, fits_blanks, fits_edge]
  constructor
  · rintro ⟨_, _, rfl, ⟨_, ws₂, rfl, ⟨_, _, rfl, ⟨_, ws₁, rfl, ⟨hedge, rfl⟩, h₁⟩, rfl⟩, h₂⟩, rfl⟩
    refine ⟨?_, ws₁, ws₂, h₁, h₂, rfl⟩
    simpa [isEdge, hletter] using hedge
  · rintro ⟨hb, ws₁, ws₂, h₁, h₂, rfl⟩
    refine ⟨_, _, rfl, ⟨_, ws₂, rfl, ⟨_, _, rfl, ⟨_, ws₁, rfl, ⟨?_, rfl⟩, h₁⟩, rfl⟩, h₂⟩, rfl⟩
    simp [isEdge, hletter, hb]

section Opening

variable {w : Text} (hw : IsOpening w)

include hw

theorem IsOpening.mem {c : Char} (hc : c ∈ w) : c ∈ "components:\x7b".toList ∨ isBlank c = true := by
  obtain ⟨ws₁, ws₂, h₁, h₂, rfl⟩ := hw
  simp only [List.mem_append] at hc
  rcases hc with (((hc | hc) | hc) | hc) | hc
  · exact Or.inl ((by decide : "components".toList ⊆ _) hc)
  · exact Or.inr (h₁ c hc)
  · exact Or.inl ((by decide : [':'] ⊆ _) hc)
  · exact Or.inr (h₂ c hc)
  · exact Or.inl ((by decide : ['{'] ⊆ _) hc)

theorem IsOpening.not_mem {c : Char} (hc : c ∉ "components:\x7b".toList)
    (hblank : isBlank c = false) : c ∉ w := by
  intro hm
  rcases hw.mem hm with h | h
  · exact hc h
  · rw [hblank] at h
    exact absurd h (by simp)

/-- Only the first character is a `c`. -/
theorem IsOpening.head : ∃ v, w = 'c' :: v ∧ 'c' ∉ v := by
  obtain ⟨ws₁, ws₂, h₁, h₂, rfl⟩ := hw
  refine ⟨"omponents".toList ++ ws₁ ++ [':'] ++ ws₂ ++ ['{'], rfl, ?_⟩
  intro hc
  simp only [List.mem_append] at hc
  rcases hc with (((hc | hc) | hc) | hc) | hc
  · exact absurd hc (by decide)
  · exact absurd (h₁ _ hc) (by decide)
  · exact absurd hc (by decide)
  · exact absurd (h₂ _ hc) (by decide)
  · exact absurd hc (by decide)

/-- Only the last character is a brace. -/
theorem IsOpening.last : ∃ u, w = u ++ ['{'] ∧ '{' ∉ u := by
  obtain ⟨ws₁, ws₂, h₁, h₂, rfl⟩ := hw
  refine ⟨"components".toList ++ ws₁ ++ [':'] ++ ws₂, rfl, ?_⟩
  intro hc
  simp only [List.mem_append] at hc
  rcases hc with ((hc | hc) | hc) | hc
  · exact absurd hc (by decide)
  · exact absurd (h₁ _ hc) (by decide)
  · exact absurd hc (by decide)
  · exact absurd (h₂ _ hc) (by decide)

theorem IsOpening.ne_nil : w ≠ [] := by
  obtain ⟨v, rfl, _⟩ := hw.head
  simp

/-- An opening that starts in front of a `c` ends in front of it too. -/
theorem IsOpening.ends_before {y rest after : Text} (hy : y ≠ [])
    (h : y ++ 'c' :: rest = w ++ after) : ∃ z, y = w ++ z := by
  obtain ⟨v, rfl, hv⟩ := hw.head
  rcases List.append_eq_append_iff.mp h with ⟨z, hz, hrest⟩ | ⟨z, hz, _⟩
  · cases z with
    | nil => exact ⟨[], by rw [hz]; simp⟩
    | cons d z =>
        obtain ⟨e, y, rfl⟩ := List.exists_cons_of_ne_nil hy
        rw [List.cons_append, List.cons.injEq] at hz hrest
        rw [hz.2, ← hrest.1] at hv
        exact absurd (by simp) hv
  · exact ⟨z, hz⟩

end Opening

/-- Two openings at one place are the same. -/
theorem IsOpening.unique {v w a b : Text} (hv : IsOpening v) (hw : IsOpening w)
    (h : v ++ a = w ++ b) : v = w ∧ a = b := by
  obtain ⟨v, rfl, hbrace⟩ := hv.last
  obtain ⟨w, rfl, hbrace'⟩ := hw.last
  rw [List.append_assoc, List.append_assoc] at h
  obtain ⟨rfl, _, hab⟩ := append_cons_inj hbrace hbrace' h
  exact ⟨rfl, hab⟩

/-! ## Texts that open no map -/

/-- No map is opened in the text. -/
def Unopened (t : Text) : Prop :=
  ∀ x w rest, t = x ++ w ++ rest → IsOpening w → x.getLast?.any isWord = true

theorem Unopened.of_append {a b : Text} (h : Unopened (a ++ b)) : Unopened a := by
  intro x w rest ha hw
  exact h x w (rest ++ b) (by rw [ha]; simp) hw

/-- What ends no opening can be put behind the text. -/
theorem Unopened.append {a b : Text} (h : Unopened a) (hb : '{' ∉ b) : Unopened (a ++ b) := by
  intro x w rest he hw
  obtain ⟨u, rfl, _⟩ := hw.last
  rcases List.append_eq_append_iff.mp he with ⟨z, hz, rfl⟩ | ⟨z, rfl, _⟩
  · rcases List.eq_nil_or_concat z with rfl | ⟨v, d, rfl⟩
    · rw [List.append_nil] at hz
      exact h x _ [] (by rw [← hz, List.append_nil]) hw
    · -- the brace would be behind the text
      rw [List.concat_eq_append, ← List.append_assoc, ← List.append_assoc] at hz
      have hd := (List.append_inj_right' hz rfl)
      injection hd with hd
      exact absurd (by simp [← hd]) hb
  · exact h x _ z rfl hw

/-- What starts no opening can be put in front of the text. -/
theorem Unopened.prepend {p t : Text} (hp : 'c' ∉ p) (h : Unopened t) : Unopened (p ++ t) := by
  intro x w rest he hw
  obtain ⟨v, rfl, _⟩ := hw.head
  rw [List.append_assoc] at he
  rcases List.append_eq_append_iff.mp he with ⟨z, rfl, ht⟩ | ⟨z, rfl, hz⟩
  · have hlast := h z _ rest (by rw [ht, List.append_assoc]) hw
    cases hl : z.getLast? with
    | none => rw [hl] at hlast; exact absurd hlast (by simp)
    | some c => rw [List.getLast?_append, hl, Option.some_or, ← hl]; exact hlast
  · cases z with
    | nil =>
        have hlast := h [] _ rest (by simpa using hz.symm) hw
        exact absurd hlast (by simp)
    | cons d z =>
        rw [List.cons_append, List.cons_append, List.cons.injEq] at hz
        exact absurd (by rw [hz.1]; simp) hp

/-- A script without a `components` key opens no map. -/
theorem unopened_of_keyless {body : Text} (h : occurs [keyPattern] body = false) :
    Unopened body := by
  intro x w rest hbody hw
  by_contra hx
  rw [Bool.not_eq_true] at hx
  have hfit : Fits openPattern x.getLast? w rest := fits_openPattern.mpr ⟨hx, hw⟩
  rw [openPattern, List.append_assoc] at hfit
  obtain ⟨u, v, rfl, hkey, _⟩ := fits_append.mp hfit
  rw [Bool.eq_false_iff] at h
  exact h (occurs_iff.mpr ⟨x, u, v ++ rest, by rw [hbody]; simp, _, by simp, hkey⟩)

/-! ## The first opening -/

/-- A text ends where the first opening of a map starts. -/
structure OpensAfter (before opening : Text) : Prop where
  /-- An opening follows. -/
  isOpening : IsOpening opening
  /-- Its key is a word of its own. -/
  edge : before.getLast?.any isWord = false
  /-- It is the first one. -/
  unopened : Unopened before

section First

variable {before opening body : Text}

/-- Nothing that starts with an opening stands to the left of the first one. -/
theorem OpensAfter.leftmost (h : OpensAfter before opening) {x y w after rest : Text}
    (hbefore : before = x ++ y) (hy : y ≠ []) (he : y ++ opening ++ after = w ++ rest)
    (hw : IsOpening w) : x.getLast?.any isWord = true := by
  obtain ⟨v, hv, _⟩ := h.isOpening.head
  have hplace : y ++ 'c' :: (v ++ after) = w ++ rest := by
    rw [← he, hv]
    simp
  obtain ⟨z, rfl⟩ := hw.ends_before hy hplace
  exact h.unopened x w z (by rw [hbefore]; simp) hw

theorem mapOpening?_eq_some_iff {after : Text} :
    mapOpening? body = some ⟨before, opening, after⟩ ↔
      body = before ++ opening ++ after ∧ OpensAfter before opening := by
  constructor
  · intro h
    obtain ⟨p, hp, hfit⟩ := searchFrom?_fits h
    rw [List.mem_singleton.mp hp, Option.or_none, fits_openPattern] at hfit
    refine ⟨(search?_eq_some h).symm, hfit.2, hfit.1, ?_⟩
    intro x w rest hx hw
    by_contra hlast
    rw [Bool.not_eq_true] at hlast
    have hplace : w ++ rest ++ opening ++ after = w ++ (rest ++ opening ++ after) := by simp
    refine searchFrom?_leftmost h (x := x) ?_ ?_ hplace openPattern (by simp) ?_
    · rw [hx, List.append_assoc]
    · simp [hw.ne_nil]
    · rw [Option.or_none, fits_openPattern]
      exact ⟨hlast, hw⟩
  · rintro ⟨rfl, h⟩
    refine search?_eq_some_of (p := openPattern) (by simp)
      (fits_openPattern.mpr ⟨h.edge, h.isOpening⟩) ?_ ?_
    · intro x y w rest hx hy he q hq hfit
      rw [List.mem_singleton.mp hq, fits_openPattern] at hfit
      rw [h.leftmost hx hy he hfit.2] at hfit
      exact absurd hfit.1 (by simp)
    · intro w rest he q hq hfit
      rw [List.mem_singleton.mp hq, fits_openPattern] at hfit
      exact (hfit.2.unique h.isOpening he.symm).1

theorem mapOpening?_eq_none_iff : mapOpening? body = none ↔ Unopened body := by
  constructor
  · intro h x w rest hx hw
    by_contra hlast
    rw [Bool.not_eq_true] at hlast
    rw [List.append_assoc] at hx
    refine searchFrom?_eq_none h hx openPattern (by simp) ?_
    rw [Option.or_none, fits_openPattern]
    exact ⟨hlast, hw⟩
  · intro h
    cases hs : mapOpening? body with
    | none => rfl
    | some cut =>
        obtain ⟨before, opening, after⟩ := cut
        obtain ⟨hbody, hopens⟩ := mapOpening?_eq_some_iff.mp hs
        have hedge := h _ _ _ hbody hopens.isOpening
        rw [hopens.edge] at hedge
        exact absurd hedge (by simp)

/-! ## The first map -/

theorem fits_mapPattern {b : Option Char} {w after : Text} :
    Fits mapPattern b w after ↔ b.any isWord = false ∧ ∃ opening content,
      IsOpening opening ∧ '}' ∉ content ∧ w = opening ++ content ++ ['}'] := by
  have hclass : ∀ {content : Text}, (∀ c ∈ content, (c != '}') = true) ↔ '}' ∉ content := by
    intro content
    constructor
    · intro h hm
      exact absurd (h _ hm) (by decide)
    · intro h c hc
      rw [bne_iff_ne]
      rintro rfl
      exact h hc
  have hpattern : mapPattern = openPattern ++ [.many (· != '}')] ++ exactly ['}'] := rfl
  simp only [hpattern, fits_append, fits_exactly, fits_many, fits_openPattern, hclass]
  constructor
  · rintro ⟨_, _, rfl, ⟨opening, content, rfl, ⟨hb, hopening⟩, hcontent⟩, rfl⟩
    exact ⟨hb, opening, content, hopening, hcontent, rfl⟩
  · rintro ⟨hb, opening, content, hopening, hcontent, rfl⟩
    exact ⟨_, _, rfl, ⟨opening, content, rfl, ⟨hb, hopening⟩, hcontent⟩, rfl⟩

/-- Where a map is opened and a brace follows, the map is found. -/
theorem search?_mapPattern {content after : Text} (h : OpensAfter before opening)
    (hcontent : '}' ∉ content) :
    search? [mapPattern] (before ++ (opening ++ content ++ ['}']) ++ after) =
      some ⟨before, opening ++ content ++ ['}'], after⟩ := by
  refine search?_eq_some_of (p := mapPattern) (by simp)
    (fits_mapPattern.mpr ⟨h.edge, opening, content, h.isOpening, hcontent, rfl⟩) ?_ ?_
  · intro x y w rest hx hy he q hq hfit
    rw [List.mem_singleton.mp hq, fits_mapPattern] at hfit
    obtain ⟨hlast, w, content', hw, _, rfl⟩ := hfit
    have hplace : y ++ opening ++ (content ++ ['}'] ++ after) =
        w ++ (content' ++ ['}'] ++ rest) := by simpa using he
    rw [h.leftmost hx hy hplace hw] at hlast
    exact absurd hlast (by simp)
  · intro w rest he q hq hfit
    rw [List.mem_singleton.mp hq, fits_mapPattern] at hfit
    obtain ⟨_, w, content', hw, hcontent', rfl⟩ := hfit
    have hplace : opening ++ (content ++ '}' :: after) = w ++ (content' ++ '}' :: rest) := by
      simpa using he
    obtain ⟨rfl, hrest⟩ := h.isOpening.unique hw hplace
    obtain ⟨rfl, _, _⟩ := append_cons_inj hcontent hcontent' hrest
    rfl

/-- What the search for a map finds. -/
theorem search?_mapPattern_found {cut : Cut} (h : search? [mapPattern] body = some cut) :
    ∃ opening content, OpensAfter cut.before opening ∧ '}' ∉ content ∧
      cut.found = opening ++ content ++ ['}'] := by
  obtain ⟨p, hp, hfit⟩ := searchFrom?_fits h
  rw [List.mem_singleton.mp hp, Option.or_none, fits_mapPattern] at hfit
  obtain ⟨hedge, opening, content, hopening, hcontent, hfound⟩ := hfit
  refine ⟨opening, content, ⟨hopening, hedge, ?_⟩, hcontent, hfound⟩
  intro x w rest hx hw
  by_contra hlast
  rw [Bool.not_eq_true] at hlast
  -- an earlier opening has a closing brace behind it, that of the map if no other
  have hbrace : '}' ∈ rest ++ cut.found ++ cut.after := by
    rw [hfound]
    simp
  obtain ⟨content', after, hrest, hcontent'⟩ := List.eq_append_cons_of_mem hbrace
  have hplace : w ++ rest ++ cut.found ++ cut.after = w ++ content' ++ ['}'] ++ after := by
    rw [List.append_assoc, List.append_assoc w, ← List.append_assoc rest, hrest]
    simp
  refine searchFrom?_leftmost h (x := x) ?_ ?_ hplace mapPattern (by simp) ?_
  · rw [hx, List.append_assoc]
  · simp [hw.ne_nil]
  · rw [Option.or_none, fits_mapPattern]
    exact ⟨hlast, w, content', hw, hcontent', rfl⟩

/-- The content of the first literal map. -/
def firstMap? (body : Text) : Option Text :=
  (search? [mapPattern] body).map fun cut => mapContent cut.found

theorem mapContent_eq {content : Text} (h : IsOpening opening) :
    mapContent (opening ++ content ++ ['}']) = content := by
  obtain ⟨ws₁, ws₂, h₁, h₂, rfl⟩ := h
  exact mapContent_found h₁ h₂

/-- **The first map starts at the first opening** and runs to the first closing brace. -/
theorem firstMap?_eq_some_iff {content : Text} :
    firstMap? body = some content ↔ ∃ before opening after, OpensAfter before opening ∧
      '}' ∉ content ∧ body = before ++ (opening ++ content ++ ['}']) ++ after := by
  constructor
  · intro h
    obtain ⟨cut, hcut, rfl⟩ := Option.map_eq_some_iff.mp h
    obtain ⟨opening, content, hopens, hcontent, hfound⟩ := search?_mapPattern_found hcut
    refine ⟨cut.before, opening, cut.after, hopens, ?_, ?_⟩
    · rw [hfound, mapContent_eq hopens.isOpening]
      exact hcontent
    · rw [hfound, mapContent_eq hopens.isOpening, ← hfound]
      exact (search?_eq_some hcut).symm
  · rintro ⟨before, opening, after, hopens, hcontent, rfl⟩
    rw [firstMap?, search?_mapPattern hopens hcontent, Option.map_some,
      mapContent_eq hopens.isOpening]

/-- Without a map, the first opening is never closed. -/
theorem not_mem_of_firstMap?_eq_none {after : Text} (hmap : firstMap? body = none)
    (h : mapOpening? body = some ⟨before, opening, after⟩) : '}' ∉ after := by
  obtain ⟨hbody, hopens⟩ := mapOpening?_eq_some_iff.mp h
  intro hbrace
  obtain ⟨content, rest, rfl, hcontent⟩ := List.eq_append_cons_of_mem hbrace
  have hsome : firstMap? body = some content :=
    firstMap?_eq_some_iff.mpr ⟨before, opening, rest, hopens, hcontent, by rw [hbody]; simp⟩
  rw [hmap] at hsome
  exact absurd hsome (by simp)

/-- A script with a map has a `components` key. -/
theorem occurs_key_of_firstMap? {content : Text} (h : firstMap? body = some content) :
    occurs [keyPattern] body = true := by
  cases hkey : occurs [keyPattern] body with
  | true => rfl
  | false =>
      obtain ⟨before, opening, after, hopens, _, rfl⟩ := firstMap?_eq_some_iff.mp h
      have hassoc : before ++ (opening ++ content ++ ['}']) ++ after =
          before ++ opening ++ (content ++ ['}'] ++ after) := by simp
      have hedge := unopened_of_keyless hkey before opening _ hassoc hopens.isOpening
      rw [hopens.edge] at hedge
      exact absurd hedge (by simp)

end First

/-! ## The first map after a registration -/

section Registered

variable {name registerName : Text}

/-- The content of a map that is written for one entry. -/
def soleEntry (name registerName : Text) : Text :=
  '\n' :: List.replicate 4 ' ' ++ entry name registerName ++ '\n' :: List.replicate 2 ' '

theorem not_mem_soleEntry (h : '}' ∉ entry name registerName) :
    '}' ∉ soleEntry name registerName := by
  intro hm
  rcases List.mem_append.mp hm with hm | hm
  · rcases List.mem_append.mp hm with hm | hm
    · exact absurd hm (by decide)
    · exact h hm
  · exact absurd hm (by decide)

theorem not_mem_extend {content : Text} (hcontent : '}' ∉ content)
    (hentry : '}' ∉ entry name registerName) : '}' ∉ extend content name registerName := by
  intro hm
  unfold extend at hm
  dsimp only at hm
  rw [List.mem_append, List.mem_append, List.mem_append] at hm
  rcases hm with ((hm | hm) | hm) | hm
  · refine hcontent ?_
    rw [← trimRight_append_blankTail content]
    simp [hm]
  · split at hm
    · exact absurd hm (by decide)
    · exact absurd hm (by decide)
  · exact absurd hm (by decide)
  · exact hentry hm

/-- One more entry is more than blanks. -/
theorem extend_ne_self (content : Text) : extend content name registerName ≠ content := by
  intro h
  nth_rewrite 2 [← trimRight_append_blankTail content] at h
  unfold extend at h
  dsimp only at h
  rw [List.append_assoc, List.append_assoc] at h
  have htail := List.append_cancel_left h
  have hcolon : ':' ∈ blankTail content := by
    rw [← htail]
    simp [entry]
  exact absurd (isBlank_of_mem_blankTail _ hcolon) (by decide)

/-- Merging rewrites the first map, unless it mentions the name. -/
theorem mergeIntoMap_eq {before opening content after : Text} (hopens : OpensAfter before opening)
    (hcontent : '}' ∉ content) :
    mergeIntoMap (before ++ (opening ++ content ++ ['}']) ++ after) name registerName =
      if mentions name content then before ++ (opening ++ content ++ ['}']) ++ after
      else before ++ ("components: \x7b".toList ++ extend content name registerName ++ ['}']) ++
        after := by
  unfold mergeIntoMap
  rw [search?_mapPattern hopens hcontent]
  dsimp only
  rw [mapContent_eq hopens.isOpening]
  split
  · rfl
  · simp

/-- **Merging extends the first map**, unless it mentions the name. -/
theorem firstMap?_mergeIntoMap {body content : Text} (h : firstMap? body = some content)
    (hentry : '}' ∉ entry name registerName) :
    firstMap? (mergeIntoMap body name registerName) =
      some (if mentions name content then content else extend content name registerName) := by
  obtain ⟨before, opening, after, hopens, hcontent, hbody⟩ := firstMap?_eq_some_iff.mp h
  rw [hbody, mergeIntoMap_eq hopens hcontent]
  split
  · rw [← hbody]
    exact h
  · exact firstMap?_eq_some_iff.mpr ⟨before, _, after,
      ⟨isOpening_written, hopens.edge, hopens.unopened⟩, not_mem_extend hcontent hentry, rfl⟩

theorem mergeIntoMap_of_firstMap?_eq_none {body : Text} (h : firstMap? body = none) :
    mergeIntoMap body name registerName = body := by
  unfold mergeIntoMap
  rw [Option.map_eq_none_iff.mp h]

/-- Merging has nothing to do exactly where the first map mentions the name. -/
theorem mergeIntoMap_eq_self_iff {body : Text} (hentry : '}' ∉ entry name registerName) :
    mergeIntoMap body name registerName = body ↔
      ∀ content, firstMap? body = some content → mentions name content = true := by
  constructor
  · intro h content hcontent
    have hmerged := firstMap?_mergeIntoMap hcontent hentry
    rw [h, hcontent] at hmerged
    cases hm : mentions name content with
    | true => rfl
    | false =>
        rw [hm, if_neg (by simp)] at hmerged
        injection hmerged with hmerged
        exact absurd hmerged.symm (extend_ne_self content)
  · intro h
    cases hmap : firstMap? body with
    | none => exact mergeIntoMap_of_firstMap?_eq_none hmap
    | some content =>
        obtain ⟨before, opening, after, hopens, hcontent, rfl⟩ := firstMap?_eq_some_iff.mp hmap
        rw [mergeIntoMap_eq hopens hcontent, if_pos (h content hmap)]

/-- **A map that is added is the first one.** -/
theorem firstMap?_addMap {body : Text} {cut : Cut} (hkey : occurs [keyPattern] body = false)
    (hcut : exportOpening? body = some cut) (hentry : '}' ∉ entry name registerName) :
    firstMap? (addMap body name registerName) = some (soleEntry name registerName) := by
  have hbody := (exportOpening?_found hcut).1
  have hopens : OpensAfter (cut.before ++ cut.found ++ "\n  ".toList) "components: \x7b".toList := by
    refine ⟨isOpening_written, ?_, ?_⟩
    · have hlast : "\n  ".toList.getLast? = some ' ' := by decide
      rw [List.getLast?_append, hlast, Option.some_or]
      decide +kernel
    -- without a key the script opens no map, and neither does the blank that is put behind it
    · rw [← hbody] at hkey
      exact (unopened_of_keyless hkey).of_append.append (by decide)
  refine firstMap?_eq_some_iff.mpr ⟨_, _, ?_, hopens, not_mem_soleEntry hentry, ?_⟩
  · exact (if (trimLeft cut.after).isEmpty || (trimLeft cut.after).head? == some '}' then []
      else [',']) ++ cut.after
  · unfold addMap
    rw [hcut]
    simp [soleEntry]

/-- What an appended export has in front of its map. -/
def exportFront (typed : Bool) : Text :=
  if typed then "\nexport default defineComponent(\x7b\n  ".toList
  else "\nexport default \x7b\n  ".toList

/-- An appended export, cut around its map. -/
theorem exportText_eq (typed : Bool) (name registerName : Text) :
    ∃ rest, exportText typed name registerName = exportFront typed ++
      ("components: \x7b".toList ++ soleEntry name registerName ++ ['}']) ++ rest := by
  cases typed with
  | true => exact ⟨"\n\x7d)\n".toList, by simp [exportText, exportFront, soleEntry]⟩
  | false => exact ⟨"\n\x7d\n".toList, by simp [exportText, exportFront, soleEntry]⟩

/-- What is put in front of a script with an appended export neither opens a map nor goes on
with a word. -/
theorem appendExport_eq (code body name registerName : Text) :
    ∃ front, 'c' ∉ front ∧ front.getLast?.any isWord = false ∧
      appendExport code body name registerName =
        front ++ body ++ exportText (isTyped code) name registerName := by
  refine ⟨_, ?_, ?_, rfl⟩
  · split
    · decide
    · decide
  · split
    · decide +kernel
    · decide

/-- The words in front of the map of an appended export open none. -/
theorem Unopened.append_exportFront {t : Text} (h : Unopened t) (typed : Bool) :
    Unopened (t ++ exportFront typed) := by
  obtain ⟨back, hfront, hback⟩ : ∃ back, exportFront typed = "\ne".toList ++ 'x' :: back ∧
      'c' ∉ back := by
    cases typed with
    | true => exact ⟨"port default defineComponent(\x7b\n  ".toList, by decide, by decide⟩
    | false => exact ⟨"port default \x7b\n  ".toList, by decide, by decide⟩
  intro x w rest he hw
  rw [hfront, ← List.append_assoc] at he
  -- an opening has no `x`, so it would stand on one side of this one
  rcases placed_char (hw.not_mem (by decide) (by decide)) he with ⟨r, hr, _⟩ | ⟨r, rfl⟩
  · exact h.append (by decide) x w r hr hw
  · obtain ⟨v, rfl, _⟩ := hw.head
    exact absurd (by simp) hback

theorem OpensAfter.prepend {front before opening : Text} (h : OpensAfter before opening)
    (hc : 'c' ∉ front) (hedge : front.getLast?.any isWord = false) :
    OpensAfter (front ++ before) opening := by
  refine ⟨h.isOpening, ?_, h.unopened.prepend hc⟩
  rw [List.getLast?_append]
  cases hl : before.getLast? with
  | none => exact hedge
  | some c =>
      have hbefore := h.edge
      rw [hl] at hbefore
      exact hbefore

/-- A map in the script stays the first one when an export is appended. -/
theorem firstMap?_appendExport_mapped {code body content : Text}
    (h : firstMap? body = some content) :
    firstMap? (appendExport code body name registerName) = some content := by
  obtain ⟨before, opening, after, hopens, hcontent, rfl⟩ := firstMap?_eq_some_iff.mp h
  obtain ⟨front, hc, hedge, happend⟩ := appendExport_eq code
    (before ++ (opening ++ content ++ ['}']) ++ after) name registerName
  refine firstMap?_eq_some_iff.mpr ⟨front ++ before, opening,
    after ++ exportText (isTyped code) name registerName, hopens.prepend hc hedge, hcontent, ?_⟩
  rw [happend]
  simp

/-- A map that the script leaves open takes in the appended export, up to the end of the map
in it. -/
theorem firstMap?_appendExport_opened {code body before opening after : Text}
    (hmap : firstMap? body = none) (h : mapOpening? body = some ⟨before, opening, after⟩)
    (hentry : '}' ∉ entry name registerName) :
    firstMap? (appendExport code body name registerName) =
      some (after ++ exportFront (isTyped code) ++ "components: \x7b".toList ++
        soleEntry name registerName) := by
  have hafter := not_mem_of_firstMap?_eq_none hmap h
  obtain ⟨rfl, hopens⟩ := mapOpening?_eq_some_iff.mp h
  obtain ⟨front, hc, hedge, happend⟩ := appendExport_eq code (before ++ opening ++ after) name
    registerName
  obtain ⟨rest, hrest⟩ := exportText_eq (isTyped code) name registerName
  refine firstMap?_eq_some_iff.mpr ⟨front ++ before, opening, rest, hopens.prepend hc hedge, ?_, ?_⟩
  · have hfront : '}' ∉ exportFront (isTyped code) := by
      cases isTyped code with
      | true => decide
      | false => decide
    simp only [List.mem_append, not_or]
    exact ⟨⟨⟨hafter, hfront⟩, by decide⟩, not_mem_soleEntry hentry⟩
  · rw [happend, hrest]
    simp

/-- Where nothing opens a map, the map of the appended export is the first one. -/
theorem firstMap?_appendExport_unopened {code body : Text} (h : mapOpening? body = none)
    (hentry : '}' ∉ entry name registerName) :
    firstMap? (appendExport code body name registerName) = some (soleEntry name registerName) := by
  obtain ⟨front, hc, _, happend⟩ := appendExport_eq code body name registerName
  obtain ⟨rest, hrest⟩ := exportText_eq (isTyped code) name registerName
  refine firstMap?_eq_some_iff.mpr ⟨front ++ body ++ exportFront (isTyped code), _, rest,
    ⟨isOpening_written, ?_, ?_⟩, not_mem_soleEntry hentry, ?_⟩
  · have hlast : (exportFront (isTyped code)).getLast? = some ' ' := by
      cases isTyped code with
      | true => decide
      | false => decide
    rw [List.getLast?_append, hlast, Option.some_or]
    decide +kernel
  · exact ((mapOpening?_eq_none_iff.mp h).prepend hc).append_exportFront _
  · rw [happend, hrest]
    simp

/-- An appended export is one. -/
theorem hasExport_appendExport (code body name registerName : Text) :
    hasExport (appendExport code body name registerName) = true := by
  obtain ⟨front, _, _, happend⟩ := appendExport_eq code body name registerName
  obtain ⟨rest, hrest⟩ := exportText_eq (isTyped code) name registerName
  obtain ⟨back, hback⟩ : ∃ back, exportFront (isTyped code) = "\nexport default".toList ++
      ' ' :: back := by
    cases isTyped code with
    | true => exact ⟨"defineComponent(\x7b\n  ".toList, by decide⟩
    | false => exact ⟨"\x7b\n  ".toList, by decide⟩
  rw [hasExport_iff, happend, hrest, hback]
  refine Or.inl ⟨"export default".toList, ⟨[' '], by simp, forall_of_all (by decide), by decide⟩,
    front ++ body ++ ['\n'], ' ' :: back ++
      ("components: \x7b".toList ++ soleEntry name registerName ++ ['}']) ++ rest, by simp, ?_⟩
  simp only [List.cons_append, List.head?_cons, Option.any_some]
  decide +kernel

end Registered

end Graft.Script.Registration
