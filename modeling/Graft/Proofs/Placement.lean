import Graft.Proofs.Markers
import Graft.Proofs.Presence
import Graft.Proofs.Separation

/-!
# Where a tag goes

A position is a promise about offsets: with the first start marker at `b` and the last end
marker at `e`, the tag goes right behind `b`, right before `e`, or behind the closing tag that
ends what stands between them. This file states that promise by cutting the document at the
offsets (`Markup.insert_by_position`), with nothing of the two searches and the pattern that
`Markup.insert` is made of.

The two offsets cut the document where the search for the region does (`isRegion_of_offsets`). The
pattern for the closing tag is anchored at the end of the content, and a text is cut before the
blanks at its end in one way only, so what it finds is said by the content without those blanks
(`grown_afterContent`). An insertion at one place is undone by taking out as many characters
there.
-/

namespace Graft.Markup

open Text

/-! ## The region, by its offsets -/

section Region

variable {code : Text} {b e : Nat}

/-- An end marker does not start within the start marker. -/
theorem start_length_le (hb : startTag <+: code.drop b) (he : endTag <+: code.drop e)
    (hbe : b < e) : b + startTag.length ≤ e := by
  have hlen : startTag.length = 10 := rfl
  have hinner : ∀ k < 10, 0 < k → (startTag.drop k).head? ≠ some '<' := by decide
  obtain ⟨k, rfl⟩ : ∃ k, e = b + k := ⟨e - b, by omega⟩
  by_contra hlt
  obtain ⟨rest, hrest⟩ := he
  rw [← List.drop_drop, drop_eq_of_prefix hb,
    List.drop_append_of_le_length (by rw [hlen]; omega)] at hrest
  have hhead := congrArg List.head? hrest
  rw [List.head?_append_of_ne_nil _ (by decide), List.head?_append_of_ne_nil] at hhead
  · exact hinner k (by omega) (by omega) hhead.symm
  · intro hnil
    have := congrArg List.length hnil
    rw [List.length_drop, hlen, List.length_nil] at this
    omega

/-- The document up to the end marker. -/
theorem take_stop (hb : FirstAt startTag code b) (he : endTag <+: code.drop e) (hbe : b < e) :
    code.take b ++ startTag ++ (code.take e).drop (b + startTag.length) = code.take e := by
  have hle := start_length_le hb.here he hbe
  have hfront : (code.take e).take (b + startTag.length) = code.take b ++ startTag := by
    have hlen : (code.take b ++ startTag).length = b + startTag.length := by
      rw [List.length_append, List.length_take_of_le hb.le_length]
    rw [List.take_take, Nat.min_eq_left hle, ← List.take_left' hlen, hb.split]
  rw [← hfront, List.take_append_drop]

/-- The markup region between the two offsets. -/
theorem isRegion_of_offsets (hb : FirstAt startTag code b) (he : LastAt endTag code e)
    (hbe : b < e) :
    IsRegion code (code.take b) ((code.take e).drop (b + startTag.length))
      (code.drop (e + endTag.length)) := by
  have hlen : b + startTag.length ≤ (code.take e).length := by
    rw [List.length_take_of_le (he.le_length (by decide))]
    exact start_length_le hb.here he.here hbe
  have hafter : code.drop (b + startTag.length) =
      (code.take e).drop (b + startTag.length) ++ endTag ++ code.drop (e + endTag.length) := by
    rw [List.append_assoc, ← drop_eq_of_prefix he.here, ← List.drop_append_of_le_length hlen,
      List.take_append_drop]
  refine ⟨by rw [hb.cut?_eq, hafter], ?_⟩
  rw [endTag_eq, cutLast?_eq_some_iff (by decide), ← endTag_eq]
  exact ⟨rfl, he.not_infix (by decide)⟩

end Region

/-! ## The closing tag of the root -/

/-- A text ends with a closing tag. -/
def EndsClosed (t : Text) : Prop :=
  ∃ x name : Text, t = x ++ "</".toList ++ name ++ ['>'] ∧ name ≠ [] ∧
    ∀ c ∈ name, c.isAlphanum = true ∨ c = '_' ∨ c = '-'

/-- What fits the pattern of a closing tag: the tag, and blanks up to the end. -/
theorem fits_closingPattern {before : Option Char} {w after : Text} :
    Pattern.Fits closingPattern before w after ↔ after = [] ∧
      ∃ name ws : Text, w = "</".toList ++ name ++ ['>'] ++ ws ∧ name ≠ [] ∧
        (∀ c ∈ name, c.isAlphanum = true ∨ c = '_' ∨ c = '-') ∧ ∀ c ∈ ws, isBlank c = true := by
  simp only [closingPattern, Pattern.fits_append, Pattern.fits_exactly, Pattern.fits_several,
    Pattern.fits_blanks, Pattern.fits_finish, Bool.or_eq_true, beq_iff_eq, or_assoc]
  constructor
  · rintro ⟨_, _, rfl, ⟨_, ws, rfl, ⟨_, _, rfl, ⟨_, name, rfl, rfl, hne, hname⟩, rfl⟩, hws⟩, rfl,
      hafter⟩
    exact ⟨hafter, name, ws, by simp, hne, hname, hws⟩
  · rintro ⟨hafter, name, ws, rfl, hne, hname, hws⟩
    exact ⟨_, [], by simp, ⟨_, ws, rfl, ⟨_, _, rfl, ⟨_, name, rfl, rfl, hne, hname⟩, rfl⟩, hws⟩,
      rfl, hafter⟩

/-- **Behind the root element.** The tag goes behind the closing tag that the content ends with,
in front of the blanks; content that ends otherwise takes it at its end. -/
theorem grown_afterContent (content tag : Text) :
    (EndsClosed (trimRight content) → grown content tag .afterContent =
      trimRight content ++ "\n  ".toList ++ tag ++ blankTail content) ∧
    (¬ EndsClosed (trimRight content) →
      grown content tag .afterContent = grown content tag .rootEnd) := by
  unfold grown insertAfterRoot
  dsimp only
  cases hs : Pattern.search? [closingPattern] content with
  | none =>
      refine ⟨fun hclosed => ?_, fun _ => rfl⟩
      obtain ⟨x, name, htrim, hne, hname⟩ := hclosed
      have hcontent : content = x ++ ("</".toList ++ name ++ ['>'] ++ blankTail content ++ []) := by
        have h := trimRight_append_blankTail content
        rw [htrim] at h
        rw [List.append_nil, ← List.append_assoc, ← List.append_assoc, ← List.append_assoc]
        exact h.symm
      refine absurd ?_ (Pattern.searchFrom?_eq_none hs hcontent closingPattern (by simp))
      exact fits_closingPattern.mpr
        ⟨rfl, name, blankTail content, rfl, hne, hname, isBlank_of_mem_blankTail⟩
  | some cut =>
      obtain ⟨p, hp, hf⟩ := Pattern.searchFrom?_fits hs
      rw [List.mem_singleton.mp hp] at hf
      obtain ⟨hafter, name, ws, hfound, hne, hname, hws⟩ := fits_closingPattern.mp hf
      have hcontent := Pattern.search?_eq_some hs
      rw [hfound, hafter, List.append_nil, ← List.append_assoc, ← List.append_assoc] at hcontent
      -- the tag that was found and the whole content end in the same blanks
      obtain ⟨hkeep, htail⟩ :=
        trimRight_append (x := "</".toList ++ name) (c := '>') (by decide) hws
      obtain ⟨hkeep', htail'⟩ :=
        trimRight_append (x := cut.before ++ ("</".toList ++ name)) (c := '>') (by decide) hws
      rw [hcontent] at hkeep' htail'
      refine ⟨fun _ => ?_, fun hopen => absurd ⟨cut.before, name, ?_, hne, hname⟩ hopen⟩
      · dsimp only
        rw [hfound, hkeep, htail, hkeep', htail', hafter]
        simp
      · rw [hkeep']
        simp

/-- Right before the end marker nothing is touched. -/
theorem IsRegion.insert_rootEnd {code before content after : Text}
    (h : IsRegion code before content after) (tag : Text) :
    insert code tag .rootEnd =
      splice code (before ++ startTag ++ content).length ("  ".toList ++ tag ++ ['\n']) := by
  have hcode : before ++ startTag ++ content ++ (endTag ++ after) = code := by
    rw [← cut?_eq_some h.start]
    simp
  have hgrown : grown content tag .rootEnd = insertAtEnd [] content [] tag := rfl
  rw [h.insert_eq, ← hcode, splice_append rfl, enclose, hgrown, insertAtEnd]
  simp

/-- Nor is anything touched behind the closing tag of the root element. -/
theorem IsRegion.insert_afterContent {code before content after : Text}
    (h : IsRegion code before content after) (hclosed : EndsClosed (trimRight content))
    (tag : Text) :
    insert code tag .afterContent =
      splice code (before ++ startTag ++ trimRight content).length ("\n  ".toList ++ tag) := by
  have hcode : before ++ startTag ++ trimRight content ++ (blankTail content ++ endTag ++ after) =
      code := by
    rw [← cut?_eq_some h.start]
    conv_rhs => rw [← trimRight_append_blankTail content]
    simp
  rw [h.insert_eq, (grown_afterContent content tag).1 hclosed, ← hcode, splice_append rfl, enclose]
  simp

/-! ## The promise -/

/-- A tag stands between the markers of a text. They are the markers of the document it was put
into, with the same text in front of the first and behind the last. -/
structure Lands (code result tag : Text) (b e i j : Nat) : Prop where
  /-- The first start marker is where it was. -/
  start : FirstAt startTag result b
  /-- The last end marker has moved on. -/
  stop : LastAt endTag result j
  /-- The tag. -/
  here : tag <+: result.drop i
  /-- It stands behind the first start marker. -/
  behind_start : b + startTag.length ≤ i
  /-- It stands before the last end marker. -/
  before_stop : i + tag.length ≤ j
  /-- What stands in front of the markup. -/
  front : result.take b = code.take b
  /-- What stands behind it. -/
  back : result.drop j = code.drop e

theorem infix_grown (content tag : Text) (position : Position) :
    tag <:+: grown content tag position := by
  cases position with
  | beforeContent =>
      exact ⟨"\n  ".toList, "\n  ".toList ++ trimLeft content, (List.append_assoc _ _ _).symm⟩
  | afterContent => exact infix_insertAfterRoot [] content [] tag
  | rootEnd => exact infix_insertAtEnd [] content [] tag

section Promise

variable {code : Text} {b e : Nat}

/-- The tag lands between the markers, whatever the position. -/
theorem exists_lands (hb : FirstAt startTag code b) (he : LastAt endTag code e) (hbe : b < e)
    (tag : Text) (position : Position) :
    ∃ i j, Lands code (insert code tag position) tag b e i j := by
  have hlen : (code.take b).length = b := List.length_take_of_le hb.le_length
  obtain ⟨x, y, hxy⟩ :=
    infix_grown ((code.take e).drop (b + startTag.length)) tag position
  have hresult : insert code tag position =
      code.take b ++ startTag ++ x ++ tag ++ y ++ code.drop e := by
    rw [(isRegion_of_offsets hb he hbe).insert_eq, ← hxy, drop_eq_of_prefix he.here, enclose]
    simp
  refine ⟨b + startTag.length + x.length, b + startTag.length + x.length + tag.length + y.length,
    ?_⟩
  rw [hresult]
  constructor
  case start => simpa using hb.replace (x ++ tag ++ y ++ code.drop e)
  case stop =>
    have h := he.replace (code.take b ++ startTag ++ x ++ tag ++ y)
    simp only [List.length_append, hlen] at h
    exact h
  case here =>
    have hfront : (code.take b ++ startTag ++ x).length = b + startTag.length + x.length := by
      simp only [List.length_append, hlen]
    rw [List.append_assoc, List.append_assoc _ tag, List.drop_left' hfront]
    exact List.prefix_append tag _
  case behind_start => omega
  case before_stop => omega
  case front =>
    rw [List.append_assoc, List.append_assoc, List.append_assoc, List.append_assoc,
      List.take_left' hlen]
  case back =>
    refine List.drop_left' ?_
    simp only [List.length_append, hlen]

/-- **The positions.** Right behind the start marker the tag takes the place of the blanks there.
Right before the end marker, and behind the closing tag that the content ends with, it is put in
without touching anything else, so that taking it out again gives the document back. Wherever it
goes, it stands between the markers. -/
theorem insert_by_position (hb : FirstAt startTag code b) (tag : Text) :
    insert code tag .beforeContent =
      code.take b ++ "<template>\n  ".toList ++ tag ++ "\n  ".toList ++
        trimLeft (code.drop (b + 10)) ∧
    ∀ e s, LastAt endTag code e → b < e → s = trimRight ((code.take e).drop (b + 10)) →
      insert code tag .rootEnd = splice code e ("  ".toList ++ tag ++ ['\n']) ∧
      (EndsClosed s → insert code tag .afterContent =
        splice code (b + 10 + s.length) ("\n  ".toList ++ tag)) ∧
      (¬ EndsClosed s → insert code tag .afterContent = insert code tag .rootEnd) ∧
      (∀ position, ∃ i j, Lands code (insert code tag position) tag b e i j) ∧
      ∀ position, position ≠ .beforeContent →
        ∃ i, excise (insert code tag position) i (tag.length + 3) = code := by
  refine ⟨?_, fun e s he hbe hs => ?_⟩
  · rw [insert, hb.cut?_eq]
    have hmark : "<template>\n  ".toList = startTag ++ "\n  ".toList := by decide
    rw [hmark]
    simp only [List.append_assoc]
    rfl
  · have hregion := isRegion_of_offsets hb he hbe
    have hstop :
        (code.take b ++ startTag ++ (code.take e).drop (b + startTag.length)).length = e := by
      rw [take_stop hb he.here hbe, List.length_take_of_le (he.le_length (by decide))]
    have hplace : (code.take b ++ startTag ++ s).length = b + 10 + s.length := by
      rw [List.length_append, List.length_append, List.length_take_of_le hb.le_length]
      rfl
    have hrootEnd : insert code tag .rootEnd = splice code e ("  ".toList ++ tag ++ ['\n']) := by
      rw [hregion.insert_rootEnd, hstop]
    have hclosed : EndsClosed s → insert code tag .afterContent =
        splice code (b + 10 + s.length) ("\n  ".toList ++ tag) := by
      intro h
      rw [← hplace, hs]
      exact hregion.insert_afterContent (hs ▸ h) tag
    have hopen : ¬ EndsClosed s → insert code tag .afterContent = insert code tag .rootEnd := by
      intro h
      rw [hregion.insert_eq, hregion.insert_eq]
      rw [(grown_afterContent _ tag).2 (hs ▸ h)]
    refine ⟨hrootEnd, hclosed, hopen, exists_lands hb he hbe tag, fun position hp => ?_⟩
    have hundo : excise (insert code tag .rootEnd) e (tag.length + 3) = code := by
      have hlen : ("  ".toList ++ tag ++ ['\n']).length = tag.length + 3 := by simp
      rw [hrootEnd, ← hlen]
      exact excise_splice (he.le_length (by decide))
    cases position with
    | beforeContent => exact absurd rfl hp
    | rootEnd => exact ⟨e, hundo⟩
    | afterContent =>
        by_cases h : EndsClosed s
        · refine ⟨b + 10 + s.length, ?_⟩
          have hlen : ("\n  ".toList ++ tag).length = tag.length + 3 := by simp
          have hprefix : s <+: (code.take e).drop (b + startTag.length) :=
            ⟨blankTail _, hs ▸ trimRight_append_blankTail _⟩
          have hshort : b + 10 + s.length ≤ e := by
            rw [← hplace, ← hstop]
            exact ((List.prefix_append_right_inj _).mpr hprefix).length_le
          rw [hclosed h, ← hlen]
          exact excise_splice (hshort.trans (he.le_length (by decide)))
        · rw [hopen h]
          exact ⟨e, hundo⟩

end Promise

/-- A page with a block inside its markup, and markup of another kind in front of it. -/
def slottedPage : Text :=
  "<i/>\n<template>\n<a>\n<template #b></template>\n</a>\n \n</template>\n<p/>".toList

/-- The tag goes behind the root element, not behind the block or the last blank line. -/
theorem slottedPage_grown :
    FirstAt startTag slottedPage 5 ∧ LastAt endTag slottedPage 52 ∧
      insert slottedPage "<c d=\"\\1\"/>".toList .afterContent =
        ("<i/>\n<template>\n<a>\n<template #b></template>\n</a>\n  <c d=\"\\1\"/>\n \n" ++
          "</template>\n<p/>").toList := by
  have hb : FirstAt startTag slottedPage 5 := ⟨by decide, by decide⟩
  have he : LastAt endTag slottedPage 52 := (lastAt_iff (by decide)).mpr (by decide +kernel)
  have hclosed : EndsClosed "\n<a>\n<template #b></template>\n</a>".toList :=
    ⟨"\n<a>\n<template #b></template>\n".toList, ['a'], by decide, by decide,
      forall_of_all (by decide)⟩
  obtain ⟨_, hafter, _⟩ :=
    (insert_by_position hb "<c d=\"\\1\"/>".toList).2 52 _ he (by decide)
      (by decide +kernel : "\n<a>\n<template #b></template>\n</a>".toList = _)
  refine ⟨hb, he, (hafter hclosed).trans ?_⟩
  decide +kernel

end Graft.Markup
